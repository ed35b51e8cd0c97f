import SqlBuilder.Formatter
import SqlBuilder.Postgres.Params

/-!
# Preparing statements for Postgres

A statement is rendered with numbered placeholders, whatever style the
configuration has, and its parameters are bound.
-/

namespace SqlBuilder

/-- Why a statement cannot be prepared. -/
inductive PrepareError where
  | builder (error : BuilderError)
  | bind (error : BindError)

/-- A statement that can be sent. -/
structure PgStatement where
  sql : String
  params : PgParams

variable {α : Type} [Assemble α Assembled]

/-- Prepares a statement; of the configuration, only the quoting counts. -/
def prepareWith (statement : α) (config : RenderConfig) :
    Logged (Except PrepareError PgStatement) :=
  let rendered := renderPrepared statement { config with placeholderStyle := .numbered }
  match rendered.value with
  | .error e => ⟨.error (.builder e), rendered.log⟩
  | .ok prepared =>
      let bound := PgParams.ofValues prepared.params
      let log := rendered.log ++ bound.log
      match bound.value with
      | .error e => ⟨.error (.bind e), log⟩
      | .ok params =>
          ⟨.ok ⟨prepared.sql, params⟩,
            log ++ [.preparedForPostgres prepared.sql params.length]⟩

/-- Prepares a statement with quoted identifiers. -/
def prepareForPostgres (statement : α) : Logged (Except PrepareError PgStatement) :=
  prepareWith statement .postgres

end SqlBuilder
