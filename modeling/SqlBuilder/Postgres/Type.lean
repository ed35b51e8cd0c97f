/-!
# Postgres types

The types that parameters are encoded for, and the numbers by which the
binary format of arrays names them. Most types are known by number alone; those
of extensions get their numbers in each database anew and are known by name.
-/

namespace SqlBuilder

/-- A type that is no array. -/
inductive PgBaseType where
  | bool | bytea | name | int8 | int2 | int4 | text | json | float4 | float8
  | bpchar | varchar | date | time | timestamp | timestamptz | numeric | uuid | jsonb
  /-- The type of a constant whose type is still open. -/
  | unknown
  /-- Any other type, with its own name. -/
  | other (label : String) (oid : UInt32)
deriving DecidableEq

namespace PgBaseType

/-- The types that have a case of their own. -/
def listed : List PgBaseType :=
  [.bool, .bytea, .name, .int8, .int2, .int4, .text, .json, .float4, .float8, .bpchar,
   .varchar, .date, .time, .timestamp, .timestamptz, .numeric, .uuid, .jsonb, .unknown]

def sqlName : PgBaseType → String
  | .bool => "BOOL"
  | .bytea => "BYTEA"
  | .name => "NAME"
  | .int8 => "INT8"
  | .int2 => "INT2"
  | .int4 => "INT4"
  | .text => "TEXT"
  | .json => "JSON"
  | .float4 => "FLOAT4"
  | .float8 => "FLOAT8"
  | .bpchar => "BPCHAR"
  | .varchar => "VARCHAR"
  | .date => "DATE"
  | .time => "TIME"
  | .timestamp => "TIMESTAMP"
  | .timestamptz => "TIMESTAMPTZ"
  | .numeric => "NUMERIC"
  | .uuid => "UUID"
  | .jsonb => "JSONB"
  | .unknown => "UNKNOWN"
  | .other label _ => label

def oid : PgBaseType → Nat
  | .bool => 16
  | .bytea => 17
  | .name => 19
  | .int8 => 20
  | .int2 => 21
  | .int4 => 23
  | .text => 25
  | .json => 114
  | .float4 => 700
  | .float8 => 701
  | .bpchar => 1042
  | .varchar => 1043
  | .date => 1082
  | .time => 1083
  | .timestamp => 1114
  | .timestamptz => 1184
  | .numeric => 1700
  | .uuid => 2950
  | .jsonb => 3802
  | .unknown => 705
  | .other _ oid => oid.toNat

theorem oid_lt (type : PgBaseType) : type.oid < Nat.pow 256 4 := by
  cases type with
  | other label oid => exact oid.toNat_lt
  | _ => decide

/-- The listed type of a name. -/
def ofSqlName? (name : String) : Option PgBaseType := listed.find? (·.sqlName == name)

/-- Whether a text can be sent as the type. Of the types of extensions these are
texts that ignore case, label trees, and two kinds of patterns for label trees. -/
def takesText : PgBaseType → Bool
  | .text | .varchar | .bpchar | .name | .unknown => true
  | .other label _ => ["citext", "ltree", "lquery", "ltxtquery"].contains label
  | _ => false

/-- Whether the binary form of a text has a version in front. -/
def textHasVersion : PgBaseType → Bool
  | .other label _ => ["ltree", "lquery", "ltxtquery"].contains label
  | _ => false

end PgBaseType

/-- A type, or the type of its arrays. -/
inductive PgType where
  | base (type : PgBaseType)
  | array (element : PgBaseType)
deriving DecidableEq

end SqlBuilder
