/-!
# Keywords

The keywords that the statement builders write, one name for each text.
-/

namespace SqlBuilder

namespace Keyword

def all : String := "ALL"
def and : String := "AND"
def andNot : String := "AND NOT"
def any : String := "ANY"
def as : String := "AS"
def asc : String := "ASC"
def between : String := "BETWEEN"
def crossJoin : String := "CROSS JOIN"
def defaultValues : String := "DEFAULT VALUES"
def deleteFrom : String := "DELETE FROM"
def desc : String := "DESC"
def exists_ : String := "EXISTS"
def from_ : String := "FROM"
def fullJoin : String := "FULL JOIN"
def groupBy : String := "GROUP BY"
def having : String := "HAVING"
def in_ : String := "IN"
def innerJoin : String := "INNER JOIN"
def insertInto : String := "INSERT INTO"
def isNotNull : String := "IS NOT NULL"
def isNull : String := "IS NULL"
def leftJoin : String := "LEFT JOIN"
def limit : String := "LIMIT"
def notBetween : String := "NOT BETWEEN"
def notExists : String := "NOT EXISTS"
def notIn : String := "NOT IN"
def nullsFirst : String := "NULLS FIRST"
def nullsLast : String := "NULLS LAST"
def offset : String := "OFFSET"
def on : String := "ON"
def onConflictDoNothing : String := "ON CONFLICT DO NOTHING"
def or : String := "OR"
def orNot : String := "OR NOT"
def orderBy : String := "ORDER BY"
def returning : String := "RETURNING"
def rightJoin : String := "RIGHT JOIN"
def select : String := "SELECT"
def selectDistinct : String := "SELECT DISTINCT"
def set : String := "SET"
def some : String := "SOME"
def union : String := "UNION"
def unionAll : String := "UNION ALL"
def update : String := "UPDATE"
def using_ : String := "USING"
def values : String := "VALUES"
def where_ : String := "WHERE"
def with_ : String := "WITH"
def withRecursive : String := "WITH RECURSIVE"

end Keyword

end SqlBuilder
