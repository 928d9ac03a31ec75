import MappedSql.Error
import MappedSql.Text.Blank

namespace MappedSql

inductive ValueType
  | any
  | bool
  | int
  | float
  | text
  | timestamp
  | json
  | blob
  | list
  | map
  | record (name : String)
  | cursor
  deriving DecidableEq, Repr

namespace ValueType

def name : ValueType → String
  | any => "any"
  | bool => "bool"
  | int => "int"
  | float => "float"
  | text => "text"
  | timestamp => "timestamp"
  | json => "json"
  | blob => "blob"
  | list => "list"
  | map => "map"
  | record name => name
  | cursor => "cursor"

def ofAlias? (name : String) : Option ValueType :=
  match Text.lowered (Text.trimmed name) with
  | "any" | "object" => some any
  | "bool" | "boolean" | "_boolean" => some bool
  | "int" | "integer" | "long" | "short" | "byte" | "i64" | "i32" | "_int" | "_long" => some int
  | "float" | "double" | "decimal" | "bigdecimal" | "f64" | "_double" => some float
  | "string" | "text" | "str" | "char" => some text
  | "date" | "datetime" | "timestamp" => some timestamp
  | "json" => some json
  | "blob" | "bytes" | "byte[]" => some blob
  | "list" | "arraylist" | "collection" | "array" => some list
  | "map" | "hashmap" => some map
  | "cursor" | "resultset" => some cursor
  | _ => none

end ValueType

inductive DbType
  | bit
  | tinyInt
  | smallInt
  | integer
  | bigInt
  | float
  | real
  | double
  | numeric
  | decimal
  | char
  | varchar
  | longVarchar
  | nvarchar
  | clob
  | date
  | time
  | timestamp
  | binary
  | varbinary
  | blob
  | boolean
  | array
  | struct
  | cursor
  | other
  | null
  | undefined
  deriving DecidableEq, Repr

namespace DbType

def name : DbType → String
  | bit => "BIT"
  | tinyInt => "TINYINT"
  | smallInt => "SMALLINT"
  | integer => "INTEGER"
  | bigInt => "BIGINT"
  | float => "FLOAT"
  | real => "REAL"
  | double => "DOUBLE"
  | numeric => "NUMERIC"
  | decimal => "DECIMAL"
  | char => "CHAR"
  | varchar => "VARCHAR"
  | longVarchar => "LONGVARCHAR"
  | nvarchar => "NVARCHAR"
  | clob => "CLOB"
  | date => "DATE"
  | time => "TIME"
  | timestamp => "TIMESTAMP"
  | binary => "BINARY"
  | varbinary => "VARBINARY"
  | blob => "BLOB"
  | boolean => "BOOLEAN"
  | array => "ARRAY"
  | struct => "STRUCT"
  | cursor => "CURSOR"
  | other => "OTHER"
  | null => "NULL"
  | undefined => "UNDEFINED"

def all : List DbType :=
  [bit, tinyInt, smallInt, integer, bigInt, float, real, double, numeric, decimal, char, varchar,
    longVarchar, nvarchar, clob, date, time, timestamp, binary, varbinary, blob, boolean, array,
    struct, cursor, other, null, undefined]

def ofName (s : String) : Except Error DbType :=
  match all.find? fun type => Text.equalIgnoringCase type.name (Text.trimmed s) with
  | some type => .ok type
  | none => failWith (.config s!"unknown jdbcType `{s}`")

def defaultValueType : DbType → ValueType
  | bit | boolean => .bool
  | tinyInt | smallInt | integer | bigInt => .int
  | float | real | double | numeric | decimal => .float
  | char | varchar | longVarchar | nvarchar | clob => .text
  | date | time | timestamp => .timestamp
  | binary | varbinary | blob => .blob
  | cursor => .cursor
  | array | struct | other | null | undefined => .any

end DbType

/-- Whether a parameter is sent to the driver, read back from it, or both. -/
inductive Direction
  | input
  | output
  | inOut
  deriving DecidableEq, Repr

namespace Direction

def isOutput (direction : Direction) : Bool :=
  direction != input

def name : Direction → String
  | input => "IN"
  | output => "OUT"
  | inOut => "INOUT"

def ofName (s : String) : Except Error Direction :=
  match Text.raised (Text.trimmed s) with
  | "IN" => .ok input
  | "OUT" => .ok output
  | "INOUT" => .ok inOut
  | other => failWith (.config s!"unknown parameter mode `{other}`")

end Direction

end MappedSql
