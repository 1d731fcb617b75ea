import SqlAssist.Number.Entry
import SqlAssist.Text.Blank
import SqlAssist.Validation

/-!
# The usual rules

`Rules.usual` are the rules that the program is run with. Numbers are also taken from texts, truth
values are the numbers 1 and 0, and the dialects of SQL are known by their names. A name that has
settings of the dialect behind it is not known to these rules.
-/
namespace SqlAssist.Rules

/-- A whole number. -/
def wholeNumber (value : Value) : Except Fault Int :=
  match value with
  | .int n => .ok n
  | .bool b => .ok (if b then 1 else 0)
  | .float x =>
    match Binary64.decode x with
    | .finite _ _ _ =>
      match Binary64.toInt? x with
      | none => .error .fractional
      | some n => if n.natAbs < twoTo 63 then .ok n else .error .integerSize
    | _ => .error .notFinite
  | .string s =>
    match Entry.int s.toList with
    | .ok n => .ok n
    | .error .unreadable => .error .unreadableInteger
    | .error .tooManyDigits => .error .integerSize
  | _ => .error .notInteger

/-- A number. -/
def number (value : Value) : Except Fault Float :=
  match value with
  | .float x => .ok x
  | .int n =>
    match Binary64.decode (Binary64.ofInt n) with
    | .finite _ _ _ => .ok (Binary64.ofInt n)
    | _ => .error .notNumber
  | .bool b => .ok (Binary64.ofInt (if b then 1 else 0))
  | .string s =>
    match Entry.float? s.toList with
    | some x => .ok x
    | none => .error .unreadableNumber
  | _ => .error .notNumber

/-- A text. -/
def text (value : Value) : Except Fault String :=
  match value with
  | .string s => .ok s
  | _ => .error .notString

/-- The names of the dialects of SQL. -/
def dialects : List String :=
  ["", "athena", "bigquery", "clickhouse", "databricks", "dax", "doris", "dremio", "drill", "druid",
   "duckdb", "dune", "exasol", "fabric", "hive", "materialize", "mysql", "oracle", "postgres",
   "presto", "prql", "redshift", "risingwave", "singlestore", "snowflake", "solr", "spark",
   "spark2", "sqlite", "starrocks", "tableau", "teradata", "trino", "tsql"]

/-- A dialect is known with or without blanks around its name. -/
def knownDialect (name : String) : Verdict :=
  if dialects.contains (String.ofList (Text.strip name.toList)) then .accepted else .refused

/-- The rules that the program is run with. -/
def usual : Rules := ⟨wholeNumber, number, text, knownDialect⟩

end SqlAssist.Rules
