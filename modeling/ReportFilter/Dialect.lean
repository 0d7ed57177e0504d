/-
# SQL dialects

The five dialects differ in how a text literal is quoted, how a bind parameter
is named, and how the escape character of a `LIKE` pattern is declared. In
three of them a quote inside a literal is doubled and nothing else is special;
MySQL doubles the backslash too; BigQuery puts a backslash before both.

Key definitions: `Dialect`, `Dialect.find`, `Dialect.quoteText`,
`Dialect.textLiteral`, `Dialect.literal`, `Dialect.placeholder`,
`Dialect.likeEscape`.
Key theorem: `Dialect.find_name`.
-/
import ReportFilter.Notice

namespace ReportFilter

/-- A dialect of SQL. -/
inductive Dialect where
  | postgresql
  | mysql
  | sqlite
  | duckdb
  | bigquery
  deriving DecidableEq, Repr

namespace Dialect

/-- The name that a dialect is asked for by. -/
def name : Dialect → String
  | postgresql => "postgresql"
  | mysql => "mysql"
  | sqlite => "sqlite"
  | duckdb => "duckdb"
  | bigquery => "bigquery"

/-- A dialect in a message. -/
def shown : Dialect → String
  | postgresql => "PostgresDialect()"
  | mysql => "MySQLDialect()"
  | sqlite => "SQLiteDialect()"
  | duckdb => "DuckDBDialect()"
  | bigquery => "BigQueryDialect()"

/-- The dialects by name. -/
def all : List Dialect := [bigquery, duckdb, mysql, postgresql, sqlite]

/-- The dialect of a name, in exactly this spelling. A signaling NaN cannot be
looked up. -/
def find : Value → Except Failure Dialect
  | .text s =>
    match all.find? (·.name = s) with
    | some d => .ok d
    | none => .error (.unknownDialect (.text s))
  | .decimal (.nan _ true _) => .error .unsearchable
  | v => do
    let _ ← v.plain
    .error (.unknownDialect v)

/-- Every dialect is found by its name. -/
theorem find_name (d : Dialect) : find (.text d.name) = .ok d := by
  cases d <;> rfl

/-- What is said about a name that no dialect has. -/
def unknownMessage (name : Value) : String :=
  "unknown dialect: " ++ name.shown ++ ". Available: " ++ listed (all.map Dialect.name)

/-! ### Text literals -/

/-- A character inside a text literal. -/
def quoteChar : Dialect → Char → List Char
  | mysql, c =>
    if c = '\\' then ['\\', '\\'] else if c = '\'' then ['\'', '\''] else [c]
  | bigquery, c =>
    if c = '\\' then ['\\', '\\'] else if c = '\'' then ['\\', '\''] else [c]
  | _, c => if c = '\'' then ['\'', '\''] else [c]

/-- A text as it stands between the quotes of a literal. -/
def quoteText (d : Dialect) (s : String) : String :=
  String.ofList (s.toList.flatMap d.quoteChar)

/-- A text as a literal. -/
def textLiteral (d : Dialect) (s : String) : String := "'" ++ d.quoteText s ++ "'"

theorem toList_textLiteral (d : Dialect) (s : String) :
    (d.textLiteral s).toList = '\'' :: s.toList.flatMap d.quoteChar ++ ['\''] := by
  simp [textLiteral, quoteText]

/-! ### Values -/

/-- A value as a literal: numbers stand bare, dates and texts between quotes. -/
def literal (d : Dialect) : Value → Except Failure String
  | .none => .ok "NULL"
  | .bool b => .ok (if b then "TRUE" else "FALSE")
  | .date day => .ok (d.textLiteral (String.ofList day.literalText))
  | .timestamp t => .ok (d.textLiteral (String.ofList t.literalText))
  | .text s => .ok (d.textLiteral s)
  | v => v.plain

/-- The bind parameter of a number. -/
def placeholder (d : Dialect) (index : Int) : String :=
  match d with
  | postgresql | duckdb => "$" ++ String.ofList (Text.signed index)
  | bigquery => "@p" ++ String.ofList (Text.signed index)
  | mysql | sqlite => "?"

/-- The clause that makes the backslash the escape character of a pattern. It
is a literal itself: where the backslash is special it is doubled. BigQuery
has no clause, the backslash being its escape character. -/
def likeEscape : Dialect → String
  | postgresql => " ESCAPE E'\\\\'"
  | mysql => " ESCAPE '\\\\'"
  | sqlite | duckdb => " ESCAPE '\\'"
  | bigquery => ""

end Dialect
end ReportFilter
