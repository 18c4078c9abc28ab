import Schemata.Schema.Basic

/-! # Schemas in words

Types, expressions, constraints, columns and statements on one line each. An expression that is none of
the three kinds has no such line.
-/

namespace Schemata

/-- Why a report cannot be written. -/
inductive ReportError where
  | unknownExpression (value : Plain)
  | unknownFormat (name : Text)
  | unwritable (typeName : Text)
deriving DecidableEq, Repr

def ColumnType.format : ColumnType → Text
  | known type => type.name
  | custom name => name

mutual

/-- An expression as it is written in a schema; only the quote is escaped in a literal. -/
def Expression.format : Expression → Except ReportError Text
  | .var name => .ok name
  | .literal value => .ok (text "'" ++ Text.replace '\'' "\\'" value ++ text "'")
  | .call function args => do
    let shown ← Expression.formatAll args
    return function ++ text "(" ++ Text.join ", " shown ++ text ")"
  | .other value => .error (.unknownExpression value)

def Expression.formatAll : List Expression → Except ReportError (List Text)
  | [] => .ok []
  | e :: es => do
    let first ← e.format
    let rest ← Expression.formatAll es
    return first :: rest

end

namespace ForeignKey

/-- The referenced table, and its column if one is named. -/
def target (key : ForeignKey) : Text :=
  match key.referencedColumn.filter (· ≠ []) with
  | some column => key.referencedTable ++ text "." ++ column
  | none => key.referencedTable

def describe (key : ForeignKey) : Text :=
  key.column ++ text " -> " ++ key.target
    ++ match key.onDelete with
      | some action => text " ON DELETE " ++ action.name
      | none => []

end ForeignKey

def Constraint.describe : Constraint → Text
  | foreignKey key => key.describe
  | other value => value.typeName

namespace Column

/-- The default value in words, if there is one. -/
def formatDefault? (column : Column) : Except ReportError (Option Text) :=
  match column.default? with
  | some e => some <$> e.format
  | none => .ok none

def describe (column : Column) : Except ReportError Text := do
  let default? ← column.formatDefault?
  let clauses :=
    (default?.map (text "DEFAULT " ++ ·)).toList
      ++ (if column.primaryKey then [text "PRIMARY KEY"] else [])
      ++ (if column.notNull then [text "NOT NULL"] else [])
      ++ (if column.unique then [text "UNIQUE"] else [])
  return Text.join " " ([column.name, column.type.format] ++ clauses)

end Column

def Statement.describe (statement : Statement) : Text :=
  match statement with
  | createExtension name _ => text "extension " ++ name
  | createTable name columns =>
    text "table " ++ name ++ text " (" ++ Text.ofNat columns.length ++ text " columns)"
  | createEnum name values => text "enum " ++ name ++ text ": " ++ Text.join ", " values
  | addConstraint table name constraint =>
    text "constraint " ++ name ++ text " on " ++ table ++ text ": " ++ constraint.describe
  | comment content => text "-- " ++ content
  | other _ => statement.kind

end Schemata
