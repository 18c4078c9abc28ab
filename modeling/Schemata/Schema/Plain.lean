import Schemata.Schema.Basic

/-! # Schemas as plain data

Every node of a schema becomes a record that names its kind first. Known types and actions become their
names, a missing part becomes null, and a value that a tree holds in place of a node stays as it is.
-/

namespace Schemata

def ColumnType.toPlain : ColumnType → Plain
  | known type => .string type.name
  | custom name => .node "CustomType" [(text "name", .string name)]

mutual

def Expression.toPlain : Expression → Plain
  | .var name => .node "VarExpression" [(text "name", .string name)]
  | .call function args =>
    .node "CallExpression"
      [(text "function", .string function), (text "args", .list (Expression.toPlains args))]
  | .literal value => .node "TextExpression" [(text "value", .string value)]
  | .other value => value

def Expression.toPlains : List Expression → List Plain
  | [] => []
  | e :: es => e.toPlain :: Expression.toPlains es

end

def ForeignKey.toPlain (key : ForeignKey) : Plain :=
  .node "ForeignKeyConstraint"
    [(text "column_name", .string key.column),
     (text "reference_table", .string key.referencedTable),
     (text "reference_column", .ofString? key.referencedColumn),
     (text "on_delete", .ofString? (key.onDelete.map OnDelete.name))]

def Constraint.toPlain : Constraint → Plain
  | foreignKey key => key.toPlain
  | other value => value

def Column.toPlain (column : Column) : Plain :=
  .node "Column"
    [(text "name", .string column.name),
     (text "column_type", column.type.toPlain),
     (text "default_value", .ofOption (column.default?.map Expression.toPlain)),
     (text "primary_key", .flag column.primaryKey),
     (text "not_null", .flag column.notNull),
     (text "is_unique", .flag column.unique)]

def Statement.toPlain (statement : Statement) : Plain :=
  match statement with
  | createExtension name ifNotExists =>
    .node statement.kind
      [(text "name", .string name), (text "if_not_exists", .flag ifNotExists)]
  | createTable name columns =>
    .node statement.kind
      [(text "name", .string name), (text "columns", .list (columns.map Column.toPlain))]
  | createEnum name values =>
    .node statement.kind [(text "name", .string name), (text "values", .ofStrings values)]
  | addConstraint table name constraint =>
    .node statement.kind
      [(text "table_name", .string table), (text "constraint_name", .string name),
       (text "constraint", constraint.toPlain)]
  | comment content => .node statement.kind [(text "content", .string content)]
  | other value => value

end Schemata
