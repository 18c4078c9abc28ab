import Schemata.Schema.Plain

/-! # Schemas are told by their plain data

The plain data of a node tells the node. Known types and actions are told by their names, all other nodes by
their kind and their fields, and a missing part by null. A node is well-formed if no part of it is a foreign
value.
-/

namespace Schemata

/-! ## Well-formed nodes -/

inductive Expression.WellFormed : Expression → Prop
  | var (name : Text) : WellFormed (.var name)
  | call (function : Text) {args : List Expression} : (∀ arg ∈ args, WellFormed arg) →
      WellFormed (.call function args)
  | literal (value : Text) : WellFormed (.literal value)

def Column.WellFormed (column : Column) : Prop := ∀ e ∈ column.default?, e.WellFormed

inductive Constraint.WellFormed : Constraint → Prop
  | foreignKey (key : ForeignKey) : WellFormed (.foreignKey key)

inductive Statement.WellFormed : Statement → Prop
  | createExtension (name : Text) (ifNotExists : Bool) : WellFormed (.createExtension name ifNotExists)
  | createTable (name : Text) {columns : List Column} : (∀ column ∈ columns, column.WellFormed) →
      WellFormed (.createTable name columns)
  | createEnum (name : Text) (values : List Text) : WellFormed (.createEnum name values)
  | addConstraint (table name : Text) {constraint : Constraint} : constraint.WellFormed →
      WellFormed (.addConstraint table name constraint)
  | comment (content : Text) : WellFormed (.comment content)

/-! ## Plain data of parts -/

/-- Records of different kinds differ. -/
theorem Plain.node_ne {kind kind' : Text} {fields fields' : List (Text × Plain)} (differ : kind ≠ kind') :
    Plain.node kind fields ≠ Plain.node kind' fields' := fun same => differ (congrArg Plain.typeName same)

theorem eq_of_map_eq {α β : Type} {f : α → β} {l l' : List α}
    (injective : ∀ a ∈ l, ∀ b ∈ l', f a = f b → a = b) (same : l.map f = l'.map f) : l = l' := by
  induction l generalizing l' with
  | nil => exact (List.map_eq_nil_iff.1 same.symm).symm
  | cons a l ih =>
    cases l' with
    | nil => cases same
    | cons b l' =>
      obtain ⟨head, tail⟩ := List.cons.inj same
      rw [injective a List.mem_cons_self b List.mem_cons_self head,
        ih (fun c member d member' => injective c (List.mem_cons_of_mem _ member) d (List.mem_cons_of_mem _ member'))
          tail]

/-- A missing value is told from one that is never null. -/
theorem Plain.ofOption_map_injective {α : Type} {f : α → Plain} {o o' : Option α}
    (injective : ∀ a ∈ o, ∀ b ∈ o', f a = f b → a = b) (filled : ∀ a ∈ o, f a ≠ .null)
    (filled' : ∀ a ∈ o', f a ≠ .null) (same : Plain.ofOption (o.map f) = Plain.ofOption (o'.map f)) : o = o' := by
  cases o with
  | none =>
    cases o' with
    | none => rfl
    | some b => exact absurd same.symm (filled' b rfl)
  | some a =>
    cases o' with
    | none => exact absurd same (filled a rfl)
    | some b => rw [injective a rfl b rfl same]

theorem Plain.ofString?_injective {t t' : Option Text} (same : Plain.ofString? t = Plain.ofString? t') : t = t' := by
  refine Plain.ofOption_map_injective (fun a _ b _ => Plain.string.inj) ?_ ?_ same <;> simp

theorem KnownType.name_injective {type type' : KnownType} (same : type.name = type'.name) : type = type' := by
  have found := ofName?_name type
  rw [same, ofName?_name] at found
  exact (Option.some.inj found).symm

theorem OnDelete.name_injective {action action' : OnDelete} (same : action.name = action'.name) :
    action = action' := by
  have found := ofName?_name action
  rw [same, ofName?_name] at found
  exact (Option.some.inj found).symm

theorem ColumnType.toPlain_injective {type type' : ColumnType} (same : type.toPlain = type'.toPlain) :
    type = type' := by
  cases type with
  | known type =>
    cases type' with
    | known type' => rw [KnownType.name_injective (Plain.string.inj same)]
    | custom name => cases same
  | custom name =>
    cases type' with
    | known type' => cases same
    | custom name' =>
      simp only [toPlain, Plain.node, Plain.record.injEq, List.cons.injEq, Prod.mk.injEq, Plain.string.injEq,
        true_and, and_true] at same
      rw [same]

theorem Expression.toPlains_eq_map (es : List Expression) : Expression.toPlains es = es.map Expression.toPlain := by
  induction es with
  | nil => rfl
  | cons e es ih => rw [Expression.toPlains, ih, List.map_cons]

theorem Expression.toPlain_injective {a b : Expression} (well : a.WellFormed) (well' : b.WellFormed)
    (same : a.toPlain = b.toPlain) : a = b := by
  induction well generalizing b with
  | var name =>
    cases well' <;> simp only [toPlain] at same
    · simpa [Plain.node] using same
    · exact absurd same (Plain.node_ne (by decide))
    · exact absurd same (Plain.node_ne (by decide))
  | call function _ ih =>
    cases well' <;> simp only [toPlain] at same
    · exact absurd same (Plain.node_ne (by decide))
    · next function' args' well' =>
      simp only [Plain.node, toPlains_eq_map, Plain.record.injEq, List.cons.injEq, Prod.mk.injEq,
        Plain.string.injEq, Plain.list.injEq, true_and, and_true] at same
      rw [same.1, eq_of_map_eq (fun a member b member' => ih a member (well' b member')) same.2]
    · exact absurd same (Plain.node_ne (by decide))
  | literal value =>
    cases well' <;> simp only [toPlain] at same
    · exact absurd same (Plain.node_ne (by decide))
    · exact absurd same (Plain.node_ne (by decide))
    · simpa [Plain.node] using same

theorem Expression.toPlain_ne_null {e : Expression} (well : e.WellFormed) : e.toPlain ≠ .null := by
  cases well <;> simp [toPlain, Plain.node]

theorem ForeignKey.toPlain_injective {key key' : ForeignKey} (same : key.toPlain = key'.toPlain) : key = key' := by
  obtain ⟨column, table, referenced, action⟩ := key
  obtain ⟨column', table', referenced', action'⟩ := key'
  simp only [toPlain, Plain.node, Plain.record.injEq, List.cons.injEq, Prod.mk.injEq, Plain.string.injEq,
    true_and, and_true] at same
  obtain ⟨columns, tables, references, actions⟩ := same
  have names := Plain.ofString?_injective actions
  rw [columns, tables, Plain.ofString?_injective references,
    Option.map_injective (fun _ _ => OnDelete.name_injective) names]

theorem Constraint.toPlain_injective {constraint constraint' : Constraint} (well : constraint.WellFormed)
    (well' : constraint'.WellFormed) (same : constraint.toPlain = constraint'.toPlain) :
    constraint = constraint' := by
  cases well with
  | foreignKey key =>
    cases well' with
    | foreignKey key' => rw [ForeignKey.toPlain_injective same]

theorem Column.toPlain_injective {column column' : Column} (well : column.WellFormed) (well' : column'.WellFormed)
    (same : column.toPlain = column'.toPlain) : column = column' := by
  obtain ⟨name, type, default?, primaryKey, notNull, unique, _⟩ := column
  obtain ⟨name', type', default?', primaryKey', notNull', unique', _⟩ := column'
  simp only [toPlain, Plain.node, Plain.record.injEq, List.cons.injEq, Prod.mk.injEq, Plain.string.injEq,
    Plain.flag.injEq, true_and, and_true] at same
  obtain ⟨rfl, types, defaults, rfl, rfl, rfl⟩ := same
  obtain rfl := ColumnType.toPlain_injective types
  obtain rfl : default? = default?' := Plain.ofOption_map_injective
    (fun a member b member' => Expression.toPlain_injective (well a member) (well' b member'))
    (fun a member => Expression.toPlain_ne_null (well a member))
    (fun a member => Expression.toPlain_ne_null (well' a member)) defaults
  rfl

theorem Statement.toPlain_injective {statement statement' : Statement} (well : statement.WellFormed)
    (well' : statement'.WellFormed) (same : statement.toPlain = statement'.toPlain) : statement = statement' := by
  cases well <;> cases well' <;> simp only [toPlain, kind] at same <;>
    try exact absurd same (Plain.node_ne (by decide))
  all_goals
    simp only [Plain.node, Plain.ofStrings, Plain.record.injEq, List.cons.injEq, Prod.mk.injEq, Plain.string.injEq,
      Plain.flag.injEq, Plain.list.injEq, true_and, and_true] at same
  · rw [same.1, same.2]
  · next columns well _ columns' well' =>
    rw [same.1, eq_of_map_eq (fun a member b member' => Column.toPlain_injective (well a member) (well' b member'))
      same.2]
  · rw [same.1, eq_of_map_eq (fun _ _ _ _ => Plain.string.inj) same.2]
  · next well _ _ _ well' => rw [same.1, same.2.1, Constraint.toPlain_injective well well' same.2.2]
  · rw [same]

/-! ## Nodes of all families -/

/-- A node of a schema, or a part of one that is missing. -/
inductive SchemaNode where
  | statement (s : Statement)
  | column (c : Column)
  | columnType (t : ColumnType)
  | expression (e : Expression)
  | constraint (c : Constraint)
  | onDelete (action : OnDelete)
  | absent
deriving DecidableEq, Repr

namespace SchemaNode

def toPlain : SchemaNode → Plain
  | statement s => s.toPlain
  | column c => c.toPlain
  | columnType t => t.toPlain
  | expression e => e.toPlain
  | constraint c => c.toPlain
  | onDelete action => .string action.name
  | absent => .null

inductive WellFormed : SchemaNode → Prop
  | statement {s : Statement} : s.WellFormed → WellFormed (.statement s)
  | column {c : Column} : c.WellFormed → WellFormed (.column c)
  | columnType (t : ColumnType) : WellFormed (.columnType t)
  | expression {e : Expression} : e.WellFormed → WellFormed (.expression e)
  | constraint {c : Constraint} : c.WellFormed → WellFormed (.constraint c)
  | onDelete (action : OnDelete) : WellFormed (.onDelete action)
  | absent : WellFormed .absent

/-- The families of nodes. -/
inductive Family where
  | statement
  | column
  | columnType
  | expression
  | constraint
  | onDelete
  | absent
deriving DecidableEq, Repr

def family : SchemaNode → Family
  | statement _ => .statement
  | column _ => .column
  | columnType _ => .columnType
  | expression _ => .expression
  | constraint _ => .constraint
  | onDelete _ => .onDelete
  | absent => .absent

/-- The family of the nodes of a kind. -/
def familyOfKind : List (Text × Family) :=
  [(text "CreateExtension", .statement), (text "CreateTable", .statement), (text "CreateEnumType", .statement),
   (text "AddConstraint", .statement), (text "Comment", .statement), (text "Column", .column),
   (text "CustomType", .columnType), (text "VarExpression", .expression), (text "CallExpression", .expression),
   (text "TextExpression", .expression), (text "ForeignKeyConstraint", .constraint)]

/-- The family of a node as its plain data tells it. -/
def familyOf? : Plain → Option Family
  | .null => some .absent
  | .string name => if (KnownType.ofName? name).isSome then some .columnType else some .onDelete
  | value => familyOfKind.lookup value.typeName

theorem familyOf?_toPlain {node : SchemaNode} (well : node.WellFormed) : familyOf? node.toPlain = some node.family := by
  cases well with
  | statement well => cases well <;> rfl
  | column _ => rfl
  | columnType type =>
    cases type with
    | known type => cases type <;> rfl
    | custom name => rfl
  | expression well => cases well <;> rfl
  | constraint well => cases well; rfl
  | onDelete action => cases action <;> rfl
  | absent => rfl

/-- No two well-formed nodes have the same plain data. -/
theorem toPlain_injective {a b : SchemaNode} (well : a.WellFormed) (well' : b.WellFormed)
    (same : a.toPlain = b.toPlain) : a = b := by
  have families : some a.family = some b.family := by
    rw [← familyOf?_toPlain well, ← familyOf?_toPlain well', same]
  -- Nodes of different families are told apart, so one case for each family is left.
  cases well <;> cases well' <;> cases families
  · next well _ well' => rw [Statement.toPlain_injective well well' same]
  · next well _ well' => rw [Column.toPlain_injective well well' same]
  · rw [ColumnType.toPlain_injective same]
  · next well _ well' => rw [Expression.toPlain_injective well well' same]
  · next well _ well' => rw [Constraint.toPlain_injective well well' same]
  · rw [OnDelete.name_injective (Plain.string.inj same)]
  · rfl

end SchemaNode

end Schemata
