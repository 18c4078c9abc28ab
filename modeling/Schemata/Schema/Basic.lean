import Schemata.Plain.Basic

/-! # Schemas

A schema is a list of statements: extensions, tables, enumerated types, constraints added to a table,
and comments. Trees built elsewhere may hold values of their own where a statement, a constraint or an
expression is expected; the constructors `other` carry them. Reading a text never produces one.
-/

namespace Schemata

/-- A name that is not one of those that its set allows. -/
structure UnknownName where
  set : Text
  name : Text
deriving DecidableEq, Repr

def UnknownName.message (e : UnknownName) : Text :=
  e.name.quoted ++ text " is not a valid " ++ e.set

/-- The column types with a name of their own in the grammar. -/
inductive KnownType where
  | uuid
  | text
  | int
  | bigint
  | boolean
  | timestampWithTimeZone
  | real
  | double
  | date
  | binary
  | time
deriving DecidableEq, Repr

namespace KnownType

def name : KnownType → Text
  | uuid => "UUID"
  | text => "TEXT"
  | int => "INT"
  | bigint => "BIGINT"
  | boolean => "BOOLEAN"
  | timestampWithTimeZone => "TIMESTAMP WITH TIME ZONE"
  | real => "REAL"
  | double => "DOUBLE PRECISION"
  | date => "DATE"
  | binary => "BINARY"
  | time => "TIME"

def all : List KnownType :=
  [uuid, text, int, bigint, boolean, timestampWithTimeZone, real, double, date, binary, time]

def ofName? (t : Text) : Option KnownType := all.find? (·.name = t)

/-- The type of a name, or the complaint that there is none. -/
def named (t : Text) : Except UnknownName KnownType :=
  (ofName? t).elim (.error ⟨"PostgresType", t⟩) .ok

theorem ofName?_name (type : KnownType) : ofName? type.name = some type := by
  cases type <;> decide

end KnownType

inductive ColumnType where
  | known (type : KnownType)
  | custom (name : Text)
deriving DecidableEq, Repr

/-- Scalar expressions, as they stand after `DEFAULT`. -/
inductive Expression where
  | var (name : Text)
  | call (function : Text) (args : List Expression)
  | literal (value : Text)
  | other (value : Plain)
deriving Repr

namespace Expression

mutual

private def decideEq : (a b : Expression) → Decidable (a = b)
  | .var a, .var b => decidable_of_iff (a = b) (by simp)
  | .call f a, .call g b =>
    match decEq f g, decideEqArgs a b with
    | isTrue function, isTrue args => isTrue (by rw [function, args])
    | isFalse differ, _ => isFalse (by simp [differ])
    | _, isFalse differ => isFalse (by simp [differ])
  | .literal a, .literal b => decidable_of_iff (a = b) (by simp)
  | .other a, .other b => decidable_of_iff (a = b) (by simp)
  | .var _, .call .. | .var _, .literal _ | .var _, .other _ => isFalse (by simp)
  | .call .., .var _ | .call .., .literal _ | .call .., .other _ => isFalse (by simp)
  | .literal _, .var _ | .literal _, .call .. | .literal _, .other _ => isFalse (by simp)
  | .other _, .var _ | .other _, .call .. | .other _, .literal _ => isFalse (by simp)

private def decideEqArgs : (a b : List Expression) → Decidable (a = b)
  | [], [] => isTrue rfl
  | x :: a, y :: b =>
    match decideEq x y, decideEqArgs a b with
    | isTrue head, isTrue tail => isTrue (by rw [head, tail])
    | isFalse differ, _ => isFalse (by simp [differ])
    | _, isFalse differ => isFalse (by simp [differ])
  | [], _ :: _ | _ :: _, [] => isFalse (by simp)

end

instance : DecidableEq Expression := decideEq

end Expression

/-- What happens to a row when the row it refers to is deleted. -/
inductive OnDelete where
  | noAction
  | restrict
  | setNull
  | cascade
deriving DecidableEq, Repr

namespace OnDelete

def name : OnDelete → Text
  | noAction => "NO ACTION"
  | restrict => "RESTRICT"
  | setNull => "SET NULL"
  | cascade => "CASCADE"

def all : List OnDelete := [noAction, restrict, setNull, cascade]

def ofName? (t : Text) : Option OnDelete := all.find? (·.name = t)

/-- The action of a name, or the complaint that there is none. -/
def named (t : Text) : Except UnknownName OnDelete :=
  (ofName? t).elim (.error ⟨"OnDelete", t⟩) .ok

theorem ofName?_name (action : OnDelete) : ofName? action.name = some action := by
  cases action <;> decide

end OnDelete

structure ForeignKey where
  column : Text
  referencedTable : Text
  referencedColumn : Option Text
  onDelete : Option OnDelete
deriving DecidableEq, Repr

inductive Constraint where
  | foreignKey (key : ForeignKey)
  | other (value : Plain)
deriving DecidableEq, Repr

/-- A column of a table; its name is never empty. -/
structure Column where
  name : Text
  type : ColumnType
  default? : Option Expression
  primaryKey : Bool
  notNull : Bool
  unique : Bool
  name_ne : name ≠ []
deriving DecidableEq, Repr

/-- A column of the given name, unless the name is empty. -/
def Column.named? (name : Text) (type : ColumnType) (default? : Option Expression)
    (primaryKey notNull unique : Bool) : Option Column :=
  if name_ne : name ≠ [] then
    some ⟨name, type, default?, primaryKey, notNull, unique, name_ne⟩
  else none

inductive Statement where
  | createExtension (name : Text) (ifNotExists : Bool)
  | createTable (name : Text) (columns : List Column)
  | createEnum (name : Text) (values : List Text)
  | addConstraint (table name : Text) (constraint : Constraint)
  | comment (content : Text)
  | other (value : Plain)
deriving DecidableEq, Repr

/-- The name of a statement's kind in reports. -/
def Statement.kind : Statement → Text
  | createExtension .. => "CreateExtension"
  | createTable .. => "CreateTable"
  | createEnum .. => "CreateEnumType"
  | addConstraint .. => "AddConstraint"
  | comment _ => "Comment"
  | other value => value.typeName

end Schemata
