import Schemata.Text.Quoted

/-! # Plain data

Reports and error details are built from plain data: nulls, flags, whole numbers, texts, lists and
records whose fields keep their order. A node is a record that names its kind first. A value of which
only the name of its type is known is plain data too; it has no written form.
-/

namespace Schemata

inductive Plain where
  | null
  | flag (value : Bool)
  | number (value : Int)
  | string (value : Text)
  | list (items : List Plain)
  | record (fields : List (Text × Plain))
  | unknown (typeName : Text)
deriving Repr, Inhabited

namespace Plain

mutual

private def decideEq : (a b : Plain) → Decidable (a = b)
  | .null, .null => isTrue rfl
  | .flag a, .flag b => decidable_of_iff (a = b) (by simp)
  | .number a, .number b => decidable_of_iff (a = b) (by simp)
  | .string a, .string b => decidable_of_iff (a = b) (by simp)
  | .list a, .list b =>
    match decideEqItems a b with
    | isTrue same => isTrue (congrArg _ same)
    | isFalse differ => isFalse (by simpa using differ)
  | .record a, .record b =>
    match decideEqFields a b with
    | isTrue same => isTrue (congrArg _ same)
    | isFalse differ => isFalse (by simpa using differ)
  | .unknown a, .unknown b => decidable_of_iff (a = b) (by simp)
  | .null, .flag _ | .null, .number _ | .null, .string _ | .null, .list _ | .null, .record _
  | .null, .unknown _ => isFalse (by simp)
  | .flag _, .null | .flag _, .number _ | .flag _, .string _ | .flag _, .list _ | .flag _, .record _
  | .flag _, .unknown _ => isFalse (by simp)
  | .number _, .null | .number _, .flag _ | .number _, .string _ | .number _, .list _
  | .number _, .record _ | .number _, .unknown _ => isFalse (by simp)
  | .string _, .null | .string _, .flag _ | .string _, .number _ | .string _, .list _ | .string _, .record _
  | .string _, .unknown _ => isFalse (by simp)
  | .list _, .null | .list _, .flag _ | .list _, .number _ | .list _, .string _ | .list _, .record _
  | .list _, .unknown _ => isFalse (by simp)
  | .record _, .null | .record _, .flag _ | .record _, .number _ | .record _, .string _
  | .record _, .list _ | .record _, .unknown _ => isFalse (by simp)
  | .unknown _, .null | .unknown _, .flag _ | .unknown _, .number _ | .unknown _, .string _
  | .unknown _, .list _ | .unknown _, .record _ => isFalse (by simp)

private def decideEqItems : (a b : List Plain) → Decidable (a = b)
  | [], [] => isTrue rfl
  | x :: a, y :: b =>
    match decideEq x y, decideEqItems a b with
    | isTrue head, isTrue tail => isTrue (by rw [head, tail])
    | isFalse differ, _ => isFalse (by simp [differ])
    | _, isFalse differ => isFalse (by simp [differ])
  | [], _ :: _ | _ :: _, [] => isFalse (by simp)

private def decideEqFields : (a b : List (Text × Plain)) → Decidable (a = b)
  | [], [] => isTrue rfl
  | (k, x) :: a, (l, y) :: b =>
    match decEq k l, decideEq x y, decideEqFields a b with
    | isTrue key, isTrue value, isTrue tail => isTrue (by rw [key, value, tail])
    | isFalse differ, _, _ => isFalse (by simp [differ])
    | _, isFalse differ, _ => isFalse (by simp [differ])
    | _, _, isFalse differ => isFalse (by simp [differ])
  | [], _ :: _ | _ :: _, [] => isFalse (by simp)

end

instance : DecidableEq Plain := decideEq

/-- Null for a missing value. -/
def ofOption : Option Plain → Plain
  | none => null
  | some value => value

def ofString? (t : Option Text) : Plain := ofOption (t.map string)

def ofNat (n : Nat) : Plain := number n

def ofStrings (ts : List Text) : Plain := list (ts.map string)

def kindField : Text := "kind"

/-- A record of a kind. -/
def node (kind : Text) (fields : List (Text × Plain)) : Plain :=
  record ((kindField, string kind) :: fields)

/-- The name of a value's type, as reports show it; for a node this is its kind. -/
def typeName : Plain → Text
  | null => "NoneType"
  | flag _ => "bool"
  | number _ => "int"
  | string _ => "str"
  | list _ => "tuple"
  | record ((key, string kind) :: _) => if key = kindField then kind else "dict"
  | record _ => "dict"
  | unknown name => name

@[simp] theorem typeName_node (kind : Text) (fields : List (Text × Plain)) :
    (node kind fields).typeName = kind := rfl

/-- What stands between a field's name and its value, by whether the field is part of a node. -/
def fieldName (inNode : Bool) (key : Text) : Text :=
  if inNode then key ++ text "=" else Text.quoted key ++ text ": "

mutual

/-- A value on one line of a message. -/
def display : Plain → Text
  | null => "None"
  | flag true => "True"
  | flag false => "False"
  | number n => Text.ofInt n
  | string t => Text.quoted t
  | list [item] => text "(" ++ display item ++ text ",)"
  | list items => text "(" ++ Text.join ", " (displayItems items) ++ text ")"
  | record ((key, string name) :: fields) =>
    if key = kindField then
      name ++ text "(" ++ Text.join ", " (displayFields true fields) ++ text ")"
    else
      text "\x7b"
        ++ Text.join ", " ((fieldName false key ++ Text.quoted name) :: displayFields false fields)
        ++ text "\x7d"
  | record fields =>
    text "\x7b" ++ Text.join ", " (displayFields false fields) ++ text "\x7d"
  | unknown name => text "<" ++ name ++ text ">"

def displayItems : List Plain → List Text
  | [] => []
  | item :: items => display item :: displayItems items

def displayFields (inNode : Bool) : List (Text × Plain) → List Text
  | [] => []
  | (key, value) :: fields =>
    (fieldName inNode key ++ display value) :: displayFields inNode fields

end

mutual

/-- The type name of the first value, in reading order, that has no written form. -/
def unwritable? : Plain → Option Text
  | unknown name => some name
  | list items => unwritableItem? items
  | record fields => unwritableField? fields
  | null | flag _ | number _ | string _ => none

def unwritableItem? : List Plain → Option Text
  | [] => none
  | item :: items => (unwritable? item).or (unwritableItem? items)

def unwritableField? : List (Text × Plain) → Option Text
  | [] => none
  | (_, value) :: fields => (unwritable? value).or (unwritableField? fields)

end

end Plain

end Schemata
