import Schemata.Proofs.Grammar.Token
import Schemata.Schema.Spelling

/-! # Phrases

The grammar of schemas over tokens: which lists of tokens are phrases for which expressions, column
types, columns, keys and statements. A text is derived from the grammar if it is layout followed by the
tokens of a schema, laid out up to the end of the text.
-/

namespace Schemata

/-- Which lists of tokens are phrases for which values. -/
def Language (α : Type) : Type := α → List Token → Prop

namespace Grammar

variable {α : Type}

/-- Items, each after a separator. -/
def following (separator : Token) (item : Language α) : Language (List α)
  | [], tokens => tokens = []
  | a :: rest, tokens => ∃ front back, item a front ∧ following separator item rest back ∧
      tokens = separator :: (front ++ back)

/-- Any number of items, with separators between them and none at the end. -/
def separated (separator : Token) (item : Language α) : Language (List α)
  | [], tokens => tokens = []
  | a :: rest, tokens => ∃ front back, item a front ∧ following separator item rest back ∧
      tokens = front ++ back

def keywords (words : List Text) : List Token := words.map .keyword

/-- A clause that is there or not. -/
def clause (present : Bool) (words : List Text) : List Token :=
  if present then keywords words else []

/-- Expressions whose calls nest less deep than a limit. -/
def expression : (limit : Nat) → Language Expression
  | 0, _, _ => False
  | _ + 1, .var name, tokens => name ≠ [] ∧ tokens = [.name name]
  | limit + 1, .call function args, tokens => function ≠ [] ∧
      ∃ inner, separated (.sign ",") (expression limit) args inner ∧
        tokens = .name function :: .sign "(" :: (inner ++ [.sign ")"])
  | _ + 1, .literal value, tokens => tokens = [.literal '\'' value]
  | _ + 1, .other _, _ => False

/-- The name has the length and the upper-case form of a known type of one word. -/
def NamesKnownType (name : Text) : Prop :=
  ∃ entry ∈ KnownType.spellings, ∃ word, [word] ∈ entry.2 ∧
    name.length = word.length ∧ Text.upper name = Text.upper word

def columnType : Language ColumnType
  | .known type, tokens => ∃ spellings words, (type, spellings) ∈ KnownType.spellings ∧
      words ∈ spellings ∧ tokens = keywords words
  | .custom name, tokens => name ≠ [] ∧ ¬ NamesKnownType name ∧ tokens = [.typeName name]

def defaultClause (limit : Nat) : Language (Option Expression)
  | none, tokens => tokens = []
  | some value, tokens => ∃ inner, expression limit value inner ∧ tokens = .keyword "DEFAULT" :: inner

def column (limit : Nat) : Language Column := fun column tokens =>
  ∃ type default, columnType column.type type ∧ defaultClause limit column.default? default ∧
    tokens = .name column.name :: (type ++ (default ++ (clause column.primaryKey ["PRIMARY", "KEY"] ++
      (clause column.notNull ["NOT", "NULL"] ++ clause column.unique ["UNIQUE"]))))

def referencedColumn : Option Text → List Token
  | none => []
  | some name => [.sign "(", .name name, .sign ")"]

def deleteClause : Language (Option OnDelete)
  | none, tokens => tokens = []
  | some action, tokens => ∃ words, (words, action) ∈ OnDelete.spellings ∧
      tokens = keywords ["ON", "DELETE"] ++ words.map .sign

def foreignKey : Language ForeignKey := fun key tokens =>
  ∃ action, deleteClause key.onDelete action ∧
    tokens = keywords ["FOREIGN", "KEY"] ++ ([.sign "(", .name key.column, .sign ")",
      .keyword "REFERENCES", .name key.referencedTable] ++ (referencedColumn key.referencedColumn ++ action))

/-- One statement. An extension always counts as created only if it is missing. -/
def statement (limit : Nat) : Language Statement
  | .createExtension name ifNotExists, tokens => ifNotExists = true ∧
      ∃ guard ∈ [[], keywords ["IF", "NOT", "EXISTS"]],
        tokens = keywords ["CREATE", "EXTENSION"] ++ (guard ++ [.literal '"' name, .sign ";"])
  | .createTable name columns, tokens =>
      ∃ schema ∈ [[], [.keyword "public", .sign "."]], ∃ inner,
        separated (.sign ",") (column limit) columns inner ∧
        tokens = keywords ["CREATE", "TABLE"] ++ (schema ++ (.name name :: .sign "(" ::
          (inner ++ [.sign ")", .sign ";"])))
  | .createEnum name values, tokens =>
      ∃ inner, separated (.sign ",") (fun value tokens => tokens = [.literal '\'' value]) values inner ∧
        tokens = keywords ["CREATE", "TYPE"] ++ (.name name :: (keywords ["AS", "ENUM"] ++
          (.sign "(" :: (inner ++ [.sign ")", .sign ";"]))))
  | .addConstraint table name (.foreignKey key), tokens =>
      ∃ inner, foreignKey key inner ∧
        tokens = keywords ["ALTER", "TABLE"] ++ (.name table :: (keywords ["ADD", "CONSTRAINT"] ++
          (.name name :: (inner ++ [.sign ";"]))))
  | .addConstraint _ _ (.other _), _ => False
  | .comment content, tokens => tokens = [.comment content]
  | .other _, _ => False

/-- Statements one after another. -/
def schema (limit : Nat) : Language (List Statement)
  | [], tokens => tokens = []
  | first :: rest, tokens => ∃ front back, statement limit first front ∧ schema limit rest back ∧
      tokens = front ++ back

/-! ## Phrases inside phrases -/

theorem exists_phrase_of_following {separator : Token} {item : Language α} {values : List α} {tokens : List Token}
    (phrase : following separator item values tokens) {a : α} (member : a ∈ values) :
    ∃ part, part ⊆ tokens ∧ item a part := by
  induction values generalizing tokens with
  | nil => contradiction
  | cons b values ih =>
    obtain ⟨front, back, first, others, rfl⟩ := phrase
    rcases List.mem_cons.1 member with rfl | member
    · exact ⟨front, List.Subset.trans (List.subset_append_left _ _) (List.subset_cons_self _ _), first⟩
    · obtain ⟨part, inside, found⟩ := ih others member
      have later : back ⊆ separator :: (front ++ back) :=
        List.Subset.trans (List.subset_append_right _ _) (List.subset_cons_self _ _)
      exact ⟨part, List.Subset.trans inside later, found⟩

theorem exists_phrase_of_separated {separator : Token} {item : Language α} {values : List α} {tokens : List Token}
    (phrase : separated separator item values tokens) {a : α} (member : a ∈ values) :
    ∃ part, part ⊆ tokens ∧ item a part := by
  cases values with
  | nil => contradiction
  | cons b values =>
    obtain ⟨front, back, first, others, rfl⟩ := phrase
    rcases List.mem_cons.1 member with rfl | member
    · exact ⟨front, List.subset_append_left _ _, first⟩
    · obtain ⟨part, inside, found⟩ := exists_phrase_of_following others member
      exact ⟨part, List.Subset.trans inside (List.subset_append_right _ _), found⟩

theorem exists_phrase_of_schema {limit : Nat} {statements : List Statement} {tokens : List Token}
    (phrase : schema limit statements tokens) {s : Statement} (member : s ∈ statements) :
    ∃ part, part ⊆ tokens ∧ statement limit s part := by
  induction statements generalizing tokens with
  | nil => contradiction
  | cons first rest ih =>
    obtain ⟨front, back, here, others, rfl⟩ := phrase
    rcases List.mem_cons.1 member with rfl | member
    · exact ⟨front, List.subset_append_left _ _, here⟩
    · obtain ⟨part, inside, found⟩ := ih others member
      exact ⟨part, List.Subset.trans inside (List.subset_append_right _ _), found⟩

/-! ## Derivations -/

/-- The source is layout followed by the tokens of the statements, each followed by layout. -/
def Derives (limit : Nat) (statements : List Statement) (source : Text) : Prop :=
  ∃ tokens gap body, schema limit statements tokens ∧ source = gap ++ body ∧ Layout.Gap gap body ∧
    Laid tokens body []

end Grammar

theorem isKeyword_of_mem_spellings : ∀ entry ∈ KnownType.spellings, ∀ words ∈ entry.2,
    ∀ word ∈ words, word.isKeyword = true := by decide

end Schemata
