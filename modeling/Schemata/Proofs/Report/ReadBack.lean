import Mathlib
import Schemata.Proofs.Reading.AcceptPhrase
import Schemata.Proofs.Text.Part
import Schemata.Report.Format

/-! # Reading formatted expressions back

A formatted expression lays out the tokens of the expression, with a space after each comma and no other
layout. In a literal each quote is escaped and all else stands as it is, so that only a backslash would be read
as something else. Whatever text follows that does not go on with a word, the tokens end before it; so each
argument is read back between the commas and brackets around it.
-/

namespace Schemata

open Layout Reader

namespace Expression

/-- All names are words, and no text has a backslash in it. -/
inductive Readable : Expression → Prop
  | var {name : Text} : name ≠ [] → (∀ c ∈ name, c.isWord = true) → Readable (.var name)
  | call {function : Text} {args : List Expression} : function ≠ [] → (∀ c ∈ function, c.isWord = true) →
      (∀ arg ∈ args, Readable arg) → Readable (.call function args)
  | literal {value : Text} : CodePoint.ofChar '\\' ∉ value → Readable (.literal value)

mutual

/-- How many calls are nested at most. -/
def depth : Expression → Nat
  | .call _ args => depthAll args + 1
  | _ => 0

def depthAll : List Expression → Nat
  | [] => 0
  | e :: es => max e.depth (depthAll es)

end

theorem depth_le_depthAll {e : Expression} {args : List Expression} (member : e ∈ args) :
    e.depth ≤ depthAll args := by
  induction args with
  | nil => contradiction
  | cons first others ih =>
    rw [depthAll]
    rcases List.mem_cons.1 member with rfl | member
    · exact Nat.le_max_left _ _
    · exact Nat.le_trans (ih member) (Nat.le_max_right _ _)

/-- The text lays out the tokens of the expression, whatever follows that is not part of a word. -/
def WrittenAs (limit : Nat) (e : Expression) (t : Text) : Prop :=
  ∃ tokens, Grammar.expression limit e tokens ∧
    ∀ rest : Text, rest.startsInWord = false → Laid tokens (t ++ rest) rest

end Expression

open Expression

/-! ## Literals and names -/

/-- A text between quotes, with each quote escaped, is the text. -/
theorem Literal.pieces_replace {quote : CodePoint} (known : Escape.single? quote = some [quote]) {value : Text}
    (plain : CodePoint.ofChar '\\' ∉ value) :
    Pieces quote value (Text.replace quote ['\\', quote] value) := by
  induction value with
  | nil => exact .nil
  | cons c value ih =>
    rw [List.mem_cons, not_or] at plain
    have others := ih plain.2
    rw [Text.replace, List.flatMap_cons]
    by_cases same : c = quote
    · rw [if_pos same, same]
      exact .escape (.single known) others
    · rw [if_neg same]
      exact .plain same (Ne.symm plain.1) others

theorem writtenAs_literal (limit : Nat) {value : Text} (plain : CodePoint.ofChar '\\' ∉ value) :
    WrittenAs (limit + 1) (.literal value) (text "'" ++ Text.replace '\'' "\\'" value ++ text "'") := by
  refine ⟨[.literal '\'' value], rfl, fun rest _ => ?_⟩
  have pieces : Literal.Pieces '\'' value (Text.replace '\'' "\\'" value) := Literal.pieces_replace rfl plain
  simpa [text] using Laid.single (.literal (.inl rfl) pieces) (Closed.nil.gap rest)

theorem writtenAs_var (limit : Nat) {name : Text} (filled : name ≠ []) (words : ∀ c ∈ name, c.isWord = true) :
    WrittenAs (limit + 1) (.var name) name := by
  refine ⟨[.name name], ⟨filled, rfl⟩, fun rest ended => ?_⟩
  have spelt : (Token.name name).Spells name ([] ++ rest) := .bareName filled words ended
  exact Laid.single spelt (Closed.nil.gap rest)

/-! ## Calls -/

theorem startsInWord_others {shown : List Text} {rest : Text} (ended : rest.startsInWord = false) :
    Text.startsInWord (shown.flatMap (text ", " ++ ·) ++ rest) = false := by
  cases shown with
  | nil => exact ended
  | cons => rfl

/-- Arguments, each after a comma and a space. -/
theorem laid_following {limit : Nat} {args : List Expression} {shown : List Text}
    (written : List.Forall₂ (WrittenAs limit) args shown) :
    ∃ inner, Grammar.following (.sign ",") (Grammar.expression limit) args inner ∧
      ∀ rest : Text, rest.startsInWord = false → Laid inner (shown.flatMap (text ", " ++ ·) ++ rest) rest := by
  induction written with
  | nil => exact ⟨[], rfl, fun rest _ => .nil⟩
  | @cons e t args shown first _ ih =>
    obtain ⟨front, phrase, frontLaid⟩ := first
    obtain ⟨back, others, backLaid⟩ := ih
    refine ⟨_, ⟨front, back, phrase, others, rfl⟩, fun rest ended => ?_⟩
    have item := (frontLaid _ (startsInWord_others ended)).append (backLaid rest ended)
    have space : Closed " " := .blank (by decide) .nil
    simpa [text] using laid_sign "," (by decide) (by decide) (space.gap _) item

/-- Arguments with commas and spaces between them. -/
theorem laid_separated {limit : Nat} {args : List Expression} {shown : List Text}
    (written : List.Forall₂ (WrittenAs limit) args shown) :
    ∃ inner, Grammar.separated (.sign ",") (Grammar.expression limit) args inner ∧
      ∀ rest : Text, rest.startsInWord = false → Laid inner (Text.join ", " shown ++ rest) rest := by
  cases written with
  | nil => exact ⟨[], rfl, fun rest _ => .nil⟩
  | @cons e t args shown first others =>
    obtain ⟨front, phrase, frontLaid⟩ := first
    obtain ⟨back, others, backLaid⟩ := laid_following others
    refine ⟨_, ⟨front, back, phrase, others, rfl⟩, fun rest ended => ?_⟩
    rw [Text.join_cons, List.append_assoc]
    exact (frontLaid _ (startsInWord_others ended)).append (backLaid rest ended)

theorem writtenAs_call {limit : Nat} {function : Text} {args : List Expression} {shown : List Text}
    (filled : function ≠ []) (words : ∀ c ∈ function, c.isWord = true)
    (written : List.Forall₂ (WrittenAs limit) args shown) :
    WrittenAs (limit + 1) (.call function args) (function ++ text "(" ++ Text.join ", " shown ++ text ")") := by
  obtain ⟨inner, phrase, laid⟩ := laid_separated written
  refine ⟨_, ⟨filled, inner, phrase, rfl⟩, fun rest _ => ?_⟩
  have closing := laid_sign ")" (by decide) (by decide) (Closed.nil.gap rest) .nil
  have bracketed := laid_sign "(" (by decide) (by decide) (Closed.nil.gap _)
    ((laid _ rfl).append closing)
  have whole := Laid.cons (.bareName filled words rfl) (Closed.nil.gap _) bracketed
  simpa [text] using whole

/-! ## Expressions -/

theorem formatAll_of_forall {P : Expression → Text → Prop} {args : List Expression}
    (each : ∀ arg ∈ args, ∃ t, arg.format = .ok t ∧ P arg t) :
    ∃ shown, Expression.formatAll args = .ok shown ∧ List.Forall₂ P args shown := by
  induction args with
  | nil => exact ⟨[], by rw [Expression.formatAll], .nil⟩
  | cons arg args ih =>
    obtain ⟨⟨t, written, holds⟩, others⟩ := List.forall_mem_cons.1 each
    obtain ⟨shown, rest, all⟩ := ih others
    refine ⟨t :: shown, ?_, .cons holds all⟩
    rw [Expression.formatAll, written, rest]
    rfl

/-- A readable expression is formatted as a layout of its tokens. -/
theorem Expression.Readable.exists_format {e : Expression} (readable : e.Readable) {limit : Nat}
    (shallow : e.depth < limit) : ∃ t, e.format = .ok t ∧ WrittenAs limit e t := by
  induction readable generalizing limit with
  | @var name filled words =>
    obtain ⟨limit, rfl⟩ : ∃ n, limit = n + 1 := ⟨limit - 1, by omega⟩
    exact ⟨name, by rw [Expression.format], writtenAs_var limit filled words⟩
  | @literal value plain =>
    obtain ⟨limit, rfl⟩ : ∃ n, limit = n + 1 := ⟨limit - 1, by omega⟩
    exact ⟨_, by rw [Expression.format], writtenAs_literal limit plain⟩
  | @call function args filled words _ ih =>
    obtain ⟨limit, rfl⟩ : ∃ n, limit = n + 1 := ⟨limit - 1, by omega⟩
    rw [depth] at shallow
    have each : ∀ arg ∈ args, ∃ t, arg.format = .ok t ∧ WrittenAs limit arg t := fun arg member => by
      have := depth_le_depthAll member
      exact ih arg member (by omega)
    obtain ⟨shown, all, written⟩ := formatAll_of_forall each
    refine ⟨_, ?_, writtenAs_call filled words written⟩
    rw [Expression.format, all]
    rfl

/-- What is formatted from a readable expression is read as that expression. -/
theorem formatted_expressions_parse_back {e : Expression} (readable : e.Readable)
    (shallow : e.depth < nestingLimit) (name : Text) :
    ∃ t, e.format = .ok t ∧ (parseExpression name t).result = .ok e := by
  obtain ⟨t, written, tokens, phrase, laid⟩ := readable.exists_format shallow
  have laid : Laid tokens t [] := by simpa using laid [] rfl
  have passes := accepts_expression phrase (Nat.le_refl _) [] t [] laid ⟨settled_nil, Nat.le_refl _⟩ (by simp)
  exact ⟨t, written, run_of_passes (Closed.nil.gap t) (laid.settled settled_nil) passes name⟩

/-- The text of the first argument has a quote, a comma, brackets, the opening of a comment and a line end in it. -/
theorem formatted_expressions_parse_back_quotes :
    (Expression.call "f" [.literal "it's, (/*\n)", .call "g" [], .var "x"]).format =
        .ok "f('it\\'s, (/*\n)', g(), x)" ∧
      (parseExpression "example" "f('it\\'s, (/*\n)', g(), x)").result =
        .ok (.call "f" [.literal "it's, (/*\n)", .call "g" [], .var "x"]) := by
  have readable : (Expression.call "f" [.literal "it's, (/*\n)", .call "g" [], .var "x"]).Readable := by
    refine .call (by decide) (by decide) (List.forall_mem_cons.2 ⟨.literal (by decide), ?_⟩)
    exact List.forall_mem_cons.2 ⟨.call (by decide) (by decide) (by simp),
      List.forall_mem_singleton.2 (.var (by decide) (by decide))⟩
  have shown : (Expression.call "f" [.literal "it's, (/*\n)", .call "g" [], .var "x"]).format =
      .ok "f('it\\'s, (/*\n)', g(), x)" := by cbv
  obtain ⟨t, written, read⟩ := formatted_expressions_parse_back readable (by decide) "example"
  obtain rfl := Except.ok.inj (written.symm.trans shown)
  exact ⟨shown, read⟩

end Schemata
