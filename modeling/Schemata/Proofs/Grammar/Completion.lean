import Schemata.Proofs.Grammar.Phrase

/-! # Completing a text

A text that breaks off after some tokens, or inside one, can be completed: whatever tokens are to follow,
there is a continuation of the text that lays them out. Where the list of tokens can be continued to a
phrase, the text is therefore the beginning of a text of the grammar.
-/

namespace Schemata

open Layout

/-- Tokens that can be written have a text in which they are laid out. -/
theorem exists_laid {tokens : List Token} (writable : ∀ token ∈ tokens, token.Writable) :
    ∃ t, Laid tokens t [] := by
  induction tokens with
  | nil => exact ⟨[], .nil⟩
  | cons token tokens ih =>
    obtain ⟨chunk, spelt⟩ := writable token List.mem_cons_self
    obtain ⟨t, laid⟩ := ih fun other member => writable other (List.mem_cons_of_mem _ member)
    exact ⟨_, .cons (spelt.before_newline t) (closed_newline.gap t) laid⟩

/-- The text can be continued with any tokens after the given ones. -/
def Completable (tokens : List Token) (t : Text) : Prop :=
  ∀ more u, Laid more u [] → ∃ suffix, Laid (tokens ++ more) (t ++ suffix) []

namespace Completable

theorem nil : Completable [] [] := fun _ u laid => ⟨u, laid⟩

/-- The text breaks off inside a token, or right after it. -/
theorem of_spells {token : Token} {t suffix : Text}
    (spelt : ∀ rest, token.Spells (t ++ suffix) ('\n' :: rest)) : Completable [token] t := by
  intro more u laid
  refine ⟨suffix ++ ('\n' : CodePoint) :: u, ?_⟩
  have whole := Laid.cons (spelt u) (closed_newline.gap u) laid
  simpa using whole

/-- The text breaks off in an open block comment after a token. -/
theorem of_open_comment {token : Token} {chunk t : Text} (spelt : token.Spells chunk t)
    (failure : length? t = none) : Completable [token] (chunk ++ t) := by
  intro more u laid
  have filled : t ≠ [] := by
    rintro rfl
    simp [length?, measure?] at failure
  have next : (t ++ closing ++ u).head? = t.head? := by
    obtain ⟨c, rest, rfl⟩ := List.exists_cons_of_ne_nil filled
    rfl
  refine ⟨closing ++ u, ?_⟩
  have whole := Laid.cons (spelt.of_head?_eq next) ((closed_of_length?_eq_none failure).gap u) laid
  simpa using whole

/-- Tokens laid out before a text that can be completed. -/
theorem append {front back : List Token} {x rest : Text} {k : Nat} (laid : Laid front (x ++ rest) rest)
    (completable : Completable back (rest.take k)) :
    Completable (front ++ back) (x ++ rest.take k) := by
  intro more u tail
  obtain ⟨suffix, inner⟩ := completable more u tail
  by_cases here : rest.take k = []
  · by_cases noTokens : front = []
    · subst noTokens
      obtain rfl : x = [] := by simpa using laid.eq_of_nil
      exact ⟨suffix, by simpa [here] using inner⟩
    · -- a line end keeps the continuation apart from the last token
      rw [here, List.nil_append] at inner
      refine ⟨('\n' : CodePoint) :: suffix, ?_⟩
      have whole := (laid.newline_rest noTokens .nil suffix).append inner
      simpa [here] using whole
  · have filled : rest ≠ [] := by
      rintro rfl
      simp at here
    have same : (rest.take k ++ suffix).head? = rest.head? := by
      obtain ⟨c, tail, rfl⟩ := List.exists_cons_of_ne_nil filled
      cases k with
      | zero => simp at here
      | succ k => rfl
    have whole := (laid.replace_rest filled same).append inner
    exact ⟨suffix, by simpa using whole⟩

end Completable

namespace Language

variable {α : Type}

/-- Nothing, or a phrase. -/
def optional (L : Language α) : Language (Option α)
  | none, tokens => tokens = []
  | some a, tokens => L a tokens

/-- Whether a phrase is there. -/
def present (L : Language α) : Language Bool
  | false, tokens => tokens = []
  | true, tokens => ∃ a, L a tokens

/-- The tokens can be continued to a phrase by tokens that can be written. -/
def Viable (L : Language α) (tokens : List Token) : Prop :=
  ∃ a more, L a (tokens ++ more) ∧ ∀ token ∈ more, token.Writable

theorem Viable.of_phrase {L : Language α} {a : α} {tokens : List Token} (phrase : L a tokens) :
    Viable L tokens :=
  ⟨a, [], by simpa using phrase, by simp⟩

end Language

end Schemata
