import Schemata.Proofs.Grammar.Layout
import Schemata.Proofs.Grammar.Literal
import Schemata.Proofs.Text.Keyword

/-! # Tokens as a grammar

A token is spelt by a chunk of text, which may also restrict what follows it: a word is not followed by a
word character, and a comment reaches to the end of its line. `Laid` lays a list of tokens out in a text,
each with layout after it. Layout may be empty wherever the token before it allows that.
-/

namespace Schemata

open Layout

/-- A token of the grammar with what it stands for. -/
inductive Token where
  /-- A keyword, in any case. -/
  | keyword (word : Text)
  /-- A text as it stands. -/
  | sign (t : Text)
  /-- A name, bare or in double quotes. -/
  | name (name : Text)
  /-- The name of a type of its own, always bare. -/
  | typeName (name : Text)
  | literal (quote : CodePoint) (value : Text)
  | comment (content : Text)
deriving DecidableEq, Repr

/-- A text that does not start with layout. -/
def Text.isSign : Text → Bool
  | [] => false
  | c :: _ => !c.isBlank && c ≠ '/'

theorem Text.ne_nil_of_isSign {t : Text} (proper : t.isSign = true) : t ≠ [] := by
  rintro rfl
  simp [isSign] at proper

namespace Token

/-- A comment after its dashes: blanks of the line, the content, and carriage returns. -/
structure CommentLine (gap content ending : Text) : Prop where
  gap_blank : ∀ c ∈ gap, c = CodePoint.ofChar ' ' ∨ c = CodePoint.ofChar '\t'
  content_head : ∀ c, content.head? = some c → c ≠ CodePoint.ofChar ' ' ∧ c ≠ CodePoint.ofChar '\t'
  content_line : CodePoint.ofChar '\n' ∉ content
  content_last : content.getLast? ≠ some (CodePoint.ofChar '\r')
  ending_returns : ∀ c ∈ ending, c = CodePoint.ofChar '\r'

/-- A token, a chunk of text that spells it, and what follows the chunk. -/
inductive Spells : Token → (chunk after : Text) → Prop
  | keyword {word chunk after : Text} : word.isKeyword = true → chunk.length = word.length →
      Text.upper chunk = Text.upper word → after.startsInWord = false →
      Spells (.keyword word) chunk after
  | sign {t after : Text} : t.isSign = true → (t.endsInWord && after.startsInWord) = false →
      Spells (.sign t) t after
  | bareName {name after : Text} : name ≠ [] → (∀ c ∈ name, c.isWord = true) →
      after.startsInWord = false → Spells (.name name) name after
  | quotedName {name after : Text} : name ≠ [] → CodePoint.ofChar '"' ∉ name →
      Spells (.name name) ('"' :: (name ++ [('"' : CodePoint)])) after
  | typeName {name after : Text} : name ≠ [] → (∀ c ∈ name, c.isWord = true) →
      after.startsInWord = false → Spells (.typeName name) name after
  | literal {quote : CodePoint} {value body after : Text} : Literal.IsQuote quote →
      Literal.Pieces quote value body → Spells (.literal quote value) (quote :: (body ++ [quote])) after
  | comment {gap content ending after : Text} : CommentLine gap content ending →
      after.head?.all (· = CodePoint.ofChar '\n') = true →
      Spells (.comment content) ('-' :: '-' :: (gap ++ (content ++ ending))) after

/-- A token that some chunk at the end of a text spells. -/
def Writable (token : Token) : Prop := ∃ chunk, Spells token chunk []

theorem Spells.of_head?_eq {token : Token} {chunk after other : Text} (spelt : Spells token chunk after)
    (same : other.head? = after.head?) : Spells token chunk other := by
  have boundary : other.startsInWord = after.startsInWord := by
    cases other <;> cases after <;> simp_all [Text.startsInWord]
  cases spelt with
  | keyword proper length form ended => exact .keyword proper length form (boundary ▸ ended)
  | sign proper ended => exact .sign proper (boundary ▸ ended)
  | bareName filled words ended => exact .bareName filled words (boundary ▸ ended)
  | quotedName filled unquoted => exact .quotedName filled unquoted
  | typeName filled words ended => exact .typeName filled words (boundary ▸ ended)
  | literal proper pieces => exact .literal proper pieces
  | comment line ended => exact .comment line (same ▸ ended)

/-- Any token may stand at the end of its line. -/
theorem Spells.before_newline {token : Token} {chunk after : Text} (spelt : Spells token chunk after)
    (rest : Text) : Spells token chunk ('\n' :: rest) := by
  have boundary : Text.startsInWord ('\n' :: rest) = false := rfl
  cases spelt with
  | keyword proper length form _ => exact .keyword proper length form boundary
  | sign proper _ => exact .sign proper (by simp [boundary])
  | bareName filled words _ => exact .bareName filled words boundary
  | quotedName filled unquoted => exact .quotedName filled unquoted
  | typeName filled words _ => exact .typeName filled words boundary
  | literal proper pieces => exact .literal proper pieces
  | comment line _ => exact .comment line (by simp)

/-- What follows a chunk may be cut off at a new line end. -/
theorem Spells.newline_rest {token : Token} {chunk gap rest : Text} (spelt : Spells token chunk (gap ++ rest))
    (other : Text) : Spells token chunk (gap ++ ('\n' : CodePoint) :: other) := by
  cases gap with
  | nil => exact spelt.before_newline other
  | cons c gap => exact spelt.of_head?_eq rfl

/-- A chunk is not empty and does not start like layout. -/
theorem Spells.isSign {token : Token} {chunk after : Text} (spelt : Spells token chunk after) :
    chunk.isSign = true := by
  have words {t : Text} (filled : t ≠ []) (words : ∀ c ∈ t, c.isWord = true) : t.isSign = true := by
    obtain ⟨c, rest, rfl⟩ := List.exists_cons_of_ne_nil filled
    obtain ⟨noBlank, noSlash⟩ := CodePoint.not_layout_of_isWord (words c List.mem_cons_self)
    simp [Text.isSign, noBlank, noSlash]
  cases spelt with
  | keyword proper length form _ =>
    refine words ?_ fun c => Text.isWord_of_upper_eq proper form
    rintro rfl
    exact Text.upper_ne_nil_of_isKeyword proper form.symm
  | sign proper _ => exact proper
  | bareName filled all _ => exact words filled all
  | quotedName filled unquoted => rfl
  | typeName filled all _ => exact words filled all
  | literal proper pieces => rcases proper with rfl | rfl <;> rfl
  | comment line _ => rfl

theorem settled_of_isSign {t : Text} (sign : t.isSign = true) (u : Text) : Settled (t ++ u) := by
  cases t with
  | nil => simp [Text.isSign] at sign
  | cons c rest =>
    simp only [Text.isSign, Bool.and_eq_true, Bool.not_eq_true', decide_eq_true_eq, ne_eq] at sign
    exact settled_cons sign.1 sign.2

end Token

/-- Tokens laid out in a text up to `rest`, with layout after each of them. -/
inductive Laid : List Token → (t rest : Text) → Prop
  | nil {rest : Text} : Laid [] rest rest
  | cons {token : Token} {tokens : List Token} {chunk gap t rest : Text} :
      token.Spells chunk (gap ++ t) → Gap gap t → Laid tokens t rest →
      Laid (token :: tokens) (chunk ++ (gap ++ t)) rest

namespace Laid

variable {tokens front back : List Token} {t u rest : Text}

theorem append (first : Laid front t u) (second : Laid back u rest) : Laid (front ++ back) t rest := by
  induction first with
  | nil => exact second
  | cons spelt between _ ih => exact .cons spelt between (ih second)

theorem split (laid : Laid (front ++ back) t rest) : ∃ u, Laid front t u ∧ Laid back u rest := by
  induction front generalizing t with
  | nil => exact ⟨t, .nil, laid⟩
  | cons token front ih =>
    cases laid with
    | cons spelt between more =>
      obtain ⟨u, first, second⟩ := ih more
      exact ⟨u, .cons spelt between first, second⟩

theorem single {token : Token} {chunk gap : Text} (spelt : token.Spells chunk (gap ++ rest))
    (between : Gap gap rest) : Laid [token] (chunk ++ (gap ++ rest)) rest :=
  .cons spelt between .nil

/-- Some chunk of the text spells each token. -/
theorem spelt (laid : Laid tokens t rest) : ∀ token ∈ tokens, ∃ chunk after, token.Spells chunk after := by
  induction laid with
  | nil => simp
  | cons first _ _ ih => exact List.forall_mem_cons.2 ⟨⟨_, _, first⟩, ih⟩

theorem eq_of_nil (laid : Laid [] t rest) : t = rest := by
  cases laid
  rfl

/-- The text before the rest. -/
theorem exists_prefix (laid : Laid tokens t rest) : ∃ x, t = x ++ rest ∧ (x = [] ↔ tokens = []) := by
  induction laid with
  | nil => exact ⟨[], rfl, by simp⟩
  | @cons token tokens chunk gap t rest spelt _ _ ih =>
    obtain ⟨x, rfl, _⟩ := ih
    refine ⟨chunk ++ (gap ++ x), by simp, ?_⟩
    have filled : chunk ≠ [] := by
      rintro rfl
      exact absurd spelt.isSign (by decide)
    simp [filled]

theorem length_le (laid : Laid tokens t rest) : rest.length ≤ t.length := by
  obtain ⟨x, rfl, _⟩ := laid.exists_prefix
  rw [List.length_append]
  omega

theorem length_lt (laid : Laid tokens t rest) (filled : tokens ≠ []) : rest.length < t.length := by
  obtain ⟨x, rfl, empty⟩ := laid.exists_prefix
  have : 0 < x.length := List.length_pos_iff.2 fun nothing => filled (empty.1 nothing)
  rw [List.length_append]
  omega

theorem settled (laid : Laid tokens t rest) (ended : Settled rest) : Settled t := by
  cases laid with
  | nil => exact ended
  | cons spelt _ _ => exact Token.settled_of_isSign spelt.isSign _

/-- What follows the tokens may be replaced by a text with the same beginning. -/
theorem replace_rest {x other : Text} (laid : Laid tokens (x ++ rest) rest) (filled : rest ≠ [])
    (same : other.head? = rest.head?) : Laid tokens (x ++ other) other := by
  generalize whole : x ++ rest = t at laid
  induction laid generalizing x with
  | nil =>
    obtain rfl : x = [] := by simpa using whole
    exact .nil
  | @cons token tokens chunk gap t rest spelt between laid ih =>
    obtain ⟨y, rfl, _⟩ := laid.exists_prefix
    obtain rfl : x = chunk ++ (gap ++ y) := by
      have same : x ++ rest = (chunk ++ (gap ++ y)) ++ rest := by simpa using whole
      exact List.append_cancel_right same
    have closed : Closed gap := by
      rcases between with closed | ⟨empty, _⟩
      · exact closed
      · simp [filled] at empty
    have next : (gap ++ (y ++ other)).head? = (gap ++ (y ++ rest)).head? := by
      simp [List.head?_append, same]
    have whole := Laid.cons (spelt.of_head?_eq next) (closed.gap (y ++ other)) (ih filled same rfl)
    simpa using whole

/-- A line end and more layout may be put after the last token's layout, and any text after that. -/
theorem newline_rest {x more : Text} (laid : Laid tokens (x ++ rest) rest) (filled : tokens ≠ [])
    (layout : Closed more) (other : Text) :
    Laid tokens (x ++ ('\n' : CodePoint) :: (more ++ other)) other := by
  generalize whole : x ++ rest = t at laid
  induction laid generalizing x with
  | nil => contradiction
  | @cons token tokens chunk gap t rest spelt between laid ih =>
    obtain ⟨y, rfl, empty⟩ := laid.exists_prefix
    obtain rfl : x = chunk ++ (gap ++ y) := by
      have same : x ++ rest = (chunk ++ (gap ++ y)) ++ rest := by simpa using whole
      exact List.append_cancel_right same
    by_cases last : tokens = []
    · -- the new line end closes the gap after the last token
      obtain rfl := empty.2 last
      subst last
      have lineEnd : token.Spells chunk ((gap ++ [('\n' : CodePoint)] ++ more) ++ other) := by
        simpa using spelt.newline_rest (more ++ other)
      have whole := Laid.single lineEnd ((between.closed_newline.append layout).gap other)
      simpa using whole
    · have filled : y ≠ [] := fun nothing => last (empty.1 nothing)
      have closed : Closed gap := by
        rcases between with closed | ⟨nothing, _⟩
        · exact closed
        · exact absurd (List.append_eq_nil_iff.1 nothing).1 filled
      have next : (gap ++ (y ++ ('\n' : CodePoint) :: (more ++ other))).head? = (gap ++ (y ++ rest)).head? := by
        obtain ⟨c, tail, rfl⟩ := List.exists_cons_of_ne_nil filled
        cases gap <;> rfl
      have whole := Laid.cons (spelt.of_head?_eq next) (closed.gap _) (ih last rfl)
      simpa using whole

/-- Layout before the rest may be counted to the last token. -/
theorem extend {gap : Text} (laid : Laid tokens t (gap ++ rest)) (filled : tokens ≠ [])
    (closed : Closed gap) : Laid tokens t rest := by
  generalize whole : gap ++ rest = after at laid
  induction laid with
  | nil => contradiction
  | @cons token tokens chunk inner t after spelt between laid ih =>
    by_cases last : tokens = []
    · subst last
      obtain rfl := laid.eq_of_nil
      subst whole
      rw [← List.append_assoc inner] at spelt ⊢
      rcases between with inside | ⟨empty, openLine⟩
      · exact .single spelt ((inside.append closed).gap rest)
      · obtain ⟨rfl, rfl⟩ := List.append_eq_nil_iff.1 empty
        rw [List.append_nil inner] at spelt ⊢
        exact .single spelt (.inr ⟨rfl, openLine⟩)
    · exact .cons spelt between (ih last whole)

end Laid

theorem laid_sign (sign : Text) {gap t rest : Text} {tokens : List Token} (proper : sign.isSign = true)
    (symbolic : sign.endsInWord = false) (between : Gap gap t) (laid : Laid tokens t rest) :
    Laid (.sign sign :: tokens) (sign ++ (gap ++ t)) rest :=
  .cons (.sign proper (by rw [symbolic, Bool.false_and])) between laid

end Schemata
