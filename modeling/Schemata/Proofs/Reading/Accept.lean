import Schemata.Proofs.Reading.Lookahead

/-! # Reading laid out tokens

A text in which tokens are laid out is read token by token. Lemmas named `_then` take the reader of one
part off a sequence: they ask what the rest of the sequence does on the rest of the tokens.
-/

namespace Schemata

open Layout

namespace Reader

variable {α β : Type} {h t u v rest : Text} {p : Reader α} {a : α} {f : α → Reader β}
  {outcome : Text → State → Except Failure β × State → Prop} {tokens : List Token}

/-- What follows starts with no layout, and the horizon is not before it. -/
structure Ahead (h rest : Text) : Prop where
  settled : Settled rest
  within : h.length ≤ rest.length

theorem Ahead.of_laid (ahead : Ahead h rest) (laid : Laid tokens t rest) : Ahead h t :=
  ⟨laid.settled ahead.settled, Nat.le_trans ahead.within laid.length_le⟩

/-- The reader reads every chunk of the token. -/
def Serves (p : Reader α) (token : Token) (Good : α → Prop) : Prop :=
  ∀ chunk after, token.Spells chunk after → ∃ a, Good a ∧ Takes p a chunk after

theorem keyword_serves (word : Text) : Serves (keyword word) (.keyword word) fun _ => True :=
  fun chunk _ spelt => ⟨chunk, trivial, takes_keyword spelt⟩

theorem sign_serves (sign label : Text) :
    Serves (token sign false true label) (.sign sign) fun _ => True :=
  fun chunk _ spelt => ⟨chunk, trivial, takes_sign spelt label⟩

theorem symbol_serves (sign : Text) : Serves (symbol sign) (.sign sign) fun _ => True :=
  sign_serves sign _

theorem name_serves (name : Text) : Serves identifier (.name name) (· = name) :=
  fun _ _ spelt => ⟨name, rfl, takes_name spelt⟩

theorem literal_serves (quote : CodePoint) (value label : Text) :
    Serves (quoted [quote] label) (.literal quote value) (· = value) :=
  fun _ _ spelt => ⟨value, rfl, takes_literal spelt label⟩

variable {token : Token} {Good : α → Prop}

theorem Serves.passes (serves : Serves p token Good) (laid : Laid (token :: tokens) t rest)
    (ahead : Ahead h rest) : ∃ a u, Good a ∧ Laid tokens u rest ∧ Passes h p a t u := by
  cases laid with
  | @cons _ _ chunk gap u _ spelt between laid =>
    obtain ⟨a, good, takes⟩ := serves chunk (gap ++ u) spelt
    exact ⟨a, u, good, laid, takes.passes between (laid.settled ahead.settled)⟩

theorem token_then (serves : Serves p token Good) (laid : Laid (token :: tokens) t rest)
    (ahead : Ahead h rest) (next : ∀ a u, Good a → Laid tokens u rest → Reaches h (f a) u v outcome) :
    Reaches h (p >>= f) t v outcome := by
  obtain ⟨a, u, good, laid, passes⟩ := serves.passes laid ahead
  exact passes.bind (next a u good laid)

theorem keyword_then {word : Text} {f : Text → Reader β} (laid : Laid (.keyword word :: tokens) t rest)
    (ahead : Ahead h rest) (next : ∀ a u, Laid tokens u rest → Reaches h (f a) u v outcome) :
    Reaches h (keyword word >>= f) t v outcome :=
  token_then (keyword_serves word) laid ahead fun a u _ => next a u

theorem symbol_then {sign : Text} {f : Text → Reader β} (laid : Laid (.sign sign :: tokens) t rest)
    (ahead : Ahead h rest) (next : ∀ a u, Laid tokens u rest → Reaches h (f a) u v outcome) :
    Reaches h (symbol sign >>= f) t v outcome :=
  token_then (symbol_serves sign) laid ahead fun a u _ => next a u

theorem name_then {name : Text} {f : Text → Reader β} (laid : Laid (.name name :: tokens) t rest)
    (ahead : Ahead h rest) (next : ∀ u, Laid tokens u rest → Reaches h (f name) u v outcome) :
    Reaches h (identifier >>= f) t v outcome :=
  token_then (name_serves name) laid ahead fun _ u same laid => same ▸ next u laid

theorem literal_then {quote : CodePoint} {value label : Text} {f : Text → Reader β}
    (laid : Laid (.literal quote value :: tokens) t rest) (ahead : Ahead h rest)
    (next : ∀ u, Laid tokens u rest → Reaches h (f value) u v outcome) :
    Reaches h (quoted [quote] label >>= f) t v outcome :=
  token_then (literal_serves quote value label) laid ahead fun _ u same laid => same ▸ next u laid

/-! ## Several tokens -/

theorem passes_mapM {γ : Type} {g : γ → Reader α} {token : γ → Token} {values : List γ}
    (serves : ∀ c ∈ values, Serves (g c) (token c) fun _ => True)
    (laid : Laid (values.map token ++ tokens) t rest) (ahead : Ahead h rest) :
    ∃ answers u, Laid tokens u rest ∧ Passes h (values.mapM g) answers t u := by
  induction values generalizing t with
  | nil => exact ⟨[], t, laid, by simpa using Passes.pure h [] t⟩
  | cons c values ih =>
    obtain ⟨a, u, _, laid, first⟩ := (serves c List.mem_cons_self).passes laid ahead
    obtain ⟨answers, w, laid, more⟩ := ih (fun d member => serves d (List.mem_cons_of_mem _ member)) laid
    refine ⟨a :: answers, w, laid, ?_⟩
    rw [List.mapM_cons]
    exact first.bind (more.bind (Passes.pure h _ w))

theorem passes_keywords {words : List Text} (laid : Laid (Grammar.keywords words ++ tokens) t rest)
    (ahead : Ahead h rest) : ∃ answers u, Laid tokens u rest ∧ Passes h (keywords words) answers t u :=
  passes_mapM (fun word _ => keyword_serves word) laid ahead

theorem keywords_then {words : List Text} {f : List Text → Reader β}
    (laid : Laid (Grammar.keywords words ++ tokens) t rest) (ahead : Ahead h rest)
    (next : ∀ a u, Laid tokens u rest → Reaches h (f a) u v outcome) :
    Reaches h (keywords words >>= f) t v outcome := by
  obtain ⟨a, u, laid, passes⟩ := passes_keywords laid ahead
  exact passes.bind (next a u laid)

theorem keywords_cons (word : Text) (words : List Text) :
    keywords (word :: words) =
      keyword word >>= fun first => keywords words >>= fun others => pure (first :: others) :=
  List.mapM_cons

theorem halts_keywords {word : Text} {words : List Text} (filled : word ≠ [])
    (absent : stands word true t = false) (within : h.length ≤ t.length) :
    Halts h (keywords (word :: words)) t := by
  rw [keywords_cons]
  exact ((misses_keyword filled absent).halts within).bind

/-- A clause is there, or its first keyword does not stand where it would be. -/
theorem clause_then {present : Bool} {word : Text} {words : List Text} {f : Bool → Reader β}
    (laid : Laid (Grammar.clause present (word :: words) ++ tokens) t rest) (ahead : Ahead h rest)
    (filled : word ≠ []) (absent : Laid tokens t rest → stands word true t = false)
    (next : ∀ u, Laid tokens u rest → Reaches h (f present) u v outcome) :
    Reaches h (isPresent (keywords (word :: words)) >>= f) t v outcome := by
  cases present with
  | true =>
    have laid : Laid (Grammar.keywords (word :: words) ++ tokens) t rest := laid
    obtain ⟨a, u, laid, passes⟩ := passes_keywords laid ahead
    exact passes.isPresent.bind (next u laid)
  | false =>
    have laid : Laid tokens t rest := laid
    have halts : Halts h (keywords (word :: words)) t :=
      halts_keywords filled (absent laid) (ahead.of_laid laid).within
    exact halts.isPresent.bind (next t laid)

/-! ## Phrases -/

/-- The reader reads the tokens, wherever they are laid out before a text of some kind. -/
def Accepts (p : Reader α) (a : α) (front : List Token) (follow : Text → Prop) : Prop :=
  ∀ h t u, Laid front t u → Ahead h u → follow u → Passes h p a t u

theorem phrase_then {front : List Token} {follow : Text → Prop} (accepts : Accepts p a front follow)
    (laid : Laid (front ++ tokens) t rest) (ahead : Ahead h rest)
    (followed : ∀ u, Laid tokens u rest → follow u)
    (next : ∀ u, Laid tokens u rest → Reaches h (f a) u v outcome) : Reaches h (p >>= f) t v outcome := by
  obtain ⟨u, front, back⟩ := laid.split
  exact (accepts h t u front (ahead.of_laid back) (followed u back)).bind (next u back)

/-- A part that may be left out is read if it is there, and else the reader gives up at what follows. -/
theorem passes_optional {L : Language (Option α)} {value? : Option α} {front : List Token}
    (phrase : L value? front) (empty : ∀ tokens, L none tokens → tokens = []) (laid : Laid front t u)
    (halts : Halts h p u) (passes : ∀ a, L (some a) front → Passes h p a t u) :
    Passes h (optional p) value? t u := by
  cases value? with
  | none =>
    obtain rfl := empty front phrase
    rw [laid.eq_of_nil]
    exact halts.optional
  | some a => exact (passes a phrase).optional

end Reader

end Schemata
