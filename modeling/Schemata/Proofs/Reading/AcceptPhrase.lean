import Schemata.Proofs.Reading.Accept
import Schemata.Proofs.Reading.Phrase
import Schemata.Proofs.Reading.Run

/-! # Reading phrases back

Lists, column types and expressions are read from every layout of their tokens, if what follows them is
something that the grammar puts there. A whole text is read if nothing is left of it.
-/

namespace Schemata

open Layout

namespace Reader

variable {α β : Type} {h t u v rest : Text} {p : Reader α} {a : α}
  {outcome : Text → State → Except Failure β × State → Prop} {tokens : List Token}

/-! ## What may follow -/

/-- The text starts with a sign that ends an item, a list or a statement. -/
def Delimited (t : Text) : Prop := ∃ c ∈ text ",);", t.head? = some c

/-- The text starts with one of some keywords, or with a sign that ends something. -/
def FollowedBy (words : List Text) (t : Text) : Prop :=
  Delimited t ∨ ∃ word ∈ words, Leads (.keyword word) t

theorem Delimited.startsInWord (delimited : Delimited t) : t.startsInWord = false := by
  obtain ⟨c, member, head⟩ := delimited
  rw [startsInWord_of_head? head]
  exact (by decide : ∀ c ∈ text ",);", c.isWord = false) c member

namespace FollowedBy

variable {words : List Text}

theorem not_stands {other : Text} (followed : FollowedBy words t) (proper : other.isKeyword = true)
    (differ : ∀ word ∈ words, Text.upper word ≠ Text.upper other) : stands other true t = false := by
  rcases followed with delimited | ⟨word, member, leads⟩
  · exact not_stands_of_not_startsInWord proper delimited.startsInWord
  · exact leads.not_stands proper (differ word member)

theorem ne_nil (followed : FollowedBy words t) : t ≠ [] := by
  rintro rfl
  rcases followed with ⟨c, _, head⟩ | ⟨word, _, leads⟩
  · cases head
  · cases leads.keyword

theorem head?_ne (followed : FollowedBy words t) : t.head? ≠ some '(' := by
  rcases followed with ⟨c, member, head⟩ | ⟨word, _, leads⟩
  · rw [head]
    exact (by decide : ∀ c ∈ text ",);", some c ≠ some (CodePoint.ofChar '(')) c member
  · exact head?_ne_of_startsInWord leads.keyword (by decide)

theorem cons (followed : FollowedBy words t) (word : Text) : FollowedBy (word :: words) t := by
  rcases followed with delimited | ⟨other, member, leads⟩
  · exact .inl delimited
  · exact .inr ⟨other, List.mem_cons_of_mem _ member, leads⟩

theorem clause {present : Bool} {word : Text} {more : List Text}
    (laid : Laid (Grammar.clause present (word :: more) ++ tokens) t rest)
    (next : ∀ u, Laid tokens u rest → FollowedBy words u) : FollowedBy (word :: words) t := by
  cases present with
  | true => exact .inr ⟨word, List.mem_cons_self, leads_of_laid laid⟩
  | false => exact (next t laid).cons word

/-- A part that may be left out, and that starts with a keyword if it is there. -/
theorem optional {L : Language (Option β)} {value? : Option β} {front : List Token} {word : Text}
    (phrase : L value? front) (empty : ∀ tokens, L none tokens → tokens = [])
    (led : ∀ b, L (some b) front → ∃ back, front = .keyword word :: back)
    (laid : Laid (front ++ tokens) t rest) (next : ∀ u, Laid tokens u rest → FollowedBy words u) :
    FollowedBy (word :: words) t := by
  cases value? with
  | none =>
    obtain rfl := empty front phrase
    exact (next t laid).cons word
  | some b =>
    obtain ⟨back, rfl⟩ := led b phrase
    exact .inr ⟨word, List.mem_cons_self, leads_of_laid laid⟩

end FollowedBy

/-! ## Lists -/

section Lists

variable {L : Language α} {values : List α} {inner : List Token}

theorem delimited_of_following (phrase : Grammar.following (.sign ",") L values inner)
    (laid : Laid inner t u) (closed : u.head? = some ')') : Delimited t := by
  cases values with
  | nil =>
    obtain rfl : inner = [] := phrase
    exact ⟨')', by decide, laid.eq_of_nil ▸ closed⟩
  | cons a values =>
    obtain ⟨_, _, _, _, rfl⟩ := phrase
    exact ⟨',', by decide, (leads_of_laid laid).sign⟩

/-- Items are read as long as a separator is there. -/
theorem passes_afterEach (item : ∀ a tokens, L a tokens → Accepts p a tokens Delimited)
    (phrase : Grammar.following (.sign ",") L values inner) (laid : Laid inner t u) (ahead : Ahead h u)
    (closed : u.head? = some ')') {rounds : Nat} (enough : t.length < rounds) :
    Passes h (afterEach "," p rounds) values t u := by
  induction values generalizing inner t rounds with
  | nil =>
    obtain rfl : inner = [] := phrase
    obtain rfl := laid.eq_of_nil
    obtain ⟨rounds, rfl⟩ : ∃ n, rounds = n + 1 := ⟨rounds - 1, by omega⟩
    have other : t.head? ≠ some ',' := by
      rw [closed]
      decide
    exact ((misses_symbol other).halts ahead.within).isPresent.bind (Passes.pure h [] t)
  | cons a values ih =>
    obtain ⟨front, back, first, more, rfl⟩ := phrase
    obtain ⟨rounds, rfl⟩ : ∃ n, rounds = n + 1 := ⟨rounds - 1, by omega⟩
    have laid : Laid ([.sign ","] ++ (front ++ back)) t u := laid
    obtain ⟨w, single, after⟩ := laid.split
    obtain ⟨x, itemLaid, othersLaid⟩ := after.split
    obtain ⟨_, _, _, past, separator⟩ := (symbol_serves ",").passes single (ahead.of_laid after)
    rw [past.eq_of_nil] at separator
    have delimited := delimited_of_following more othersLaid closed
    have shorter : x.length < t.length :=
      Nat.lt_of_le_of_lt itemLaid.length_le (single.length_lt (by simp))
    have read := item a front first h w x itemLaid (ahead.of_laid othersLaid) delimited
    have readOthers := ih more othersLaid (show x.length < rounds by omega)
    exact separator.isPresent.bind (read.bind (readOthers.bind (Passes.pure h _ u)))

theorem passes_others (item : ∀ a tokens, L a tokens → Accepts p a tokens Delimited)
    (phrase : Grammar.following (.sign ",") L values inner) (laid : Laid inner t u) (ahead : Ahead h u)
    (closed : u.head? = some ')') : Passes h (others "," p) values t u := by
  intro source s here
  have enough : t.length < source.length + 1 := by
    have := here.inside
    omega
  exact passes_afterEach item phrase laid ahead closed enough source s here

/-- Separated items are read up to the bracket after them. -/
theorem accepts_sepBy (item : ∀ a tokens, L a tokens → Accepts p a tokens Delimited)
    (misses : ∀ t : Text, t.head? = some (CodePoint.ofChar ')') → Misses p t)
    (phrase : Grammar.separated (.sign ",") L values inner) :
    Accepts (sepBy p ",") values inner fun u => u.head? = some (CodePoint.ofChar ')') := by
  intro h t u laid ahead closed
  cases values with
  | nil =>
    obtain rfl : inner = [] := phrase
    obtain rfl := laid.eq_of_nil
    exact ((misses t closed).halts ahead.within).optional.bind (Passes.pure h [] t)
  | cons a values =>
    obtain ⟨front, back, first, more, rfl⟩ := phrase
    obtain ⟨w, itemLaid, othersLaid⟩ := laid.split
    have delimited := delimited_of_following more othersLaid closed
    have read := item a front first h t w itemLaid (ahead.of_laid othersLaid) delimited
    exact read.optional.bind ((passes_others item more othersLaid ahead closed).bind (Passes.pure h _ u))

/-- What stands in brackets is read with them. -/
theorem accepts_between (item : Accepts p a inner fun u => u.head? = some (CodePoint.ofChar ')')) :
    Accepts (between "(" ")" p) a (.sign "(" :: (inner ++ [.sign ")"])) fun _ => True := by
  intro h t u laid ahead _
  refine symbol_then laid ahead fun _ w laid => ?_
  refine phrase_then item laid ahead (fun x laid => (leads_of_laid laid).sign) fun x laid => ?_
  refine symbol_then laid ahead fun _ y laid => ?_
  obtain rfl := laid.eq_of_nil
  exact Passes.pure h a y

end Lists

/-- A single token is read whatever follows. -/
theorem accepts_token {token : Token} (serves : Serves p token (· = a)) :
    Accepts p a [token] fun _ => True := by
  intro h t u laid ahead _
  obtain ⟨b, w, rfl, past, passes⟩ := serves.passes laid ahead
  exact past.eq_of_nil ▸ passes

theorem Accepts.mono {front : List Token} {follow follow' : Text → Prop} (accepts : Accepts p a front follow)
    (weaker : ∀ u, follow' u → follow u) : Accepts p a front follow' :=
  fun h t u laid ahead followed => accepts h t u laid ahead (weaker u followed)

/-- No name starts with a closing bracket. -/
theorem misses_identifier_of_closing (closed : t.head? = some (CodePoint.ofChar ')')) :
    Misses identifier t := by
  apply misses_identifier
  · rw [startsInWord_of_head? closed]
    decide
  · rw [closed]
    decide

/-! ## Column types -/

/-- The first word of a spelling tells which spelling it is, and of which type. -/
theorem spelling_of_first_word : ∀ entry ∈ KnownType.spellings, ∀ other ∈ KnownType.spellings,
    ∀ words ∈ entry.2, ∀ others ∈ other.2,
      words.head?.map Text.upper = others.head?.map Text.upper → entry.1 = other.1 ∧ words = others := by
  decide +kernel

/-- The words that may come second in a spelling. -/
def secondWords : List Text := ["WITH", "PRECISION"]

theorem second_word_of_spelling : ∀ entry ∈ KnownType.spellings, ∀ words ∈ entry.2,
    words.length = 1 ∨ ∃ second ∈ secondWords, words[1]? = some second := by decide

/-- The words that start a clause of a column. -/
def clauseWords : List Text := ["DEFAULT", "PRIMARY", "NOT", "UNIQUE"]

theorem accepts_knownType {type : KnownType} {spellings : List (List Text)} {words : List Text}
    (listed : (type, spellings) ∈ KnownType.spellings) (spelling : words ∈ spellings) :
    Accepts columnType (.known type) (Grammar.keywords words) fun _ => True := by
  intro h t u laid ahead _
  have laid : Laid (Grammar.keywords words ++ []) t u := by simpa using laid
  obtain ⟨answers, w, past, read⟩ := passes_keywords laid ahead
  rw [past.eq_of_nil] at read
  have passes : Passes h (do let _ ← keywords words; pure type) type t u := read.bind (Passes.pure h type u)
  refine ((passes_choice ?_ ?_ passes).map (g := ColumnType.known)).recover
  · simp only [knownTypes, List.mem_flatMap, List.mem_map]
    exact ⟨_, listed, words, spelling, rfl⟩
  · intro reader member
    simp only [knownTypes, List.mem_flatMap, List.mem_map] at member
    obtain ⟨⟨other, otherSpellings⟩, otherListed, others, otherSpelling, rfl⟩ := member
    by_cases same : words.head?.map Text.upper = others.head?.map Text.upper
    · obtain ⟨rfl, rfl⟩ := spelling_of_first_word _ listed _ otherListed _ spelling _ otherSpelling same
      exact .inr passes
    · refine .inl (Halts.bind ?_)
      have filled := second_word_of_spelling _ listed _ spelling
      have otherFilled := second_word_of_spelling _ otherListed _ otherSpelling
      have proper := isKeyword_of_mem_spellings _ otherListed _ otherSpelling
      cases words with
      | nil => simp at filled
      | cons word words =>
        cases others with
        | nil => simp at otherFilled
        | cons other others =>
          have leads : Leads (.keyword word) t := leads_of_laid laid
          have proper := proper other List.mem_cons_self
          have differ : Text.upper word ≠ Text.upper other := fun equal => same (congrArg some equal)
          exact halts_keywords (Text.isKeyword_ne_nil proper) (leads.not_stands proper differ)
            (ahead.of_laid laid).within

/-- No known type is read where a name of another type stands, if something follows that name, but no second
word of a spelling. -/
theorem halts_knownTypes {name chunk gap : Text} (unknown : ¬ Grammar.NamesKnownType name)
    (spelt : (Token.typeName name).Spells chunk (gap ++ u)) (between : Gap gap u) (ahead : Ahead h u)
    (followed : gap ++ u ≠ []) (absent : ∀ second ∈ secondWords, stands second true u = false) :
    Halts h (choice (knownTypes KnownType.spellings)) (chunk ++ (gap ++ u)) := by
  refine Halts.choice fun reader member => ?_
  simp only [knownTypes, List.mem_flatMap, List.mem_map] at member
  obtain ⟨⟨type, spellings⟩, listed, words, spelling, rfl⟩ := member
  apply Halts.bind
  cases spelt with
  | typeName filled all ended =>
    have within : h.length ≤ (name ++ (gap ++ u)).length := by
      have := ahead.within
      simp only [List.length_append]
      omega
    have shape := second_word_of_spelling _ listed _ spelling
    have proper := isKeyword_of_mem_spellings _ listed _ spelling
    cases words with
    | nil => simp at shape
    | cons word more =>
      have properWord := proper word List.mem_cons_self
      have filledWord := Text.isKeyword_ne_nil properWord
      cases standing : stands word true (name ++ (gap ++ u)) with
      | false => exact halts_keywords filledWord standing within
      | true =>
        obtain ⟨form, width | ⟨_, past⟩⟩ := (stands_keyword_iff properWord all ended).1 standing
        · cases more with
          | nil => exact absurd ⟨_, listed, word, spelling, width, form⟩ unknown
          | cons second more =>
            have properSecond := proper second (by simp)
            have listedSecond : second ∈ secondWords := by
              rcases shape with alone | ⟨other, member, same⟩
              · simp at alone
              · cases same
                exact member
            have first : Passes h (keyword word) name (name ++ (gap ++ u)) u :=
              (takes_keyword (.keyword properWord width form ended)).passes between ahead.settled
            rw [keywords_cons]
            refine Halts.bind_after first (Halts.bind ?_)
            exact halts_keywords (Text.isKeyword_ne_nil properSecond) (absent second listedSecond) ahead.within
        · exact absurd past followed

theorem passes_typeName {name chunk gap : Text} (unknown : ¬ Grammar.NamesKnownType name)
    (spelt : (Token.typeName name).Spells chunk (gap ++ u)) (between : Gap gap u) (ahead : Ahead h u)
    (followed : gap ++ u ≠ []) (absent : ∀ second ∈ secondWords, stands second true u = false) :
    Passes h columnType (.custom name) (chunk ++ (gap ++ u)) u := by
  have halts := halts_knownTypes unknown spelt between ahead followed absent
  have read := (takes_typeName spelt "custom type").passes between ahead.settled (h := h)
  exact Reaches.recover halts.map (choice_rewinds _).map (read.map (g := ColumnType.custom))

theorem secondWords_proper : ∀ second ∈ secondWords, second.isKeyword = true := by decide

/-- No clause of a column starts like the second word of a spelling. -/
theorem FollowedBy.not_second (followed : FollowedBy clauseWords u) :
    ∀ second ∈ secondWords, stands second true u = false := by
  have differ : ∀ second ∈ secondWords, ∀ word ∈ clauseWords, Text.upper word ≠ Text.upper second := by decide
  exact fun second member => followed.not_stands (secondWords_proper second member) (differ second member)

theorem accepts_columnType {type : ColumnType} {tokens : List Token}
    (phrase : Grammar.columnType type tokens) :
    Accepts columnType type tokens (FollowedBy clauseWords) := by
  cases type with
  | known type =>
    obtain ⟨spellings, words, listed, spelling, rfl⟩ := phrase
    exact (accepts_knownType listed spelling).mono fun _ _ => trivial
  | custom name =>
    obtain ⟨filled, unknown, rfl⟩ := phrase
    intro h t u laid ahead followed
    cases laid with
    | @cons _ _ chunk gap v _ spelt between past =>
      obtain rfl := past.eq_of_nil
      have more : gap ++ v ≠ [] := fun past => followed.ne_nil (List.append_eq_nil_iff.1 past).2
      exact passes_typeName unknown spelt between ahead more followed.not_second

/-! ## Expressions -/

/-- An expression starts with a name or a literal. -/
theorem head?_ne_of_expression {limit : Nat} {value : Expression} {front : List Token}
    (phrase : Grammar.expression limit value front) (laid : Laid (front ++ tokens) t rest) :
    t.head? ≠ some ')' := by
  have named {name : Text} {back : List Token} (laid : Laid (.name name :: back) t rest) :
      t.head? ≠ some ')' := by
    rcases (leads_of_laid laid).name with starts | quoted
    · exact head?_ne_of_startsInWord starts (by decide)
    · rw [quoted]
      decide
  cases limit with
  | zero => cases phrase
  | succ limit =>
    cases value with
    | var name =>
      obtain ⟨_, rfl⟩ := phrase
      exact named laid
    | call function args =>
      obtain ⟨_, inner, _, rfl⟩ := phrase
      exact named laid
    | literal value =>
      obtain rfl : front = [.literal '\'' value] := phrase
      rw [(leads_of_laid laid).literal]
      decide
    | other value => cases phrase

/-- A reader that goes on after an optional token, where the token is not there. -/
theorem reaches_absent {f : Option α → Reader β} (misses : Misses p t) (within : h.length ≤ t.length)
    (next : Reaches h (f none) t v outcome) :
    Reaches h (recover (some <$> p) (pure none) >>= f) t v outcome := by
  have absent : Passes h (recover (some <$> p) (pure none)) none t t := by
    intro source s here
    obtain ⟨label, run⟩ := misses source s here
    have whole : recover (some <$> p) (pure none) source s =
        (.ok none, s.expecting label s.cursor.offset) := by
      simp only [recover, map_of_failAt run, failAt_apply, pure_apply]
    refine ⟨s.expecting label s.cursor.offset, here.of_cursor rfl, ⟨[_], rfl, fun e member => ?_⟩, whole⟩
    obtain rfl := List.mem_singleton.1 member
    have := here.inside
    simp only
    omega
  exact absent.bind next

/-- The arguments of a call are read up to its closing bracket. -/
theorem passes_arguments {limit depth : Nat} {first : Expression} {args : List Expression}
    {front back : List Token}
    (item : ∀ value tokens, Grammar.expression limit value tokens →
      Accepts (expression depth) value tokens Delimited)
    (head : Grammar.expression limit first front)
    (more : Grammar.following (.sign ",") (Grammar.expression limit) args back)
    (laid : Laid (front ++ (back ++ [.sign ")"])) t u) (ahead : Ahead h u) (function : Text) :
    Passes h (arguments depth function) (.call function (first :: args)) t u := by
  refine phrase_then (item first front head) laid ahead ?_ fun y laid => ?_
  · intro y laid
    obtain ⟨z, others, last⟩ := laid.split
    exact delimited_of_following more others (leads_of_laid last).sign
  · obtain ⟨z, others, last⟩ := laid.split
    have read := passes_others item more others (ahead.of_laid last) (leads_of_laid last).sign
    apply read.bind
    refine symbol_then last ahead fun _ _ past => ?_
    rw [past.eq_of_nil]
    exact Passes.pure h _ u

theorem accepts_expression {limit depth : Nat} {value : Expression} {tokens : List Token}
    (phrase : Grammar.expression limit value tokens) (deep : limit ≤ depth) :
    Accepts (expression depth) value tokens fun u => u.head? ≠ some (CodePoint.ofChar '(') := by
  induction limit generalizing depth value tokens with
  | zero => cases phrase
  | succ limit ih =>
    obtain ⟨depth, rfl⟩ : ∃ n, depth = n + 1 := ⟨depth - 1, by omega⟩
    intro h t u laid ahead followed
    rw [expression]
    cases value with
    | var name =>
      obtain ⟨filled, rfl⟩ := phrase
      obtain ⟨_, w, rfl, past, read⟩ := (name_serves name).passes laid ahead
      rw [past.eq_of_nil] at read
      apply (read.map (g := some)).recover.bind
      exact ((misses_symbol followed).halts ahead.within).isPresent.bind (Passes.pure h _ u)
    | literal value =>
      obtain rfl : tokens = [.literal '\'' value] := phrase
      have head := (leads_of_laid laid).literal
      have misses : Misses identifier t := by
        apply misses_identifier
        · rw [startsInWord_of_head? head]
          decide
        · rw [head]
          decide
      apply reaches_absent misses (ahead.of_laid laid).within
      refine literal_then laid ahead fun w past => ?_
      rw [past.eq_of_nil]
      exact Passes.pure h _ u
    | call function args =>
      obtain ⟨filled, inner, listed, rfl⟩ := phrase
      obtain ⟨_, w, rfl, laid, read⟩ := (name_serves function).passes laid ahead
      apply (read.map (g := some)).recover.bind
      obtain ⟨_, x, _, laid, opened⟩ := (symbol_serves "(").passes laid ahead
      apply opened.isPresent.bind
      cases args with
      | nil =>
        obtain rfl : inner = [] := listed
        obtain ⟨_, y, _, past, closed⟩ := (symbol_serves ")").passes laid ahead
        rw [past.eq_of_nil] at closed
        exact closed.isPresent.bind (Passes.pure h _ u)
      | cons first args =>
        obtain ⟨front, back, head, more, rfl⟩ := listed
        have laid : Laid (front ++ (back ++ [.sign ")"])) x u := by simpa using laid
        have open' := misses_symbol (head?_ne_of_expression head laid)
        apply (open'.halts (ahead.of_laid laid).within).isPresent.bind
        have item (value : Expression) (tokens : List Token) (phrase : Grammar.expression limit value tokens) :
            Accepts (expression depth) value tokens Delimited := by
          refine (ih phrase (by omega)).mono fun u delimited => ?_
          exact @FollowedBy.head?_ne _ [] (.inl delimited)
        exact passes_arguments item head more laid ahead _
    | other value => cases phrase

/-! ## Whole texts -/

/-- A text is read if the reader gets from the end of its leading layout to the end of the text, or beyond. -/
theorem run_whole_eq_ok_iff {gap body name : Text} (between : Gap gap body) (settled : Settled body) :
    ((whole p).run name (gap ++ body)).result = .ok a ↔
      ∃ t, p (gap ++ body) (begun gap.length) = (.ok a, t) ∧ (gap ++ body).length ≤ t.cursor.offset := by
  rw [run_eq_ok_iff, fromStart_of_gap (length?_gap_append between settled)]
  constructor
  · rintro ⟨u, success⟩
    obtain ⟨b, t, run, rest⟩ := of_bind_eq_ok success
    by_cases ended : (gap ++ body).length ≤ t.cursor.offset
    · simp only [bind_apply, atEnd_apply, ended, decide_true, if_true, pure_apply] at rest
      cases rest
      exact ⟨_, run, ended⟩
    · simp only [bind_apply, atEnd_apply, ended, decide_false, Bool.false_eq_true, if_false] at rest
      cases rest
  · rintro ⟨t, run, ended⟩
    refine ⟨t, ?_⟩
    rw [whole, bind_apply, run]
    simp only [bind_apply, atEnd_apply, ended, decide_true, if_true, pure_apply]

theorem run_of_passes {gap body : Text} (between : Gap gap body) (settled : Settled body)
    (passes : Passes [] p a body []) (name : Text) : ((whole p).run name (gap ++ body)).result = .ok a := by
  have here : At (gap ++ body) (begun gap.length) body := ⟨List.drop_left, (List.length_append ..).symm⟩
  obtain ⟨t, there, _, read⟩ := passes _ _ here
  exact (run_whole_eq_ok_iff between settled).2 ⟨t, read, Nat.le_of_eq there.inside.symm⟩

/-- A text that is read starts with layout that ends. -/
theorem exists_gap_of_run {source name : Text} (read : (p.run name source).result = .ok a) :
    ∃ gap body, source = gap ++ body ∧ Gap gap body ∧ Settled body := by
  cases measured : length? source with
  | none =>
    obtain ⟨t, success⟩ := run_eq_ok_iff.1 read
    rw [fromStart_of_open measured] at success
    cases success
  | some n =>
    obtain ⟨gap, body, split, _, between, settled⟩ := gap_of_length? measured
    exact ⟨gap, body, split, between, settled⟩

end Reader

end Schemata
