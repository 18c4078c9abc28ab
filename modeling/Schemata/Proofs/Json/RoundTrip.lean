import Schemata.Proofs.Json.Reader

/-! # Reading written JSON text back

The JSON text of plain data is read back as that data, whatever its indentation and whatever follows it, as
long as no number goes on. The data must have a written form and no two fields of one record share a name.
-/

namespace Schemata

/-- Plain data that has a written form, all of whose records have distinct fields. -/
inductive Plain.Proper : Plain → Prop
  | null : Proper .null
  | flag (value : Bool) : Proper (.flag value)
  | number (value : Int) : Proper (.number value)
  | string (value : Text) : Proper (.string value)
  | list {items : List Plain} : (∀ item ∈ items, Proper item) → Proper (.list items)
  | record {fields : List (Text × Plain)} : (fields.map Prod.fst).Nodup →
      (∀ field ∈ fields, Proper field.2) → Proper (.record fields)

namespace Json

open Plain

/-! ## Blanks -/

theorem skip_cons {c : CodePoint} (filled : isBlank c = false) (t : Text) : skip (c :: t) = c :: t := by
  simp [skip, filled]

theorem skip_lineBreak (level : Nat) (t : Text) : skip (lineBreak level ++ t) = skip t := by
  refine List.dropWhile_append_of_pos fun c member => ?_
  rcases List.mem_append.1 member with member | member
  · obtain rfl := List.mem_singleton.1 member
    rfl
  · obtain rfl := List.eq_of_mem_replicate member
    rfl

/-! ## Strings -/

theorem hexCode?_hex : ∀ n < 0x20, (CodePoint.hex 4 n).length = 4 ∧
    hexCode? (CodePoint.hex 4 n) = CodePoint.ofNat? n := by
  decide

theorem pieces?_quote (t : Text) : pieces? (CodePoint.ofChar '"' :: t) = some ([], t) := by
  rw [pieces?.eq_def]
  rfl

theorem pieces?_short {d code : CodePoint} (named : shortEscapes.lookup d = some code)
    (short : d ≠ CodePoint.ofChar 'u') (t : Text) :
    pieces? (CodePoint.ofChar '\\' :: d :: t) = (pieces? t).map (Piece.before ⟨code, false⟩) := by
  have apart : CodePoint.ofChar '\\' ≠ CodePoint.ofChar '"' := by decide
  rw [pieces?.eq_def]
  simp only [apart, short, if_true, if_false, named]
  rfl

theorem pieces?_numbered {digits : Text} {code : CodePoint} (width : digits.length = 4)
    (number : hexCode? digits = some code) (t : Text) :
    pieces? (CodePoint.ofChar '\\' :: CodePoint.ofChar 'u' :: (digits ++ t)) =
      (pieces? t).map (Piece.before ⟨code, true⟩) := by
  have apart : CodePoint.ofChar '\\' ≠ CodePoint.ofChar '"' := by decide
  match digits, width with
  | [h₁, h₂, h₃, h₄], _ =>
    rw [pieces?.eq_def]
    simp only [apart, if_true, if_false, List.cons_append, List.nil_append, number]
    rfl

/-- A written code point is read as one piece. -/
theorem pieces?_jsonForm (c : CodePoint) : ∃ p : Piece, p.code = c ∧ (p.numbered = true → c.val < 0x20) ∧
    ∀ t, pieces? (c.jsonForm ++ t) = (pieces? t).map p.before := by
  have short {d code : CodePoint} (same : c = code) (named : shortEscapes.lookup d = some code)
      (short : d ≠ CodePoint.ofChar 'u') : ∃ p : Piece, p.code = c ∧ (p.numbered = true → c.val < 0x20) ∧
        ∀ t, pieces? ([CodePoint.ofChar '\\', d] ++ t) = (pieces? t).map p.before :=
    ⟨⟨code, false⟩, same.symm, by simp, pieces?_short named short⟩
  unfold CodePoint.jsonForm
  split
  · next same => exact short same (by decide) (by decide)
  split
  · next same => exact short same (by decide) (by decide)
  split
  · next same => exact short same (by decide) (by decide)
  split
  · next same => exact short same (by decide) (by decide)
  split
  · next same => exact short same (by decide) (by decide)
  split
  · next same => exact short same (by decide) (by decide)
  split
  · next same => exact short same (by decide) (by decide)
  split
  · next control =>
    obtain ⟨width, number⟩ := hexCode?_hex c.val control
    rw [CodePoint.ofNat?_eq_some_iff.2 rfl] at number
    exact ⟨⟨c, true⟩, rfl, fun _ => control, pieces?_numbered width number⟩
  · next quote backslash _ _ _ _ _ printed =>
    refine ⟨⟨c, false⟩, rfl, by simp, fun t => ?_⟩
    rw [List.singleton_append, pieces?.eq_def]
    simp only [quote, backslash, printed, if_false]

theorem decode_of_raw {pieces : List Piece} (raw : ∀ p ∈ pieces, p.numbered = true → p.code.val < 0xD800) :
    decode pieces = pieces.map Piece.code := by
  fun_induction decode pieces with
  | case1 => rfl
  | case2 p => rfl
  | case3 p q rest c united =>
    split at united
    · next both =>
      have low := raw p List.mem_cons_self (Bool.and_eq_true_iff.1 both).1
      simp only [unite?] at united
      rw [if_neg (by omega)] at united
      cases united
    · cases united
  | case4 p q rest _ ih =>
    rw [ih fun r member => raw r (List.mem_cons_of_mem _ member)]
    rfl

theorem string?_jsonString (t rest : Text) :
    string? (t.flatMap CodePoint.jsonForm ++ CodePoint.ofChar '"' :: rest) = some (t, rest) := by
  have read : ∃ pieces, pieces? (t.flatMap CodePoint.jsonForm ++ CodePoint.ofChar '"' :: rest) = some (pieces, rest) ∧
      pieces.map Piece.code = t ∧ ∀ p ∈ pieces, p.numbered = true → p.code.val < 0xD800 := by
    induction t with
    | nil => exact ⟨[], pieces?_quote rest, rfl, by simp⟩
    | cons c t ih =>
      obtain ⟨pieces, run, codes, raw⟩ := ih
      obtain ⟨p, code, control, step⟩ := pieces?_jsonForm c
      refine ⟨p :: pieces, ?_, by rw [List.map_cons, code, codes], ?_⟩
      · rw [List.flatMap_cons, List.append_assoc, step, run]
        rfl
      · refine List.forall_mem_cons.2 ⟨fun numbered => ?_, raw⟩
        have := control numbered
        rw [code]
        omega
  obtain ⟨pieces, run, codes, raw⟩ := read
  rw [string?, run, Option.map_some]
  simp only [decode_of_raw raw, codes]

/-! ## Numbers -/

/-- What follows does not go on with a number. -/
def Ended (rest : Text) : Prop := rest.head?.all (fun c => !isDecimal c && !breaksNumber c) = true

theorem isDecimal_ofChar {c : Char} (digit : c.isDigit = true) : isDecimal (.ofChar c) = true := by
  simp only [Char.isDigit, Bool.and_eq_true, decide_eq_true_eq] at digit
  refine Bool.and_eq_true_iff.2 ⟨decide_eq_true ?_, decide_eq_true ?_⟩
  · exact UInt32.le_iff_toNat_le.1 digit.1
  · exact UInt32.le_iff_toNat_le.1 digit.2

theorem isDecimal_of_mem_ofNat {n : Nat} {c : CodePoint} (member : c ∈ Text.ofNat n) : isDecimal c = true := by
  obtain ⟨d, inside, rfl⟩ := List.mem_map.1 member
  exact isDecimal_ofChar (Nat.isDigit_of_mem_toDigits (by decide) (by decide) inside)

theorem decimal_ofNat (n : Nat) : decimal (Text.ofNat n) = n := by
  rw [decimal, Text.ofNat, List.foldl_map]
  exact Nat.ofDigitChars_toDigits (by decide) (by decide)

/-- Only zero starts with a zero. -/
theorem head?_toDigits {n : Nat} (positive : 0 < n) : (Nat.toDigits 10 n).head? ≠ some '0' := by
  induction n using Nat.strongRecOn with
  | _ n ih =>
    rcases Nat.lt_or_ge n 10 with small | large
    · rw [Nat.toDigits_of_lt_base small]
      simp only [List.head?_cons, ne_eq, Option.some.injEq, Nat.digitChar_eq_zero]
      omega
    · obtain ⟨first, rest, split⟩ := List.exists_cons_of_ne_nil (@Nat.toDigits_ne_nil (n / 10) 10)
      have other := ih (n / 10) (by omega) (by omega)
      rw [Nat.toDigits_of_base_le (by decide) large, split]
      rwa [split] at other

theorem takeWhile_ofNat (n : Nat) {rest : Text} (ended : Ended rest) :
    (Text.ofNat n ++ rest).takeWhile isDecimal = Text.ofNat n := by
  have stop : rest.takeWhile isDecimal = [] := by
    cases rest with
    | nil => rfl
    | cons c t =>
      simp only [Ended, List.head?_cons, Option.all_some, Bool.and_eq_true, Bool.not_eq_true'] at ended
      rw [List.takeWhile_cons_of_neg (by simp [ended.1])]
  rw [List.takeWhile_append_of_pos fun c => isDecimal_of_mem_ofNat, stop, List.append_nil]

theorem natural?_ofNat (n : Nat) {rest : Text} (ended : Ended rest) :
    natural? (Text.ofNat n ++ rest) = some (n, rest) := by
  have filled : Text.ofNat n ≠ [] := by
    rw [Text.ofNat, ne_eq, List.map_eq_nil_iff]
    exact Nat.toDigits_ne_nil
  have unbroken : rest.head?.any breaksNumber = false := by
    cases rest with
    | nil => rfl
    | cons c t =>
      simp only [Ended, List.head?_cons, Option.all_some, Bool.and_eq_true, Bool.not_eq_true'] at ended
      exact ended.2
  have leading : ¬ (1 < (Text.ofNat n).length ∧ (Text.ofNat n).head? = some (CodePoint.ofChar '0')) := by
    rintro ⟨several, zero⟩
    rcases Nat.eq_zero_or_pos n with rfl | positive
    · simp [Text.ofNat, Nat.toDigits_zero] at several
    · simp only [Text.ofNat, List.head?_map, Option.map_eq_some_iff] at zero
      obtain ⟨c, head, same⟩ := zero
      have digit : c = '0' := Char.ext (UInt32.toNat_inj.1 (congrArg CodePoint.val same))
      exact head?_toDigits positive (digit ▸ head)
  simp only [natural?, takeWhile_ofNat n ended, List.drop_left, decimal_ofNat]
  simp [filled, leading, unbroken]

theorem head_ofNat (n : Nat) : ∃ c t, Text.ofNat n = c :: t ∧ isDecimal c = true := by
  obtain ⟨d, ds, split⟩ := List.exists_cons_of_ne_nil (@Nat.toDigits_ne_nil n 10)
  have whole : Text.ofNat n = CodePoint.ofChar d :: ds.map CodePoint.ofChar := by
    rw [Text.ofNat, split, List.map_cons]
  exact ⟨_, _, whole, isDecimal_of_mem_ofNat (whole ▸ List.mem_cons_self)⟩

theorem number?_ofInt (n : Int) {rest : Text} (ended : Ended rest) :
    number? (Text.ofInt n ++ rest) = some (.number n, rest) := by
  cases n with
  | ofNat n =>
    obtain ⟨c, t, split, digit⟩ := head_ofNat n
    have positive : (Text.ofNat n ++ rest).head? ≠ some (CodePoint.ofChar '-') := by
      rw [split]
      rintro ⟨⟩
      exact absurd digit (by decide)
    rw [Text.ofInt, number?, if_neg positive, natural?_ofNat n ended]
    rfl
  | negSucc n =>
    have negative : (text "-" ++ Text.ofNat (n + 1) ++ rest).head? = some (CodePoint.ofChar '-') := rfl
    have digits : (text "-" ++ Text.ofNat (n + 1) ++ rest).drop 1 = Text.ofNat (n + 1) ++ rest := rfl
    rw [Text.ofInt, number?, if_pos negative, digits, natural?_ofNat (n + 1) ended]
    rfl

/-! ## Brackets -/

section Brackets

variable {α : Type} {element? : Text → Option (α × Text)} {write : α → Text} {closing : CodePoint}

/-- A code point that may start an element of a list or a record. -/
def opensElement (c : CodePoint) : Bool := !isBlank c && c ≠ ']' && c ≠ '\x7d'

/-- The element is read as it was written. -/
structure Reads (element? : Text → Option (α × Text)) (write : α → Text) (a : α) : Prop where
  read : ∀ rest, Ended rest → element? (write a ++ rest) = some (a, rest)
  opens : ∃ c t, write a = c :: t ∧ opensElement c = true

/-- The elements after the first one. -/
def separated (write : α → Text) (level : Nat) (others : List α) : Text :=
  others.flatMap fun a => text "," ++ lineBreak level ++ write a

theorem Reads.skip {a : α} (reads : Reads element? write a) (rest : Text) :
    skip (write a ++ rest) = write a ++ rest := by
  obtain ⟨c, t, split, opens⟩ := reads.opens
  simp only [opensElement, Bool.and_eq_true, Bool.not_eq_true'] at opens
  rw [split, List.cons_append, skip_cons opens.1.1]

theorem several?_written (closes : closing = CodePoint.ofChar ']' ∨ closing = CodePoint.ofChar '\x7d')
    {first : α} {others : List α} (reads : ∀ a ∈ first :: others, Reads element? write a)
    (inner outer : Nat) (rest : Text) {rounds : Nat} (enough : others.length < rounds) :
    several? element? closing rounds
      (write first ++ (separated write inner others ++ (lineBreak outer ++ closing :: rest))) =
      some (first :: others, rest) := by
  have filled : isBlank closing = false := by rcases closes with rfl | rfl <;> rfl
  have apart : CodePoint.ofChar ',' ≠ closing := by rcases closes with rfl | rfl <;> decide
  induction others generalizing first rounds with
  | nil =>
    obtain ⟨rounds, rfl⟩ : ∃ n, rounds = n + 1 := ⟨rounds - 1, by omega⟩
    have ended : Ended (lineBreak outer ++ closing :: rest) := rfl
    rw [several?, separated, List.flatMap_nil, List.nil_append, (reads first List.mem_cons_self).read _ ended]
    simp only [Option.bind_eq_bind, Option.bind_some, skip_lineBreak, skip_cons filled, if_true]
  | cons second others ih =>
    obtain ⟨rounds, rfl⟩ : ∃ n, rounds = n + 1 := ⟨rounds - 1, by omega⟩
    have later := reads second (List.mem_cons_of_mem _ List.mem_cons_self)
    have more : separated write inner (second :: others) = CodePoint.ofChar ',' ::
        (lineBreak inner ++ (write second ++ separated write inner others)) := by
      simp [separated, text]
    have ended (t : Text) : Ended (CodePoint.ofChar ',' :: t) := rfl
    rw [several?, more, List.cons_append, (reads first List.mem_cons_self).read _ (ended _)]
    simp only [List.append_assoc, Option.bind_eq_bind, Option.bind_some,
      skip_cons (rfl : isBlank (CodePoint.ofChar ',') = false), apart, if_false, if_true, skip_lineBreak, later.skip]
    rw [ih (fun a member => reads a (List.mem_cons_of_mem _ member)) (by simp at enough; omega)]
    rfl

/-- Each of the elements takes more room than it needs itself. -/
theorem length_separated (write : α → Text) (level : Nat) (others : List α) :
    others.length ≤ (separated write level others).length ∧
      ∀ a ∈ others, (write a).length < (separated write level others).length := by
  induction others with
  | nil => simp
  | cons first others ih =>
    have whole : (separated write level (first :: others)).length =
        1 + (lineBreak level).length + (write first).length + (separated write level others).length := by
      simp only [separated, List.flatMap_cons, List.length_append]
      rfl
    rw [whole, List.length_cons, List.forall_mem_cons]
    refine ⟨by omega, by omega, fun a member => ?_⟩
    have := ih.2 a member
    omega

/-- Elements between brackets, over several lines if there are any. -/
def written (write : α → Text) (level : Nat) : List α → Text
  | [] => []
  | first :: others => lineBreak (level + 1) ++ write first ++ separated write (level + 1) others ++ lineBreak level

theorem bracketed?_written (closes : closing = CodePoint.ofChar ']' ∨ closing = CodePoint.ofChar '\x7d')
    {elements : List α} (reads : ∀ a ∈ elements, Reads element? write a) (level : Nat) (rest : Text) :
    bracketed? element? closing (written write level elements ++ closing :: rest) = some (elements, rest) := by
  cases elements with
  | nil =>
    have filled : isBlank closing = false := by rcases closes with rfl | rfl <;> rfl
    simp only [bracketed?, written, List.nil_append, skip_cons filled, if_true]
  | cons first others =>
    have reads' := reads first List.mem_cons_self
    obtain ⟨c, t, split, opens⟩ := reads'.opens
    have apart : c ≠ closing := by
      simp only [opensElement, Bool.and_eq_true, decide_eq_true_eq] at opens
      rcases closes with rfl | rfl
      · exact opens.1.2
      · exact opens.2
    have enough : others.length < (written write level (first :: others) ++ closing :: rest).length := by
      have wide := (length_separated write (level + 1) others).1
      simp only [written, List.length_append, List.length_cons]
      omega
    have several := several?_written closes reads (level + 1) level rest enough
    rw [bracketed?]
    simp only [written, List.append_assoc, skip_lineBreak, reads'.skip] at several ⊢
    rw [split, List.cons_append] at several ⊢
    simp only [if_neg apart]
    exact several

theorem length_written {elements : List α} {a : α} (member : a ∈ elements) (write : α → Text) (level : Nat) :
    (write a).length < (written write level elements).length := by
  obtain ⟨first, others, rfl⟩ := List.exists_cons_of_ne_nil (List.ne_nil_of_mem member)
  have apart : 0 < (lineBreak (level + 1)).length := by simp [lineBreak, text]
  simp only [written, List.length_append]
  rcases List.mem_cons.1 member with rfl | member
  · omega
  · have := (length_separated write (level + 1) others).2 a member
    omega

end Brackets

/-! ## Values -/

/-- A field as it stands in a record. -/
def fieldText (level : Nat) (field : Text × Plain) : Text :=
  field.1.jsonString ++ text ": " ++ jsonAt level field.2

theorem jsonItems_eq (level : Nat) (items : List Plain) :
    jsonItems level items = separated (jsonAt level) level items := by
  induction items with
  | nil => rfl
  | cons item items ih => simp [jsonItems, ih, separated]

theorem jsonFields_eq (level : Nat) (fields : List (Text × Plain)) :
    jsonFields level fields = separated (fieldText level) level fields := by
  induction fields with
  | nil => rfl
  | cons field fields ih => simp [jsonFields, ih, separated, fieldText]

theorem jsonAt_list (level : Nat) (items : List Plain) :
    jsonAt level (.list items) = text "[" ++ written (jsonAt (level + 1)) level items ++ text "]" := by
  cases items with
  | nil => rfl
  | cons item items => simp [jsonAt, written, jsonItems_eq]

theorem jsonAt_record (level : Nat) (fields : List (Text × Plain)) :
    jsonAt level (.record fields) =
      text "\x7b" ++ written (fieldText (level + 1)) level fields ++ text "\x7d" := by
  cases fields with
  | nil => rfl
  | cons field fields => simp [jsonAt, written, jsonFields_eq, fieldText]

theorem jsonString_append (t rest : Text) :
    t.jsonString ++ rest = CodePoint.ofChar '"' :: (t.flatMap CodePoint.jsonForm ++ CodePoint.ofChar '"' :: rest) := by
  simp [Text.jsonString, text]

theorem Reads.field {value? : Text → Option (Plain × Text)} {level : Nat} {field : Text × Plain}
    (reads : Reads value? (jsonAt level) field.2) : Reads (field? value?) (fieldText level) field := by
  obtain ⟨key, value⟩ := field
  constructor
  · intro rest ended
    have colon : text ": " = [CodePoint.ofChar ':', CodePoint.ofChar ' '] := rfl
    have space (t : Text) : Json.skip (CodePoint.ofChar ' ' :: t) = Json.skip t := rfl
    rw [fieldText, List.append_assoc, List.append_assoc, jsonString_append, field?, if_pos rfl, string?_jsonString]
    simp only [colon, List.cons_append, List.nil_append, Option.bind_eq_bind, Option.bind_some,
      skip_cons (rfl : isBlank (CodePoint.ofChar ':') = false), if_true, space, reads.skip, reads.read rest ended]
  · exact ⟨CodePoint.ofChar '"', _, by rw [fieldText, List.append_assoc, jsonString_append], rfl⟩

/-- Fields of distinct names are set one after another. -/
theorem foldl_setField {fields : List (Text × Plain)} (distinct : (fields.map Prod.fst).Nodup) :
    fields.foldl setField [] = fields := by
  have append (earlier : List (Text × Plain)) (field : Text × Plain)
      (absent : field.1 ∉ earlier.map Prod.fst) : setField earlier field = earlier ++ [field] := by
    induction earlier with
    | nil => rfl
    | cons other earlier ih =>
      simp only [List.map_cons, List.mem_cons, not_or] at absent
      rw [setField, if_neg (Ne.symm absent.1), ih absent.2]
      rfl
  have all (earlier later : List (Text × Plain)) (distinct : ((earlier ++ later).map Prod.fst).Nodup) :
      later.foldl setField earlier = earlier ++ later := by
    induction later generalizing earlier with
    | nil => simp
    | cons field later ih =>
      have absent : field.1 ∉ earlier.map Prod.fst := by
        rw [List.map_append, List.nodup_append] at distinct
        exact fun member => distinct.2.2 _ member _ List.mem_cons_self rfl
      have step : earlier ++ field :: later = (earlier ++ [field]) ++ later := by simp
      rw [List.foldl_cons, append earlier field absent, ih (earlier ++ [field]) (step ▸ distinct), step]
  exact all [] fields distinct

theorem head_ofInt (n : Int) : ∃ c t, Text.ofInt n = c :: t ∧ (c = CodePoint.ofChar '-' ∨ isDecimal c = true) := by
  cases n with
  | ofNat n =>
    obtain ⟨c, t, split, digit⟩ := head_ofNat n
    exact ⟨c, t, split, .inr digit⟩
  | negSucc n => exact ⟨_, _, rfl, .inl rfl⟩

theorem reads_number (n : Int) (level depth : Nat) : Reads (value? (depth + 1)) (jsonAt level) (.number n) := by
  obtain ⟨c, t, split, head⟩ := head_ofInt n
  have other {d : CodePoint} (sign : d ≠ CodePoint.ofChar '-') (digit : isDecimal d = false) : c ≠ d := by
    rintro rfl
    rcases head with same | decimal
    · exact sign same
    · exact absurd decimal (by simp [digit])
  have opens : opensElement c = true := by
    have one : c ≠ CodePoint.ofChar ']' := other (by decide) (by decide)
    have two : c ≠ CodePoint.ofChar '\x7d' := other (by decide) (by decide)
    have blank : isBlank c = false := by
      simp only [isBlank, Bool.or_eq_false_iff, decide_eq_false_iff_not]
      exact ⟨⟨⟨other (by decide) (by decide), other (by decide) (by decide)⟩, other (by decide) (by decide)⟩,
        other (by decide) (by decide)⟩
    simp [opensElement, one, two, blank]
  refine ⟨fun rest ended => ?_, c, t, split, opens⟩
  have whole : jsonAt level (.number n) = c :: t := split
  have read := number?_ofInt n ended
  rw [split, List.cons_append] at read
  rw [whole, List.cons_append, value?, if_neg (other (by decide) (by decide)),
    if_neg (other (by decide) (by decide)), if_neg (other (by decide) (by decide)), scalar?, read]
  rfl

/-- Written data is read back, at any indentation. -/
theorem reads_jsonAt {p : Plain} (proper : p.Proper) (level : Nat) {depth : Nat}
    (deep : (jsonAt level p).length < depth) : Reads (value? depth) (jsonAt level) p := by
  obtain ⟨depth, rfl⟩ : ∃ n, depth = n + 1 := ⟨depth - 1, by omega⟩
  induction proper generalizing level depth with
  | null => exact ⟨fun _ _ => rfl, _, _, rfl, rfl⟩
  | flag value => cases value <;> exact ⟨fun _ _ => rfl, _, _, rfl, rfl⟩
  | number n => exact reads_number n level depth
  | string t =>
    refine ⟨fun rest _ => ?_, _, _, rfl, rfl⟩
    rw [jsonAt, jsonString_append, value?, if_pos rfl, string?_jsonString]
    rfl
  | @list items _ ih =>
    have whole := jsonAt_list level items
    have start (rest : Text) : jsonAt level (.list items) ++ rest = CodePoint.ofChar '[' ::
        (written (jsonAt (level + 1)) level items ++ CodePoint.ofChar ']' :: rest) := by
      simp [whole, text]
    refine ⟨fun rest _ => ?_, _, _, whole, rfl⟩
    have reads : ∀ item ∈ items, Reads (value? depth) (jsonAt (level + 1)) item := by
      intro item member
      have inside := length_written member (jsonAt (level + 1)) level
      rw [whole, List.length_append, List.length_append] at deep
      obtain ⟨depth, rfl⟩ : ∃ n, depth = n + 1 := ⟨depth - 1, by omega⟩
      exact ih item member (level + 1) depth (by omega)
    rw [start, value?, if_neg (by decide), if_pos rfl, bracketed?_written (.inl rfl) reads level rest]
    rfl
  | @record fields distinct _ ih =>
    have whole := jsonAt_record level fields
    have start (rest : Text) : jsonAt level (.record fields) ++ rest = CodePoint.ofChar '\x7b' ::
        (written (fieldText (level + 1)) level fields ++ CodePoint.ofChar '\x7d' :: rest) := by
      simp [whole, text]
    refine ⟨fun rest _ => ?_, _, _, whole, rfl⟩
    have reads : ∀ field ∈ fields, Reads (field? (value? depth)) (fieldText (level + 1)) field := by
      intro field member
      have inside := length_written member (fieldText (level + 1)) level
      have value : (jsonAt (level + 1) field.2).length ≤ (fieldText (level + 1) field).length := by
        rw [fieldText, List.length_append]
        omega
      rw [whole, List.length_append, List.length_append] at deep
      obtain ⟨depth, rfl⟩ : ∃ n, depth = n + 1 := ⟨depth - 1, by omega⟩
      exact (ih field member (level + 1) depth (by omega)).field
    rw [start, value?, if_neg (by decide), if_neg (by decide), if_pos rfl,
      bracketed?_written (.inr rfl) reads level rest, Option.map_some]
    simp only [foldl_setField distinct]

/-- What is written as JSON is read back unchanged. -/
theorem read?_json {p : Plain} (proper : p.Proper) : read? p.json = some p := by
  have reads := reads_jsonAt proper 0 (Nat.lt_succ_self _)
  have all : skip (jsonAt 0 p) = jsonAt 0 p := by simpa using reads.skip []
  have run := reads.read [] rfl
  rw [List.append_nil] at run
  rw [read?, json, all, run]
  rfl

end Json

end Schemata
