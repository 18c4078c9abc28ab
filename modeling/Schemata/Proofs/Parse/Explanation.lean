import Mathlib
import Schemata.Proofs.Parse.Placement
import Schemata.Proofs.Reading.Composed

/-! # Errors that tell what was expected

A run fails only after it has put something on record, and everything on record has a name. So there is
always something to name at the frontier, and the message of a syntax error always has both of its parts:
what was found, and all that was expected instead, each once.
-/

namespace Schemata

open Layout Reader

/-! ## Messages -/

theorem Text.infix_join {separator part : Text} {parts : List Text} (member : part ∈ parts) :
    part <:+: Text.join separator parts := by
  induction parts with
  | nil => contradiction
  | cons first rest ih =>
    cases rest with
    | nil =>
      obtain rfl := List.mem_singleton.1 member
      exact ⟨[], [], by simp [Text.join, List.intercalate]⟩
    | cons second others =>
      have split : Text.join separator (first :: second :: others) =
          first ++ (separator ++ Text.join separator (second :: others)) := by
        simp [Text.join, List.intercalate]
      rw [split]
      rcases List.mem_cons.1 member with rfl | member
      · exact ⟨[], _, rfl⟩
      · obtain ⟨before, after, whole⟩ := ih member
        exact ⟨first ++ separator ++ before, after, by simp [← whole]⟩

/-- Each alternative is named among those of a message. -/
theorem infix_joinAlternatives {label : Text} {labels : List Text} (member : label ∈ labels) :
    label <:+: joinAlternatives labels := by
  match labels, member with
  | [a], member =>
    obtain rfl := List.mem_singleton.1 member
    exact List.infix_rfl
  | [a, b], member =>
    rcases List.mem_pair.1 member with rfl | rfl
    · exact ⟨[], text " or " ++ b, by simp [joinAlternatives]⟩
    · exact ⟨a ++ text " or ", [], by simp [joinAlternatives]⟩
  | a :: b :: c :: rest, member =>
    rw [joinAlternatives]
    rw [← List.dropLast_concat_getLast (List.cons_ne_nil a (b :: c :: rest)), List.mem_append] at member
    rcases member with member | member
    · have inside : label <:+: Text.join (text ", ") (a :: b :: c :: rest).dropLast := Text.infix_join member
      exact (inside.trans (List.prefix_append _ _).isInfix).trans (List.prefix_append _ _).isInfix
    · rw [List.mem_singleton.1 member]
      exact (List.suffix_append _ _).isInfix

/-- A syntax error that tells its place, what was found there and what was expected instead. -/
structure SyntaxError.Informative (name : Text) (error : SyntaxError) : Prop where
  expected : error.expected ≠ []
  distinct : error.expected.Nodup
  named : ∀ label ∈ error.expected, label ≠ []
  message : ∃ found, found ≠ [] ∧ error.found = some found ∧
    error.message = name ++ text ":" ++ Text.ofInt error.line ++ text ":" ++ Text.ofInt error.column ++
      text ": unexpected " ++ found ++ text "; expecting " ++ joinAlternatives error.expected
  told : ∀ label ∈ error.expected, label <:+: joinAlternatives error.expected

/-- With something found and something expected, a message has both parts. -/
theorem SyntaxError.message_of_parts {error : SyntaxError} {found : Text} (given : error.found = some found)
    (filled : found ≠ []) (expects : error.expected ≠ []) :
    error.message = error.sourceName ++ text ":" ++ Text.ofInt error.line ++ text ":" ++
      Text.ofInt error.column ++ text ": unexpected " ++ found ++ text "; expecting " ++
      joinAlternatives error.expected := by
  have seen : error.found? = some found := by simp [found?, given, Option.filter, filled]
  have both : error.parts =
      [text "unexpected " ++ found, text "expecting " ++ joinAlternatives error.expected] := by
    simp [parts, seen, expects]
  have colon : text ": unexpected " = text ":" ++ (text " " ++ text "unexpected ") := by decide
  have semicolon : text "; expecting " = text "; " ++ text "expecting " := by decide
  rw [message, heading, both, colon, semicolon]
  simp [Text.join, List.intercalate]

/-! ## Runs -/

/-- A failure with something on record, all of it named, is told in full. -/
theorem Reader.diagnose_informative {s : State} (name source : Text) (filled : s.expectations ≠ [])
    (within : ∀ e ∈ s.expectations, 0 ≤ e.offset) (named : ∀ e ∈ s.expectations, e.Named) :
    (diagnose name source s).Informative name := by
  obtain ⟨e, member, here, _⟩ := Frontier.exists_furthest filled within
  obtain ⟨label, given⟩ := (named e member).label?
  have listed : label ∈ s.frontier.expected := Frontier.mem_expected_iff.2 ⟨e, member, here.symm, given⟩
  have expects : s.frontier.expected ≠ [] := List.ne_nil_of_mem listed
  refine ⟨expects, Frontier.nodup_expected _, fun label listed => ?_, ?_, fun label => infix_joinAlternatives⟩
  · obtain ⟨e, _, _, given⟩ := Frontier.mem_expected_iff.1 listed
    simpa [Option.filter_eq_some_iff] using (Option.filter_eq_some_iff.1 given).2
  · exact ⟨_, Source.describe_ne_nil source _, rfl,
      SyntaxError.message_of_parts rfl (Source.describe_ne_nil source _) expects⟩

/-- Whatever a run of a composed reader has on record has a name. -/
theorem Reader.Composed.named_of_fromStart {α : Type} {p : Reader α} {source : Text}
    {result : Except Failure α} {t : State} (composed : Composed p)
    (run : fromStart p source State.start = (result, t)) : ∀ e ∈ t.expectations, e.Named := by
  cases measured : length? source with
  | none =>
    rw [fromStart_of_open measured] at run
    cases run
    intro e member
    obtain rfl := List.mem_singleton.1 member
    exact named_open source _
  | some lead =>
    have alone : outcome p source ⟨lead, lead⟩ = (result, t) := (fromStart_of_gap measured).symm.trans run
    have named := composed.named source ⟨lead, lead⟩
    rwa [alone] at named

/-- A run explains each failure that it ends with. -/
structure ExplainsErrors {α : Type} (p : Reader α) (name source : Text) (result : Except Rejection α) :
    Prop where
  /-- Where the reader fails, something with a name is on record at the farthest offset. -/
  recorded : ∀ failure t, fromStart p source State.start = (.error failure, t) →
    (∀ fault, failure ≠ .fault fault) → ∃ e ∈ t.expectations, e.offset = t.frontier.furthest ∧ e.Named
  unexpected : ∀ error, result = .error (.unexpected error) → error.Informative name
  tooDeep : ∀ error, result = .error (.tooDeep error) → error.Informative name

/-- A composed reader that walks from token to token explains its failures. -/
theorem Reader.Walks.explainsErrors {α : Type} {p : Reader α} (walks : Walks p) (composed : Composed p)
    (name source : Text) : ExplainsErrors p name source (p.run name source).result := by
  cases run : fromStart p source State.start with
  | mk result t =>
    have ended := walks.ended run
    have named := composed.named_of_fromStart run
    refine ⟨fun failure u stopped proper => ?_, fun error rejected => ?_, fun error rejected => ?_⟩
    · cases run.symm.trans stopped
      obtain ⟨e, member, here, _⟩ := Frontier.exists_furthest (ended.filled proper)
        fun e member => (ended.recorded e member).offset_nonneg
      exact ⟨e, member, here.symm, named e member⟩
    · obtain ⟨failure, u, stopped, proper, rfl⟩ := run_eq_unexpected_iff.1 rejected
      cases run.symm.trans stopped
      exact diagnose_informative name source (ended.filled proper)
        (fun e member => (ended.recorded e member).offset_nonneg) named
    · obtain ⟨u, stopped, rfl⟩ := run_eq_tooDeep_iff.1 rejected
      cases run.symm.trans stopped
      have deeper := ended.shallower
      refine diagnose_informative name source (List.cons_ne_nil _ _)
        (fun e member => (deeper.recorded e member).offset_nonneg) fun e member => ?_
      rcases List.mem_cons.1 member with rfl | member
      · exact ⟨text "less deeply nested expression", by decide, rfl⟩
      · exact named e member

/-- Every syntax error tells what was found and, each once, what was expected instead. -/
theorem errors_tell_what_was_expected (name source : Text) :
    ExplainsErrors statements name source (parse name source).result ∧
      ExplainsErrors (whole (expression nestingLimit)) name source (parseExpression name source).result ∧
      ExplainsErrors (whole columnType) name source (parseColumnType name source).result := by
  refine ⟨?_, ?_, ?_⟩
  · rw [parse_result]
    exact walks_statements.explainsErrors composed_statements name source
  · exact (walks_whole (walks_expression _)).explainsErrors (composed_whole (composed_expression _)) name source
  · exact (walks_whole walks_columnType).explainsErrors (composed_whole composed_columnType) name source

end Schemata
