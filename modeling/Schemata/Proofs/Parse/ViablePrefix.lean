import Mathlib
import Schemata.Proofs.Parse.Completeness
import Schemata.Proofs.Reading.Frontier
import Schemata.Proofs.Reading.Statement

/-! # Errors are never found too late

Where a text is rejected, the part of it before the place of the error is still the beginning of a text
that is accepted. That holds whatever choice the farthest expectation was met in.
-/

namespace Schemata

open Layout Reader

variable {source : Text} {t : State}

/-- The text up to where something is expected is the beginning of a derived text. -/
theorem derives_of_expected {gap : Nat} {e : Expectation} (measured : length? source = some gap)
    (inside : gap < source.length) (expected : Expected (Grammar.schema nestingLimit) source gap e) :
    ∃ offset : Nat, e.offset = offset ∧ (offset ≤ source.length →
      ∃ suffix found, Grammar.Derives nestingLimit found (source.take offset ++ suffix)) := by
  obtain ⟨offset, here, beyond, within⟩ := expected
  refine ⟨offset, here, fun short => ?_⟩
  obtain ⟨tokens, ⟨found, more, phrase, writable⟩, completable⟩ := within short
  obtain ⟨rest, laid⟩ := exists_laid writable
  obtain ⟨suffix, whole⟩ := completable more rest laid
  obtain ⟨layout, body, split, width, between, _⟩ := gap_of_length? measured
  have closed : Closed layout := by
    rcases between with closed | ⟨rfl, _⟩
    · exact closed
    · rw [split, List.append_nil] at inside
      omega
  have start : source.take offset = layout ++ (source.drop gap).take (offset - gap) := by
    have front : source.take gap = layout := by rw [split, ← width, List.take_left]
    have total : offset = gap + (offset - gap) := by omega
    conv => lhs; rw [total]
    rw [List.take_add, front]
  refine ⟨suffix, found, tokens ++ more, layout, _, phrase, ?_, closed.gap _, whole⟩
  rw [start, List.append_assoc]

/-- Where a run fails, the text up to the frontier is the beginning of a derived text. -/
theorem derives_of_failure {failure : Failure}
    (stopped : fromStart statements source State.start = (.error failure, t))
    (within : (frontierOffsets t).1 ≤ source.length) :
    ∃ suffix found, Grammar.Derives nestingLimit found
      (source.take (frontierOffsets t).1 ++ suffix) := by
  cases measured : length? source with
  | none =>
    rw [fromStart_of_open measured] at stopped
    cases stopped
    obtain ⟨e, member, here, _⟩ := exists_frontierOffset
      (s := State.start.expecting (some (inQuotes "*/")) source.length) (by simp [State.expecting])
      (by simp [State.expecting, State.start])
    obtain rfl := List.mem_singleton.1 member
    have whole : (frontierOffsets (State.start.expecting (some (inQuotes "*/")) source.length)).1 =
        source.length := Int.ofNat.inj here
    rw [whole, List.take_length]
    exact ⟨closing, [], [], source ++ closing, [], rfl, by simp,
      (closed_of_length?_eq_none measured).gap [], .nil⟩
  | some gap =>
    rw [fromStart_of_gap measured] at stopped
    obtain ⟨inside, earlier, added⟩ := expectations_of_statements stopped
    obtain ⟨new, recorded, expected⟩ := (statements_tracks.each source (begun gap)).records
    rw [stopped] at recorded
    have recorded : t.expectations = new := recorded.trans (List.append_nil new)
    have derived (e : Expectation) (member : e ∈ t.expectations) :=
      derives_of_expected measured inside (expected e (recorded ▸ member))
    obtain ⟨e, member, here, _⟩ := exists_frontierOffset (s := t) (by simp [added]) fun e member => by
      obtain ⟨offset, place, _⟩ := derived e member
      omega
    obtain ⟨offset, place, completes⟩ := derived e member
    obtain rfl : (frontierOffsets t).1 = offset := by omega
    exact completes within

/-- Where a run on a text finds what does not belong there. -/
def furthest (source : Text) : Nat := (frontierOffsets (fromStart statements source State.start).2).1

/-- The text before the place where something is found that does not belong there can be continued to a
text that is accepted. -/
theorem completes_of_unexpected {name source : Text} {e : SyntaxError}
    (rejected : (parse name source).result = .error (.unexpected e)) :
    e.found = some (Source.describe source (furthest source)) ∧
      (furthest source ≤ source.length →
        ∃ suffix found, (parse name (source.take (furthest source) ++ suffix)).result = .ok found) := by
  obtain ⟨failure, t, stopped, _, rfl⟩ := parse_eq_unexpected_iff.1 rejected
  have final : furthest source = (frontierOffsets t).1 := by rw [furthest, stopped]
  rw [final]
  refine ⟨rfl, fun within => ?_⟩
  obtain ⟨suffix, found, derives⟩ := derives_of_failure stopped within
  exact ⟨suffix, found, parse_eq_ok_iff.2 (fromStart_of_derives derives (Nat.le_refl _))⟩

/-- An escape that is cut off can still be completed. -/
theorem completes_of_unexpected_escape :
    (parse "example" "CREATE TYPE mood AS ENUM ('\\q").result = .error (.unexpected
        ⟨"example", 28, 1, 29, ["escape code"], some "\"q\"", "CREATE TYPE mood AS ENUM ('\\q",
          some "CREATE TYPE mood AS ENUM ('\\q"⟩) ∧
      ∃ suffix found,
        (parse "example" (text "CREATE TYPE mood AS ENUM ('\\" ++ suffix)).result = .ok found := by
  have rejected : (parse "example" "CREATE TYPE mood AS ENUM ('\\q").result = .error (.unexpected
      ⟨"example", 28, 1, 29, ["escape code"], some "\"q\"", "CREATE TYPE mood AS ENUM ('\\q",
        some "CREATE TYPE mood AS ENUM ('\\q"⟩) := by cbv
  have place : furthest "CREATE TYPE mood AS ENUM ('\\q" = 28 := by cbv
  obtain ⟨_, completes⟩ := completes_of_unexpected rejected
  rw [place] at completes
  exact ⟨rejected, completes (by decide)⟩

end Schemata
