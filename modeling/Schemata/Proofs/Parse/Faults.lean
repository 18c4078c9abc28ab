import Mathlib
import Schemata.Proofs.Reading.Outcome

/-! # What stops a run for good

A text is read, or it is rejected with a syntax error, or it holds an escape with a decimal number of too
many digits. No other fault arises: no repetition stalls, no word or symbol is empty, and no column lacks a
name.
-/

namespace Schemata

open Reader

/-- How a run on a text may end. -/
inductive Accounted {α : Type} (source : Text) : Except Rejection α → Prop
  | read (a : α) : Accounted source (.ok a)
  | unexpected (error : SyntaxError) : Accounted source (.error (.unexpected error))
  | tooDeep (error : SyntaxError) : Accounted source (.error (.tooDeep error))
  | oversized {count : Nat} : source.HoldsOversized count →
      Accounted source (.error (.fault (.oversizedNumber count)))

/-- A reader that walks from token to token is stopped by the text alone. -/
theorem Reader.Walks.accounted {α : Type} {p : Reader α} (walks : Walks p) (name source : Text) :
    Accounted source (p.run name source).result := by
  cases ended : (p.run name source).result with
  | ok a => exact .read a
  | error rejection =>
    cases rejection with
    | unexpected error => exact .unexpected error
    | tooDeep error => exact .tooDeep error
    | fault fault =>
      obtain ⟨shallow, t, stopped⟩ := run_eq_fault_iff.1 ended
      cases (walks.ended stopped).faults fault rfl with
      | tooDeep => exact absurd rfl shallow
      | oversizedNumber holds => exact .oversized holds

/-- Every run gives a value, a syntax error, or the fault of a number of too many digits that stands in the
text. Its message names how many they are, and no other number is taken for a code point that is none. -/
theorem runs_are_accounted_for (name source : Text) :
    (Accounted source (parse name source).result ∧
      Accounted source (parseExpression name source).result ∧
      Accounted source (parseColumnType name source).result) ∧
    (∀ count, (Fault.oversizedNumber count).message =
      text "Exceeds the limit (4300 digits) for integer string conversion: value has " ++ Text.ofNat count ++
        text " digits; use sys.set_int_max_str_digits() to increase the limit") ∧
    ∀ radix distance t escape, Escape.numeric radix distance t = .ok escape →
      radix.value (radix.run t) ≤ 0x10FFFF := by
  refine ⟨⟨?_, ?_, ?_⟩, fun count => ?_, fun radix distance t escape => Escape.value_le_of_numeric⟩
  · rw [parse_result]
    exact walks_statements.accounted name source
  · exact (walks_whole (walks_expression _)).accounted name source
  · exact (walks_whole walks_columnType).accounted name source
  · have limit : text "Exceeds the limit (" ++ Text.ofNat Escape.maxDecimalDigits ++
        text " digits) for integer string conversion: value has " =
        text "Exceeds the limit (4300 digits) for integer string conversion: value has " := by cbv
    rw [Fault.message, limit]

end Schemata
