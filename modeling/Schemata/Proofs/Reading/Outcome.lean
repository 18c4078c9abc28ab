import Schemata.Proofs.Reading.Frontier
import Schemata.Proofs.Reading.WalkStatement

/-! # How a run ends

A run starts on the first token of its text. However it ends, each cursor that it has on record is reached
from there token by token, and so an expectation is reported at the end of a token, with nothing but layout
from there to the place of the expectation, or at that place itself.
-/

namespace Schemata

open Layout Source

/-- A place where a token ends, with nothing but tokens and layout before it. -/
def Source.TokenEnds (source : Text) (stop : Nat) : Prop :=
  ∃ (lead start : Nat) (tokens : List Token) (token : Token), length? source = some lead ∧ lead ≤ start ∧ start < stop ∧
    stop ≤ source.length ∧ Laid tokens (source.drop lead) (source.drop start) ∧
    token.Spells (slice source start stop) (source.drop stop)

/-- Layout that ends within the bounds of a text also starts there. -/
theorem Source.LayoutBetween.within {source : Text} {start stop : Nat}
    (between : LayoutBetween source start stop) (within : Within source stop) : Within source start := by
  rcases Nat.lt_or_ge start stop with moved | still
  · have := between.inside moved
    exact .inl (by omega)
  · rwa [Nat.le_antisymm between.forward still]

/-- A cursor that a run reaches: the start of the text, or a cursor on a route from its first token. -/
inductive Cursor.Reached (source : Text) : Cursor → Prop
  | atStart : Reached source ⟨0, 0⟩
  | onRoute {lead : Nat} {c : Cursor} : length? source = some lead → Route source ⟨lead, lead⟩ c →
      Reached source c

namespace Cursor.Reached

variable {source : Text} {c : Cursor}

theorem sound (reached : c.Reached source) : c.Sound source := by
  cases reached with
  | atStart => exact sound_of_le (Nat.zero_le _)
  | onRoute measured route => exact route.sound (sound_of_le (length?_le measured))

/-- A cursor that has layout behind it has a token before that. -/
theorem tokenEnds (reached : c.Reached source) (moved : c.tokenEnd < c.offset) :
    TokenEnds source c.tokenEnd := by
  cases reached with
  | atStart => exact absurd moved (Nat.lt_irrefl _)
  | @onRoute lead c measured route =>
    rcases route.cases_tail with same | ⟨d, earlier, step⟩
    · subst same
      exact absurd moved (Nat.lt_irrefl _)
    · obtain ⟨tokens, covers⟩ := Route.covers earlier
      have inside := step.layout.inside moved
      have started := step.chunk.forward
      obtain ⟨token, spelt⟩ := step.chunk.spelt (by omega)
      exact ⟨lead, d.offset, tokens, token, measured, covers.forward, started, by omega,
        covers.laid (by omega), spelt⟩

end Cursor.Reached

/-- An expectation that a run puts on record: at a cursor that it reaches, or farther on within the text. -/
structure Expectation.Recorded (source : Text) (e : Expectation) : Prop where
  reached : e.cursor.Reached source
  place : e.offset = e.cursor.offset ∨ e.cursor.offset < e.offset ∧ e.offset ≤ source.length

namespace Expectation.Recorded

variable {source : Text} {e : Expectation}

theorem offset_nonneg (recorded : e.Recorded source) : 0 ≤ e.offset := by
  rcases recorded.place with here | ⟨beyond, _⟩ <;> omega

/-- Nothing but layout stands between the report of an expectation and its place. -/
theorem layoutBetween_report (recorded : e.Recorded source) :
    LayoutBetween source e.report e.offset.toNat := by
  rcases recorded.place with here | ⟨beyond, _⟩
  · rw [report, if_pos here, here, Int.toNat_natCast]
    exact recorded.reached.sound.layout
  · rw [report, if_neg (by omega)]
    exact layoutBetween_self source _

/-- An expectation is reported at its own place or right after the last token before it. -/
theorem report_eq (recorded : e.Recorded source) : e.report = e.offset.toNat ∨
    e.report = e.cursor.tokenEnd ∧ TokenEnds source e.report := by
  rcases recorded.place with here | ⟨beyond, _⟩
  · rw [report, if_pos here, here, Int.toNat_natCast]
    rcases Nat.lt_or_ge e.cursor.tokenEnd e.cursor.offset with moved | still
    · exact .inr ⟨rfl, recorded.reached.tokenEnds moved⟩
    · exact .inl (Nat.le_antisymm recorded.reached.sound.layout.forward still)
  · rw [report, if_neg (by omega)]
    exact .inl rfl

/-- An expectation is reported within the bounds of the text. -/
theorem within_report (recorded : e.Recorded source) : Within source e.report := by
  apply recorded.layoutBetween_report.within
  rcases recorded.place with here | ⟨_, inside⟩
  · rw [here, Int.toNat_natCast]
    exact recorded.reached.sound.within
  · exact .inl (by omega)

end Expectation.Recorded

namespace Reader

variable {α : Type} {p : Reader α} {source : Text} {t : State}

/-- What holds where a run ends. -/
structure Ended (source : Text) (result : Except Failure α) (t : State) : Prop where
  cursor : t.cursor.Reached source
  recorded : ∀ e ∈ t.expectations, e.Recorded source
  expects : ∀ failure, result = .error failure → (∃ fault, failure = .fault fault) ∨ t.expectations ≠ []
  faults : ∀ fault, result = .error (.fault fault) → fault.CausedBy source

/-- The whole run of a reader that walks from token to token. -/
theorem Walks.ended {result : Except Failure α} (walks : Walks p)
    (run : fromStart p source State.start = (result, t)) : Ended source result t := by
  cases measured : length? source with
  | none =>
    rw [fromStart_of_open measured] at run
    cases run
    refine ⟨.atStart, fun e member => ?_, fun failure _ => .inr (List.cons_ne_nil _ _), fun fault same => ?_⟩
    · obtain rfl := List.mem_singleton.1 member
      have place : source.length = 0 ∨ 0 < source.length := by omega
      exact ⟨.atStart, by simpa [State.start] using place⟩
    · cases same
  | some lead =>
    rw [fromStart_of_gap measured] at run
    obtain ⟨route, ⟨new, added, met⟩, expects, faults⟩ := walks source (begun lead)
    rw [run] at route added
    have all : t.expectations = new := added.trans (List.append_nil new)
    refine ⟨.onRoute measured route, fun e member => ?_, fun failure same => ?_, fun fault same => ?_⟩
    · have each := met e (all ▸ member)
      exact ⟨.onRoute measured each.route, each.place⟩
    · exact expects failure t (by rw [run, same])
    · exact faults fault t (by rw [run, same])

/-- A failure is found and reported where one of the expectations on record is. -/
theorem Ended.exists_frontier {result : Except Failure α} (ended : Ended source result t)
    (filled : t.expectations ≠ []) :
    ∃ e ∈ t.expectations, ((frontierOffsets t).1 : Int) = e.offset ∧ (frontierOffsets t).2 = e.report :=
  exists_frontierOffset filled fun e member => (ended.recorded e member).offset_nonneg

/-- A run that is not stopped by a fault has expected something. -/
theorem Ended.filled {failure : Failure} (ended : Ended source (.error failure : Except Failure α) t)
    (proper : ∀ fault, failure ≠ .fault fault) : t.expectations ≠ [] := by
  rcases ended.expects failure rfl with ⟨fault, same⟩ | filled
  · exact absurd same (proper fault)
  · exact filled

theorem Ended.furthest_nonneg {result : Except Failure α} (ended : Ended source result t)
    (filled : t.expectations ≠ []) : 0 ≤ t.frontier.furthest := by
  obtain ⟨e, member⟩ := List.exists_mem_of_ne_nil _ filled
  exact Int.le_trans (ended.recorded e member).offset_nonneg (Frontier.le_furthest member)

/-- A run that fails for nesting expects one thing more where it stops. -/
theorem Ended.shallower {result : Except Failure α} (ended : Ended source result t) :
    Ended source result (expectShallower source t).2 := by
  refine ⟨ended.cursor, fun e member => ?_, fun failure _ => .inr (List.cons_ne_nil _ _), ended.faults⟩
  rcases List.mem_cons.1 member with rfl | member
  · exact ⟨ended.cursor, .inl rfl⟩
  · exact ended.recorded e member

end Reader

end Schemata
