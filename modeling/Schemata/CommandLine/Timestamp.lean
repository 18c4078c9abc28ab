import Schemata.Text.Basic

/-! # Timestamps

A time of day on a calendar date, written with a `T` between date and time. A fraction of a second is
written to the microsecond, and left out if it is zero.
-/

namespace Schemata.CommandLine

structure Timestamp where
  year : Nat
  month : Nat
  day : Nat
  hour : Nat
  minute : Nat
  second : Nat
  microsecond : Nat
deriving DecidableEq, Repr

namespace Timestamp

/-- Digits of a number, padded with zeros to a width. -/
def padded (width n : Nat) : Text :=
  let digits := Text.ofNat n
  List.replicate (width - digits.length) (CodePoint.ofChar '0') ++ digits

def toText (t : Timestamp) : Text :=
  padded 4 t.year ++ text "-" ++ padded 2 t.month ++ text "-" ++ padded 2 t.day ++ text "T"
    ++ padded 2 t.hour ++ text ":" ++ padded 2 t.minute ++ text ":" ++ padded 2 t.second
    ++ if t.microsecond = 0 then [] else text "." ++ padded 6 t.microsecond

end Timestamp

end Schemata.CommandLine
