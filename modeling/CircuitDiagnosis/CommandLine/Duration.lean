/-!
# Spans of time as text

A span of nanoseconds is shown in the largest unit of which it holds one, with the part below the
unit in decimals without trailing zeros.
-/

namespace CircuitDiagnosis

/-- A span of time in nanoseconds. -/
structure Duration where
  nanoseconds : Nat
  deriving DecidableEq, Repr, Inhabited

namespace Duration

/-- The whole milliseconds of a span. -/
def milliseconds (d : Duration) : Nat := d.nanoseconds / 1000000

/-- The decimals of a part below a unit that has `10 ^ places` parts, without trailing zeros. -/
def decimals (places part : Nat) : List Char :=
  let digits := (Nat.toDigits 10 (Nat.pow 10 places + part)).tail
  (digits.reverse.dropWhile fun c => c == '0').reverse

/-- A number of parts in a unit that has `10 ^ places` of them. -/
def inUnit (nanoseconds places : Nat) (unit : String) : String :=
  let whole := toString (nanoseconds / Nat.pow 10 places)
  match decimals places (nanoseconds % Nat.pow 10 places) with
  | [] => whole ++ unit
  | ds => whole ++ "." ++ .ofList ds ++ unit

/-- The text of a span. -/
def text (d : Duration) : String :=
  if 1000000000 ≤ d.nanoseconds then inUnit d.nanoseconds 9 "s"
  else if 1000000 ≤ d.nanoseconds then inUnit d.nanoseconds 6 "ms"
  else if 1000 ≤ d.nanoseconds then inUnit d.nanoseconds 3 "µs"
  else inUnit d.nanoseconds 0 "ns"

end Duration

end CircuitDiagnosis
