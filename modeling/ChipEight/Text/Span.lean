/-!
The text of a length of time. A span is a number of nanoseconds and is written in the largest of
`s`, `ms`, `µs` and `ns` that it reaches, as a decimal without trailing zeros.
-/

namespace ChipEight.Text

/-- A remainder below `10 ^ places` as the digits behind the point, trailing zeros dropped. -/
def decimals (places remainder : Nat) : List Char :=
  (((Nat.toDigits 10 remainder).leftpad places '0').reverse.dropWhile (· = '0')).reverse

/-- `nanos` counted in units of `10 ^ places` nanoseconds. -/
def inUnits (places nanos : Nat) (unit : String) : String :=
  let whole := toString (nanos / Nat.pow 10 places)
  let remainder := nanos % Nat.pow 10 places
  if remainder = 0 then whole ++ unit
  else whole ++ "." ++ String.ofList (decimals places remainder) ++ unit

/-- The text of a span of `nanos` nanoseconds. -/
def span (nanos : Nat) : String :=
  if 1000000000 ≤ nanos then inUnits 9 nanos "s"
  else if 1000000 ≤ nanos then inUnits 6 nanos "ms"
  else if 1000 ≤ nanos then inUnits 3 nanos "µs"
  else inUnits 0 nanos "ns"

end ChipEight.Text
