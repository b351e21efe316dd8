/-!
# Spans of time as text

A span counted in milliseconds is written in seconds from one second on, in milliseconds below, and
an empty span as `0ns`. Fractions of a second are written without trailing zeros.
-/

namespace AccessSync.Text

/-- The three decimal digits of a number below 1000, without the zeros at the end. -/
def fractionDigits (millis : Nat) : String :=
  let digits := [millis / 100 % 10, millis / 10 % 10, millis % 10]
  String.ofList ((digits.reverse.dropWhile (· == 0)).reverse.map Nat.digitChar)

/-- The text of a span of so many milliseconds: `0ns`, `250ms`, `1.5s`, `30s`. -/
def spanText (millis : Nat) : String :=
  if millis = 0 then "0ns"
  else if millis < 1000 then s!"{millis}ms"
  else if millis % 1000 = 0 then s!"{millis / 1000}s"
  else s!"{millis / 1000}.{fractionDigits (millis % 1000)}s"

end AccessSync.Text
