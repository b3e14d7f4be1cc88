import LoginLoad.Text.Decimal

/-! # Spans of time

A span of time counted in milliseconds, and its text.  A span of a second or more is written in
seconds with up to three decimal places and no zero at their end, a shorter one in milliseconds,
and the empty span as `0ns`. -/

namespace LoginLoad

/-- A span of time. -/
structure Span where
  milliseconds : Nat
deriving DecidableEq, Repr

namespace Span

/-- A span of whole seconds. -/
def ofSeconds (s : Nat) : Span := ⟨1000 * s⟩

/-- The decimal places of a number of thousandths, without zeros at the end. -/
def places (thousandths : Nat) : List Char :=
  let digits := [thousandths / 100 % 10, thousandths / 10 % 10, thousandths % 10]
  ((digits.reverse.dropWhile (· = 0)).reverse).map Nat.digitChar

/-- The text of a span. -/
def text (s : Span) : String :=
  if s.milliseconds = 0 then "0ns"
  else if s.milliseconds < 1000 then toString s.milliseconds ++ "ms"
  else
    let fraction := places (s.milliseconds % 1000)
    let point := if fraction.isEmpty then [] else ['.']
    toString (s.milliseconds / 1000) ++ String.ofList (point ++ fraction) ++ "s"

end Span
end LoginLoad
