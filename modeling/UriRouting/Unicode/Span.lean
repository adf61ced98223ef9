/-!
# UriRouting.Unicode.Span

Tables of characters. A `Span` is a run of code points at a fixed distance from
each other, and a `Table` is a list of spans:

* a step of 1 gives a plain range;
* a step of 2 gives every other code point, the layout of the scripts that write
  each capital directly before its small letter.
-/

namespace UriRouting.Unicode

/-- The code points `first`, `first + step`, `first + 2 * step`, … up to `last`. -/
structure Span where
  /-- The least code point. -/
  first : Nat
  /-- The greatest code point. -/
  last : Nat
  /-- The distance between neighbours. -/
  step : Nat
  deriving DecidableEq, Repr

/-- Whether a code point lies in the span. -/
def Span.contains (s : Span) (n : Nat) : Bool :=
  s.first ≤ n && n ≤ s.last && (n - s.first) % s.step == 0

/-- A set of code points as the spans that make it up. -/
abbrev Table := List Span

/-- Whether a character is in the table. -/
def Table.contains (t : Table) (c : Char) : Bool :=
  t.any (·.contains c.toNat)

end UriRouting.Unicode
