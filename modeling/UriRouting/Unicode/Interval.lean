import UriRouting.Unicode.CaseMapping

/-!
# UriRouting.Unicode.Interval

Sets of code points as intervals, in ascending order and with gaps between them.

* `Interval.insert` joins an interval with those that it touches, `Interval.gaps` has the code
  points that are in none;
* `Interval.fold` adds the code points that some runs of a case mapping do not tell apart from
  those that are there.
-/

namespace UriRouting.Unicode

/-- The greatest code point. -/
def maxCodePoint : Nat := 0x10FFFF

/-- The code points from `first` to `last`. -/
structure Interval where
  /-- The least code point. -/
  first : Nat
  /-- The greatest code point. -/
  last : Nat
  deriving DecidableEq, Repr

namespace Interval

/-- Whether a code point lies in the interval. -/
def contains (iv : Interval) (n : Nat) : Bool :=
  iv.first ≤ n && n ≤ iv.last

/-- Whether a code point lies in one of some intervals. -/
def anyContains (ivs : List Interval) (n : Nat) : Bool :=
  ivs.any (·.contains n)

/-- The interval of a single code point. -/
def single (n : Nat) : Interval := ⟨n, n⟩

/-- Some intervals with one more, which is joined with those that it touches. -/
def insert (iv : Interval) : List Interval → List Interval
  | [] => [iv]
  | iv' :: ivs =>
    if iv.last + 1 < iv'.first then iv :: iv' :: ivs
    else if iv'.last + 1 < iv.first then iv' :: insert iv ivs
    else insert ⟨min iv.first iv'.first, max iv.last iv'.last⟩ ivs

/-- Some intervals with others put among them. -/
def union (ivs ivs' : List Interval) : List Interval :=
  ivs.foldr insert ivs'

/-- The code points from `start` on that lie in none of some intervals. -/
def gaps (start : Nat) : List Interval → List Interval
  | [] => if start ≤ maxCodePoint then [⟨start, maxCodePoint⟩] else []
  | iv :: ivs =>
    if start < iv.first then ⟨start, iv.first - 1⟩ :: gaps (iv.last + 1) ivs
    else gaps (iv.last + 1) ivs

end Interval

/-- The intervals that a span consists of. -/
def Span.intervals (s : Span) : List Interval :=
  if s.last < s.first then []
  else if s.step = 1 then [⟨s.first, s.last⟩]
  else (List.range ((s.last - s.first) / s.step + 1)).map fun i => .single (s.first + s.step * i)

namespace CaseRun

/-- The code points of an interval that the run maps. -/
def members (r : CaseRun) (iv : Interval) : Span :=
  ⟨r.first + (iv.first - r.first + (r.step - 1)) / r.step * r.step, min iv.last r.last, r.step⟩

/-- What the run maps the code points of an interval to. -/
def images (r : CaseRun) (iv : Interval) : List Interval :=
  let s := r.members iv
  if s.last < s.first then [] else Span.intervals ⟨r.image s.first, r.image s.last, r.step⟩

/-- What the run maps to code points of an interval. -/
def sources (r : CaseRun) (iv : Interval) : List Interval :=
  if iv.last < r.target then []
  else (r.members ⟨r.first + (iv.first - r.target), r.first + (iv.last - r.target)⟩).intervals

end CaseRun

/-- Some intervals with what the runs of a case mapping do not tell apart from their code points:
what these are mapped to, and all that is mapped to the same. -/
def Interval.fold (runs : List CaseRun) (ivs : List Interval) : List Interval :=
  let targets := union (ivs.flatMap fun iv => runs.flatMap (·.images iv)) ivs
  union (targets.flatMap fun iv => runs.flatMap (·.sources iv)) targets

end UriRouting.Unicode
