import UriRouting.Regex.Expression
import UriRouting.Unicode.Utf8

/-!
# UriRouting.Regex.Size

How large an expression is as an automaton over the bytes of UTF-8. Repetitions are written out,
and there is one automaton for each direction of reading.

The states for a character of a set are those of the tree of its encodings (`branches`): the ranges
of bytes that the intervals of the set come to, put together where they begin alike. Read forward,
places of the tree with the same rest share a state.

A builder that looks for a state to share only among the last ones it has made comes to a little
more. Nothing is shared between the parts of an expression, and a part that is repeated counts once
for each time. The alternatives of an expression are counted one by one, unless all of them are
single characters: they are one set then.
-/

namespace UriRouting.Regex

open Unicode (CharSet)

/-- The direction in which an automaton reads. -/
inductive Direction where
  /-- From left to right. -/
  | forward
  /-- From right to left. -/
  | backward
  deriving DecidableEq, Repr

/-! ### Sizes of states, in bytes -/

/-- The size of a state. -/
def stateSize : Nat := 32

/-- The size of a transition of a state that has several, each on a range of bytes. -/
def transitionSize : Nat := 8

/-- The size of a way on from a state that reads nothing. -/
def choiceSize : Nat := 4

/-! ### Sets -/

/-- The first ranges of some sequences of ranges, each with what follows it in them. Neighbours
with the same first range are put together. -/
def branches :
    List (List Unicode.Interval) → List (Unicode.Interval × List (List Unicode.Interval))
  | [] => []
  | [] :: seqs => branches seqs
  | (range :: rest) :: seqs =>
    match branches seqs with
    | [] => [(range, [rest])]
    | (range', rests) :: others =>
      if range = range' then (range, rest :: rests) :: others
      else (range, [rest]) :: (range', rests) :: others

/-- The places of the tree of some sequences, down to a depth, each given by what follows it. A
place with nothing behind it is the end and is left out. -/
def places : Nat → List (List Unicode.Interval) → List (List (List Unicode.Interval))
  | 0, _ => []
  | depth + 1, seqs =>
    if seqs = [[]] then [] else seqs :: (branches seqs).flatMap fun branch => places depth branch.2

/-- The size of the states for one character of a set. A single character takes a state for each
byte. Else there is a state at the end and, read forward or in ASCII, one for each place, with
transitions; read backward, one state for each branch and one that chooses a sequence. -/
def setSize (direction : Direction) (set : CharSet) : Nat :=
  let seqs := set.intervals.flatMap Unicode.Interval.utf8
  let tree := places 4 seqs
  let isSingle := seqs.length = 1 ∧ seqs.flatten.all fun range => range.first = range.last
  if isSingle then seqs.flatten.length * stateSize
  else if direction = .forward ∨ tree.length ≤ 1 then
    stateSize + tree.eraseDups.foldr
      (fun place size => stateSize + (branches place).length * transitionSize + size) 0
  else
    2 * stateSize + seqs.length * choiceSize +
      tree.foldr (fun place size => (branches place).length * stateSize + size) 0

/-! ### Expressions -/

/-- The set of an expression for a single character. -/
def set? : Regex → Option CharSet
  | chars [set] => some set
  | alt r r' => r.set?.bind fun set => r'.set?.map (set.union ·)
  | _ => none

/-- The size of an expression as an automaton. -/
def footprint (direction : Direction) : Regex → Nat
  | chars [] | assert _ => stateSize
  | chars sets => sets.foldr (fun set size => setSize direction set + size) 0
  | seq r r' => r.footprint direction + r'.footprint direction
  | alt r r' =>
    match (alt r r').set? with
    | some set => setSize direction set
    | none =>
      2 * stateSize + (choiceSize + r.footprint direction) + (choiceSize + r'.footprint direction)
  | rep r least most _ =>
    let size := r.footprint direction
    let choice := stateSize + 2 * choiceSize
    match most with
    | none => max least 1 * size + choice
    | some most =>
      if least = most then least * size
      else least * size + (most - least) * (choice + size) + stateSize
  | group _ r =>
    match direction with
    | .forward => 2 * stateSize + r.footprint direction
    | .backward => r.footprint direction

/-- How large an expression may be. -/
def sizeLimit : Nat := 10 * 1024 * 1024

/-- Whether an expression stays within the limit of size in both directions. -/
def fits (r : Regex) : Bool :=
  r.footprint .forward ≤ sizeLimit && r.footprint .backward ≤ sizeLimit

end UriRouting.Regex
