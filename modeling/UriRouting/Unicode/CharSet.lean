import UriRouting.Unicode.Interval

/-!
# UriRouting.Unicode.CharSet

Sets of characters as expressions: tables and lists of characters, joined by the
operations of sets. `CharSet.contains` is their meaning. An expression keeps what
was written, so a set costs nothing to build however many characters it has;
`CharSet.intervals` has the intervals that it comes to.
-/

namespace UriRouting.Unicode

/-- An expression for a set of characters. -/
inductive CharSet where
  /-- The characters of a table. -/
  | table (spans : Table)
  /-- The characters of a list. -/
  | oneOf (chars : List Char)
  /-- What is in one set or the other. -/
  | union (a b : CharSet)
  /-- What is in both sets. -/
  | inter (a b : CharSet)
  /-- What is in the first set and not in the second. -/
  | diff (a b : CharSet)
  /-- What is in exactly one of the sets. -/
  | symmDiff (a b : CharSet)
  /-- What is not in the set. -/
  | compl (a : CharSet)
  /-- What folds like a member of the set. -/
  | folded (a : CharSet)
  /-- What is a member of the set, or the same ASCII letter in the other case. -/
  | asciiFolded (a : CharSet)
  deriving DecidableEq

namespace CharSet

/-- Whether a character is in the set. -/
def contains : CharSet → Char → Bool
  | table t, c => t.contains c
  | oneOf cs, c => cs.elem c
  | union a b, c => a.contains c || b.contains c
  | inter a b, c => a.contains c && b.contains c
  | diff a b, c => a.contains c && !b.contains c
  | symmDiff a b, c => a.contains c != b.contains c
  | compl a, c => !a.contains c
  | folded a, c => (orbit c).any a.contains
  | asciiFolded a, c => a.contains c || a.contains c.toLower || a.contains c.toUpper

/-- The set without members. -/
def empty : CharSet := oneOf []

/-- The set of all characters. -/
def all : CharSet := compl empty

/-- The characters from `first` to `last`. -/
def range (first last : Char) : CharSet := table [⟨first.toNat, last.toNat, 1⟩]

/-- What is in one of the sets. -/
def unions (sets : List CharSet) : CharSet :=
  sets.foldr union empty

/-- The set `folded a`, with the members written out where they are listed one by one. -/
def foldCase : CharSet → CharSet
  | oneOf cs => oneOf (cs.flatMap orbit)
  | union a b => union a.foldCase b.foldCase
  | a => folded a

@[simp] theorem contains_empty (c : Char) : empty.contains c = false := rfl

@[simp] theorem contains_all (c : Char) : all.contains c = true := rfl

theorem contains_unions (sets : List CharSet) (c : Char) :
    (unions sets).contains c = sets.any (·.contains c) := by
  induction sets with
  | nil => rfl
  | cons s sets ih =>
    have : unions (s :: sets) = union s (unions sets) := rfl
    rw [this, contains, ih, List.any_cons]

/-- What two sets of intervals share: what lies in the gaps of neither. -/
def interIntervals (ivs ivs' : List Interval) : List Interval :=
  Interval.gaps 0 (Interval.union (Interval.gaps 0 ivs) (Interval.gaps 0 ivs'))

/-- What lies in some intervals and not in others. -/
def diffIntervals (ivs ivs' : List Interval) : List Interval :=
  Interval.gaps 0 (Interval.union (Interval.gaps 0 ivs) ivs')

/-- The intervals that make up the set, as few as there are. -/
def intervals : CharSet → List Interval
  | table t => Interval.union (t.flatMap Span.intervals) []
  | oneOf cs => Interval.union (cs.map fun c => .single c.toNat) []
  | union a b => Interval.union a.intervals b.intervals
  | inter a b => interIntervals a.intervals b.intervals
  | diff a b => diffIntervals a.intervals b.intervals
  | symmDiff a b =>
    Interval.union (diffIntervals a.intervals b.intervals) (diffIntervals b.intervals a.intervals)
  | compl a => Interval.gaps 0 a.intervals
  | folded a => Interval.fold foldRuns a.intervals
  | asciiFolded a => Interval.fold [asciiRun] a.intervals

end CharSet

end UriRouting.Unicode
