import UriRouting.Regex.Expression

/-!
# UriRouting.Regex.Matching

What a regular expression matches, and which of several ways it takes.

An expression is run against all places of a text at once. Its argument is a *row*,
one entry per place, which says what matching the rest of the expression from that
place gives; its result is the row for the expression followed by that rest. Each
entry holds the way that is preferred, or nothing if there is none. So:

* a sequence is the composition of its parts (`run_seq`);
* an alternative takes, place by place, the first branch that leads to a match;
* a repetition is a row defined from the right end of the text, as every round that is
  taken has to move on.

No place is visited twice by the same part of an expression, whence the time is bounded
by the product of the two sizes for expressions without nested loops.
-/

namespace UriRouting.Regex

open Unicode (CharSet)

/-- A place in a text: its distance from the start, and the characters around it. -/
structure Site where
  /-- The number of characters before the place. -/
  offset : Nat
  /-- The character before the place. -/
  before : Option Char
  /-- The character after the place. -/
  after : Option Char
  deriving DecidableEq, Repr

/-- The places of a text that follows `before`, counted from `offset`. -/
def sitesFrom (offset : Nat) (before : Option Char) : Text → List Site
  | [] => [⟨offset, before, none⟩]
  | c :: t => ⟨offset, before, some c⟩ :: sitesFrom (offset + 1) (some c) t

/-- The places of a text, one more than it has characters. -/
def sites (t : Text) : List Site :=
  sitesFrom 0 none t

theorem length_sitesFrom (offset : Nat) (before : Option Char) (t : Text) :
    (sitesFrom offset before t).length = t.length + 1 := by
  induction t generalizing offset before with
  | nil => rfl
  | cons c t ih => simp [sitesFrom, ih]

@[simp] theorem length_sites (t : Text) : (sites t).length = t.length + 1 :=
  length_sitesFrom 0 none t

/-! ### Captures -/

/-- What a group matched: the place where it ended and, once known, where it started. -/
structure Capture where
  /-- The name of the group. -/
  name : Text
  /-- The place where the match of the group starts. -/
  start : Option Nat
  /-- The place where the match of the group ends. -/
  stop : Nat
  deriving DecidableEq, Repr

/-- What the groups passed on the way to a match have matched. -/
abbrev Captures := List Capture

namespace Captures

/-- A group ends at a place. What a later round of the same group matched is kept. -/
def stopAt (name : Text) (stop : Nat) (caps : Captures) : Captures :=
  if caps.any (·.name == name) then caps else ⟨name, none, stop⟩ :: caps

/-- A group that ends later starts at a place. -/
def startAt (name : Text) (start : Nat) (caps : Captures) : Captures :=
  caps.map fun c =>
    if c.name == name && c.start.isNone then { c with start := some start } else c

/-- The text that a group matched. -/
def text? (caps : Captures) (name : Text) (subject : Text) : Option Text :=
  (caps.find? (·.name == name)).bind fun c =>
    c.start.map fun start => subject.slice start c.stop

end Captures

/-! ### Running an expression -/

/-- The outcome of matching from each place of a text. -/
abbrev Row := List (Option Captures)

/-- The outcome of passing a row of characters and going on from there. -/
def follow : List CharSet → List Site → Row → Option Captures
  | [], _, ks => ks.head?.join
  | set :: sets, s :: ss, _ :: ks => if s.after.any set.contains then follow sets ss ks else none
  | _ :: _, _, _ => none

/-- `follow` from each place. -/
def followRow (sets : List CharSet) : List Site → Row → Row
  | s :: ss, k :: ks => follow sets (s :: ss) (k :: ks) :: followRow sets ss ks
  | _, _ => []

/-- The preferred one of two outcomes: the first if `greedy`, else the second. -/
def prefer (greedy : Bool) (first second : Option Captures) : Option Captures :=
  if greedy then first <|> second else second <|> first

/-- Any number of rounds of `step` before going on, from each place. A round starts at
the first place of those given and leads to a later one. -/
def loopRow (greedy : Bool) (step : List Site → Row → Option Captures) : List Site → Row → Row
  | s :: ss, k :: ks =>
    let rest := loopRow greedy step ss ks
    prefer greedy (step (s :: ss) (none :: rest)) k :: rest
  | _, _ => []

/-- `n` rounds of `step`. -/
def rounds (step : Row → Row) : Nat → Row → Row
  | 0, ks => ks
  | n + 1, ks => step (rounds step n ks)

/-- The row of an expression followed by what the row `ks` stands for. A loop over a row
of characters needs the outcome of its body at one place only. -/
def run : Regex → List Site → Row → Row
  | chars sets, ss, ks => followRow sets ss ks
  | assert condition, ss, ks =>
    List.zipWith (fun s k => if condition.holds s.before s.after then k else none) ss ks
  | seq r r', ss, ks => r.run ss (r'.run ss ks)
  | alt r r', ss, ks => List.zipWith (prefer true) (r.run ss ks) (r'.run ss ks)
  | rep r least none greedy, ss, ks =>
    let step := match r with
      | chars sets => follow sets
      | _ => fun ss ks => (r.run ss ks).head?.join
    rounds (r.run ss) least (loopRow greedy step ss ks)
  | rep r least (some most) greedy, ss, ks =>
    rounds (r.run ss) least
      (rounds (fun row => List.zipWith (prefer greedy) (r.run ss row) ks) (most - least) ks)
  | group name r, ss, ks =>
    List.zipWith (fun s k => k.map (Captures.startAt name s.offset)) ss
      (r.run ss (List.zipWith (fun s k => k.map (Captures.stopAt name s.offset)) ss ks))

@[simp] theorem run_seq (r r' : Regex) (ss : List Site) (ks : Row) :
    (seq r r').run ss ks = r.run ss (r'.run ss ks) := rfl

/-- The row that asks for nothing after the expression. -/
def accepting (t : Text) : Row :=
  List.replicate (t.length + 1) (some [])

/-- The preferred match that starts first: what its groups matched. -/
def search (r : Regex) (t : Text) : Option Captures :=
  (r.run (sites t) (accepting t)).findSome? id

/-- Whether the expression matches somewhere in the text. -/
def isMatch (r : Regex) (t : Text) : Bool :=
  (r.search t).isSome

end UriRouting.Regex
