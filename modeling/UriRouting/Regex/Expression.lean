import UriRouting.Text
import UriRouting.Unicode.Property

/-!
# UriRouting.Regex.Expression

Regular expressions as data. An expression is built from runs of characters, each
taken from a set, and from assertions about the place between two characters, by
sequence, alternative, repetition and naming.

* A repetition says which it prefers, one more round or an end, and an alternative
  prefers its first branch. `UriRouting.Regex.Matching` gives these their meaning.
* `Regex.concat` and `Regex.repeated` build sequences and repetitions in a normal form.
-/

namespace UriRouting

open Unicode (CharSet)

/-- How a place stands to the words around it. -/
inductive WordEdge where
  /-- Exactly one side is in a word. -/
  | boundary
  /-- Both sides are in a word, or neither is. -/
  | inside
  /-- A word starts here. -/
  | starts
  /-- A word ends here. -/
  | ends
  /-- No word reaches here from the left. -/
  | mayStart
  /-- No word goes on to the right. -/
  | mayEnd
  deriving DecidableEq, Repr

/-- A condition on the place between two characters. -/
inductive Assertion where
  /-- The start of the text. -/
  | textStart
  /-- The end of the text. -/
  | textEnd
  /-- The start of a line. With `crlf`, a carriage return ends a line too, and one
  before a line feed belongs to it. -/
  | lineStart (crlf : Bool)
  /-- The end of a line. -/
  | lineEnd (crlf : Bool)
  /-- A place at the edge of a word; `ascii` words are made of ASCII only. -/
  | word (edge : WordEdge) (ascii : Bool)
  deriving DecidableEq, Repr

/-- A regular expression. -/
inductive Regex where
  /-- Characters in a row, each from its set. The empty row matches the empty text. -/
  | chars (sets : List CharSet)
  /-- The empty text where a condition holds. -/
  | assert (condition : Assertion)
  /-- One expression after the other. -/
  | seq (first second : Regex)
  /-- Either expression, the first if both match. -/
  | alt (first second : Regex)
  /-- The expression at least `least` and at most `most` times; as often as possible if
  `greedy`, else as rarely. -/
  | rep (body : Regex) (least : Nat) (most : Option Nat) (greedy : Bool)
  /-- The expression, with the text it matches remembered under a name. -/
  | group (name : Text) (body : Regex)
  deriving DecidableEq

/-- The characters that ASCII words are made of. -/
def isAsciiWordCharacter (c : Char) : Bool :=
  c.isAlphanum || c == '_'

namespace WordEdge

/-- Whether a place with words on the given sides is such an edge. -/
def holds : WordEdge → (left right : Bool) → Bool
  | boundary, l, r => l != r
  | inside, l, r => l == r
  | starts, l, r => !l && r
  | ends, l, r => l && !r
  | mayStart, l, _ => !l
  | mayEnd, _, r => !r

end WordEdge

namespace Assertion

/-- Whether the condition holds between two characters; `none` is an end of the text. -/
def holds : Assertion → (before after : Option Char) → Bool
  | textStart, before, _ => before.isNone
  | textEnd, _, after => after.isNone
  | lineStart false, before, _ => before.all (· == '\n')
  | lineStart true, before, after =>
    before.all fun b => b == '\n' || (b == '\r' && after != some '\n')
  | lineEnd false, _, after => after.all (· == '\n')
  | lineEnd true, before, after =>
    after.all fun a => a == '\r' || (a == '\n' && before != some '\r')
  | word edge ascii, before, after =>
    let inWord := if ascii then isAsciiWordCharacter else Unicode.wordCharacters.contains
    edge.holds (before.any inWord) (after.any inWord)

end Assertion

namespace Regex

/-- The expression that matches the empty text only. -/
def empty : Regex := chars []

/-- One character of a set. -/
def char (set : CharSet) : Regex := chars [set]

/-- Two expressions in a row, with rows of characters joined. -/
def append : Regex → Regex → Regex
  | chars [], r => r
  | chars s, chars t => chars (s ++ t)
  | chars s, seq (chars t) r => seq (chars (s ++ t)) r
  | r, chars [] => r
  | r, r' => seq r r'

/-- Expressions in a row. -/
def concat (rs : List Regex) : Regex :=
  rs.foldr append empty

/-- The alternative of a branch and further ones. -/
def alternatives : Regex → List Regex → Regex
  | r, [] => r
  | r, r' :: rs => alt r (alternatives r' rs)

/-- Whether the expression may match a text that is not empty. -/
def consumes : Regex → Bool
  | chars sets => !sets.isEmpty
  | assert _ => false
  | seq r r' | alt r r' => r.consumes || r'.consumes
  | rep r _ most _ => r.consumes && most != some 0
  | group _ r => r.consumes

/-- A repetition. One that asks for no round at all matches the empty text only, and
no round after the first adds anything to a body that matches the empty text only. -/
def repeated (body : Regex) (least : Nat) (most : Option Nat) (greedy : Bool) : Regex :=
  if most = some 0 then empty
  else if body.consumes then rep body least most greedy
  else rep body (min least 1) (some 1) greedy

/-- The names of the groups of the expression, from left to right. -/
def groupNames : Regex → List Text
  | chars _ | assert _ => []
  | seq r r' | alt r r' => r.groupNames ++ r'.groupNames
  | rep r _ _ _ => r.groupNames
  | group name r => name :: r.groupNames

end Regex

end UriRouting
