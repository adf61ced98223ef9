import UriRouting.Text
import UriRouting.Unicode.CaseMapping

/-!
# UriRouting.Uri.Comparison

Comparing paths with or without regard to case. Without, two texts are equal if they have
the same length and their characters have the same lower-case forms, one by one, so that
no character counts for several. Texts of ASCII are compared by the letters of ASCII.
-/

namespace UriRouting.Uri

/-- Whether two characters have the same lower-case form. -/
def sameLowercase (c d : Char) : Bool :=
  c == d || Unicode.toLowercase c == Unicode.toLowercase d

/-- Whether two texts agree character by character up to case. -/
def eqCharwise : Text → Text → Bool
  | [], [] => true
  | c :: s, d :: t => sameLowercase c d && eqCharwise s t
  | _, _ => false

/-- Whether a text starts, character by character and up to case, with another. -/
def startsCharwise : Text → Text → Bool
  | _, [] => true
  | c :: s, d :: t => sameLowercase c d && startsCharwise s t
  | [], _ :: _ => false

/-- Whether two texts are equal, up to case unless `caseSensitive`. -/
def eqFolded (s t : Text) (caseSensitive : Bool) : Bool :=
  if caseSensitive then s == t
  else if s.isAscii && t.isAscii then s.eqIgnoreCase t
  else eqCharwise s t

/-- Whether a text starts with another, up to case unless `caseSensitive`. -/
def startsWithFolded (s start : Text) (caseSensitive : Bool) : Bool :=
  if caseSensitive then start.isPrefixOf s
  else if s.isAscii && start.isAscii then
    start.length ≤ s.length && Text.eqIgnoreCase (s.take start.length) start
  else startsCharwise s start

end UriRouting.Uri
