import UriRouting.Text
import UriRouting.Unicode.CaseMapping

/-!
# UriRouting.ValueRule.Mailbox

Mail addresses: a local part, an at sign, and a domain.

* The local part is one or more runs of permitted characters with single dots between.
* The domain is two or more labels with dots between; the last starts with a letter.
  Letters of a domain are compared without regard to case, by simple case folding.
* Each part has a greatest length in bytes.
-/

namespace UriRouting.ValueRule

/-- The greatest length of an address. -/
def maxAddressSize : Nat := 254

/-- The greatest length of a local part. -/
def maxLocalSize : Nat := 64

/-- The greatest length of a label of a domain. -/
def maxLabelSize : Nat := 63

/-- Whether a character can stand in a local part, dots aside. -/
def isLocalCharacter (c : Char) : Bool :=
  c.isAlphanum || ['!', '#', '$', '%', '&', '\x27', '*', '+', '/', '=', '?', '^', '_', '\x60', '{', '|',
    '}', '~', '-'].elem c

/-- Whether a text is a local part. -/
def isLocalPart (t : Text) : Bool :=
  (t.splitOn '.').all fun run => !run.isEmpty && run.all isLocalCharacter

/-- Whether a character is a letter of a domain: one that folds to a letter of ASCII. -/
def isDomainLetter (c : Char) : Bool :=
  (Unicode.foldSimple c).isAlpha

/-- Whether a text is a label of a domain: letters, digits and hyphens, with no hyphen at
either end. -/
def isLabel (t : Text) : Bool :=
  !t.isEmpty && t.all (fun c => isDomainLetter c || c.isDigit || c == '-') &&
    t.head? != some '-' && t.getLast? != some '-'

/-- Whether a text is a domain. -/
def isDomain (t : Text) : Bool :=
  let labels := t.splitOn '.'
  2 ≤ labels.length && labels.all isLabel &&
    (labels.getLast?.bind List.head?).any isDomainLetter

/-- Whether a text is a mail address. The last at sign ends the local part. -/
def isMailbox (t : Text) : Bool :=
  t.utf8Size ≤ maxAddressSize &&
    match t.splitLast '@' with
    | none => false
    | some (localPart, domain) =>
      localPart.utf8Size ≤ maxLocalSize &&
        (domain.splitOn '.').all (fun label => label.utf8Size ≤ maxLabelSize) &&
        isLocalPart localPart && isDomain domain

end UriRouting.ValueRule
