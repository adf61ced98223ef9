import UriRouting.Unicode.WhiteSpace

/-!
# UriRouting.Text

Text as the list of its characters, and the few operations on it that the library
needs beyond those of lists:

* `Text.utf8Size`, the length that offsets and limits are counted in;
* `Text.strip` and `Text.trim`, which remove characters from both ends;
* `Text.upper`, `Text.lower` and `Text.eqIgnoreCase`, which know the letters of ASCII
  only. Core's `Char.toUpper` and `Char.toLower` change no other character.
-/

namespace UriRouting

/-- A text is the list of its characters. -/
abbrev Text := List Char

namespace Text

/-- The number of bytes of the text in UTF-8. -/
def utf8Size (t : Text) : Nat :=
  t.foldr (fun c size => c.utf8Size + size) 0

@[simp] theorem utf8Size_nil : utf8Size [] = 0 := rfl

@[simp] theorem utf8Size_cons (c : Char) (t : Text) :
    utf8Size (c :: t) = c.utf8Size + utf8Size t := rfl

@[simp] theorem utf8Size_append (s t : Text) :
    utf8Size (s ++ t) = utf8Size s + utf8Size t := by
  induction s with
  | nil => simp
  | cons c s ih => rw [List.cons_append, utf8Size_cons, ih, utf8Size_cons, Nat.add_assoc]

/-- Whether every character is in ASCII. -/
def isAscii (t : Text) : Bool :=
  t.all (·.toNat < 0x80)

/-- The text without the characters at its end that satisfy `p`. -/
def stripRight (p : Char → Bool) (t : Text) : Text :=
  (t.reverse.dropWhile p).reverse

/-- The text without the characters at its ends that satisfy `p`. -/
def strip (p : Char → Bool) (t : Text) : Text :=
  stripRight p (t.dropWhile p)

/-- The text without white space at its ends. -/
def trim (t : Text) : Text :=
  strip Unicode.isWhiteSpace t

/-- The text with the small letters of ASCII as capitals. -/
def upper (t : Text) : Text :=
  t.map Char.toUpper

/-- The text with the capitals of ASCII as small letters. -/
def lower (t : Text) : Text :=
  t.map Char.toLower

/-- Equality up to the case of the letters of ASCII. -/
def eqIgnoreCase (s t : Text) : Bool :=
  s.lower == t.lower

/-- The part of the text between two positions, the first included. -/
def slice (t : Text) (start stop : Nat) : Text :=
  (t.drop start).take (stop - start)

/-- The pieces of the text between the occurrences of a character. -/
def splitOn (sep : Char) (t : Text) : List Text :=
  t.foldr (fun c pieces =>
    if c = sep then [] :: pieces
    else match pieces with
      | piece :: rest => (c :: piece) :: rest
      | [] => [[c]]) [[]]

/-- The parts of the text before and after the last occurrence of a character. -/
def splitLast (sep : Char) (t : Text) : Option (Text × Text) :=
  match t.reverse.span (· != sep) with
  | (_, []) => none
  | (after, _ :: before) => some (before.reverse, after.reverse)

end Text

end UriRouting
