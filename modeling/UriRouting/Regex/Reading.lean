import UriRouting.Regex.Expression

/-!
# UriRouting.Regex.Reading

The parts that reading a written expression starts from:

* `Flags`, the settings an expression is read under, and the letters that change them;
* `ReadError`, why a text is no expression;
* blanks: with the flag for verbose mode, white space and comments (from a number sign
  to the end of the line) may stand between the parts of an expression, and inside some.
-/

namespace UriRouting.Regex

open Unicode (CharSet)

/-! ### Settings -/

/-- The sets of characters that have names. -/
structure Properties where
  /-- The set with a name, as it is written. -/
  set? : Text → Option CharSet
  /-- The dollar sign is no name. -/
  set?_dollar : set? ['$'] = none

/-- The properties of `UriRouting.Unicode`. -/
def Properties.standard : Properties where
  set? := Unicode.property?
  set?_dollar := by decide +kernel

/-- The settings an expression is read under. -/
structure Flags where
  /-- A character stands for all that differ from it in case only. -/
  ignoreCase : Bool := false
  /-- The anchors hold at the ends of lines too. -/
  multiLine : Bool := false
  /-- The dot stands for line feeds too. -/
  dotNewline : Bool := false
  /-- Repetitions prefer an end unless marked. -/
  swapGreed : Bool := false
  /-- Classes and words are those of all characters, not of ASCII. -/
  unicode : Bool := true
  /-- Carriage returns end lines too. -/
  crlf : Bool := false
  /-- Blanks are skipped. -/
  verbose : Bool := false
  /-- The sets of characters that have names. -/
  properties : Properties := .standard

/-- A setting by its letter. -/
inductive Flag where
  /-- The letter i. -/
  | ignoreCase
  /-- The letter m. -/
  | multiLine
  /-- The letter s. -/
  | dotNewline
  /-- The letter U. -/
  | swapGreed
  /-- The letter u. -/
  | unicode
  /-- The letter R. -/
  | crlf
  /-- The letter x. -/
  | verbose
  deriving DecidableEq, Repr

/-- The setting that a letter changes. -/
def Flag.ofChar? : Char → Option Flag
  | 'i' => some ignoreCase
  | 'm' => some multiLine
  | 's' => some dotNewline
  | 'U' => some swapGreed
  | 'u' => some unicode
  | 'R' => some crlf
  | 'x' => some verbose
  | _ => none

/-- The settings with one of them changed. -/
def Flags.set (fs : Flags) (flag : Flag) (on : Bool) : Flags :=
  match flag with
  | .ignoreCase => { fs with ignoreCase := on }
  | .multiLine => { fs with multiLine := on }
  | .dotNewline => { fs with dotNewline := on }
  | .swapGreed => { fs with swapGreed := on }
  | .unicode => { fs with unicode := on }
  | .crlf => { fs with crlf := on }
  | .verbose => { fs with verbose := on }

/-! ### Errors -/

/-- Why a text is no regular expression. -/
inductive ReadError where
  /-- A group is not closed. -/
  | unclosedGroup
  /-- A group is closed that was not opened. -/
  | unopenedGroup
  /-- A condition on what comes before or after, which is not offered. -/
  | lookAround
  /-- A group's name is empty, not closed, or has a character no name has. -/
  | groupName
  /-- Two groups share a name. -/
  | duplicateGroupName
  /-- The settings in a group are unknown, repeated, or not closed. -/
  | flags
  /-- A repetition with nothing before it. -/
  | nothingToRepeat
  /-- The bounds of a repetition are missing or not closed. -/
  | repetitionBounds
  /-- The least number of rounds is above the greatest. -/
  | repetitionRange
  /-- An escape that stands for nothing. -/
  | escape
  /-- A code point that is not written in full, or that is no character. -/
  | codePoint
  /-- An edge of words that is unknown or not closed. -/
  | wordEdge
  /-- A class is not closed. -/
  | unclosedClass
  /-- A range in a class whose ends are out of order or no characters. -/
  | classRange
  /-- Something in a class that stands for no character. -/
  | classItem
  /-- A character property that is not known. -/
  | unknownProperty
  /-- Something that would stand for part of a character, while classes are those of
  ASCII. -/
  | beyondAscii
  /-- The parts are nested too deeply. -/
  | nestedTooDeeply
  /-- The expression is too large once its repetitions are written out. -/
  | tooLarge
  deriving DecidableEq, Repr

/-! ### Blanks -/

/-- A text from its first character that is neither white space nor in a comment. -/
def skipBlanks (inComment : Bool) : Text → Text
  | [] => []
  | c :: t =>
    if inComment then skipBlanks (c != '\n') t
    else if c == '#' then skipBlanks true t
    else if Unicode.isWhiteSpace c then skipBlanks false t
    else c :: t

/-- The text without the blanks it starts with, if blanks are skipped. -/
def skip (verbose : Bool) (t : Text) : Text :=
  if verbose then skipBlanks false t else t

@[simp] theorem skip_false (t : Text) : skip false t = t := rfl

/-- The characters up to the first that does not satisfy `p`, and the rest. If blanks are
skipped, those between and after the characters are left out. -/
def spanLoose (verbose : Bool) (p : Char → Bool) (inComment : Bool) : Text → Text × Text
  | [] => ([], [])
  | c :: t =>
    if verbose && inComment then spanLoose verbose p (c != '\n') t
    else if verbose && c == '#' then spanLoose verbose p true t
    else if verbose && Unicode.isWhiteSpace c then spanLoose verbose p false t
    else if p c then
      let r := spanLoose verbose p false t
      (c :: r.1, r.2)
    else ([], c :: t)

/-- The first `n` characters and the rest, with blanks left out after each of them. -/
def takeLoose (verbose : Bool) : Nat → Text → Option (Text × Text)
  | 0, t => some ([], t)
  | _ + 1, [] => none
  | n + 1, c :: t => (takeLoose verbose n (skip verbose t)).map fun r => (c :: r.1, r.2)

/-! ### Numbers -/

/-- The value of a hexadecimal digit. -/
def hexDigit? (c : Char) : Option Nat :=
  if c.isDigit then some (c.toNat - '0'.toNat)
  else if 'a' ≤ c && c ≤ 'f' then some (c.toNat - 'a'.toNat + 10)
  else if 'A' ≤ c && c ≤ 'F' then some (c.toNat - 'A'.toNat + 10)
  else none

/-- The number that digits stand for in a base. -/
def number? (base : Nat) (digit? : Char → Option Nat) (t : Text) : Option Nat :=
  t.foldlM (fun n c => (digit? c).map (base * n + ·)) 0

/-- The character whose code point is written in hexadecimal. -/
def charOfHex? (digits : Text) : Option Char :=
  if digits.isEmpty then none
  else (number? 16 hexDigit? digits).bind fun n =>
    if n.isValidChar then some (Char.ofNat n) else none

/-- The number written in decimal, and the rest. White space around it is left out. -/
def readDecimal (verbose : Bool) (t : Text) : Text × Text :=
  let r := spanLoose verbose Char.isDigit false (t.dropWhile Unicode.isWhiteSpace)
  (r.1, r.2.dropWhile Unicode.isWhiteSpace)

/-- The value of a bound, which has at least one digit and fits in 32 bits. -/
def bound? (digits : Text) : Option Nat :=
  if digits.isEmpty then none
  else (number? 10 (fun c => some (c.toNat - '0'.toNat)) digits).filter (· < 0x100000000)

end UriRouting.Regex
