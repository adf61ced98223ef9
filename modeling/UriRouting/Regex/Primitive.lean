import UriRouting.Regex.Reading

/-!
# UriRouting.Regex.Primitive

The smallest parts of an expression: characters, escapes, the dot and the anchors, and
the sets and conditions that they stand for under given settings.
-/

namespace UriRouting.Regex

open Unicode (CharSet)

/-- The classes with a letter of their own. -/
inductive LetterClass where
  /-- Decimal digits, the letter d. -/
  | digit
  /-- White space, the letter s. -/
  | space
  /-- Word characters, the letter w. -/
  | word
  deriving DecidableEq, Repr

/-- A smallest part of an expression. -/
inductive Primitive where
  /-- A character. With `byte`, it is written as a byte with two digits. -/
  | literal (c : Char) (byte : Bool)
  /-- The dot. -/
  | dot
  /-- A condition. -/
  | assertion (condition : Assertion)
  /-- A class with a letter of its own, or what is not in it. -/
  | letterClass (kind : LetterClass) (negated : Bool)
  /-- A class given by a property, or what does not have it. -/
  | property (set : CharSet) (negated : Bool)

/-! ### What they stand for -/

/-- A set under the settings for case, and what is not in it if `negated`. -/
def caseAndSign (fs : Flags) (set : CharSet) (negated : Bool) : CharSet :=
  let set := if fs.ignoreCase then set.foldCase else set
  if negated then .compl set else set

/-- The characters that a literal character stands for. -/
def literalSet (fs : Flags) (c : Char) : CharSet :=
  if !fs.ignoreCase then .oneOf [c]
  else if fs.unicode then .oneOf (Unicode.orbit c)
  else if c.isAlpha then .oneOf [c.toLower, c.toUpper]
  else .oneOf [c]

/-- The characters of a class with a letter of its own. Classes of ASCII are not negated,
since what is not in them is no set of characters of ASCII. -/
def letterClassSet (fs : Flags) (kind : LetterClass) (negated : Bool) :
    Except ReadError CharSet :=
  if fs.unicode then
    let set := match kind with
      | .digit => Unicode.digits
      | .space => Unicode.spaces
      | .word => Unicode.wordCharacters
    .ok (if negated then .compl set else set)
  else if negated then .error .beyondAscii
  else .ok (match kind with
    | .digit => .range '0' '9'
    | .space => .oneOf ['\t', '\n', '\x0b', '\x0c', '\r', ' ']
    | .word => .unions [.range '0' '9', .range 'A' 'Z', .range 'a' 'z', .oneOf ['_']])

/-- The characters of a class given by a property. -/
def propertySet (fs : Flags) (set : CharSet) (negated : Bool) : Except ReadError CharSet :=
  if fs.unicode then .ok (caseAndSign fs set negated) else .error .beyondAscii

/-- The characters that the dot stands for. -/
def dotSet (fs : Flags) : Except ReadError CharSet :=
  if !fs.unicode then .error .beyondAscii
  else if fs.dotNewline then .ok .all
  else if fs.crlf then .ok (.compl (.oneOf ['\r', '\n']))
  else .ok (.compl (.oneOf ['\n']))

/-- The condition of the anchor at the left. -/
def leftAnchor (fs : Flags) : Assertion :=
  if fs.multiLine then .lineStart fs.crlf else .textStart

/-- The condition of the anchor at the right. -/
def rightAnchor (fs : Flags) : Assertion :=
  if fs.multiLine then .lineEnd fs.crlf else .textEnd

/-- The expression for a smallest part. -/
def Primitive.regex (fs : Flags) : Primitive → Except ReadError Regex
  | literal c byte =>
    if byte && !fs.unicode && 0x80 ≤ c.toNat then .error .beyondAscii
    else .ok (char (literalSet fs c))
  | dot => (dotSet fs).map char
  | assertion condition => .ok (assert condition)
  | letterClass kind negated => (letterClassSet fs kind negated).map char
  | property set negated => (propertySet fs set negated).map char

/-! ### Escapes -/

/-- Whether a character has a meaning of its own in expressions. -/
def isMeta (c : Char) : Bool :=
  ['\\', '.', '+', '*', '?', '(', ')', '|', '[', ']', '{', '}', '^', '$', '#', '&', '-', '~'].elem c

/-- A text with a backslash before each character that has a meaning of its own. -/
def escape (t : Text) : Text :=
  t.flatMap fun c => if isMeta c then ['\\', c] else [c]

/-- Whether a backslash before a character makes it stand for itself: so for all of ASCII
but letters, digits and angle brackets. -/
def isEscapable (c : Char) : Bool :=
  isMeta c || (c.toNat < 0x80 && !c.isAlphanum && c != '<' && c != '>')

/-- The character that a letter after a backslash stands for. -/
def controlChar? : Char → Option Char
  | 'a' => some '\x07'
  | 'f' => some '\x0c'
  | 't' => some '\t'
  | 'n' => some '\n'
  | 'r' => some '\r'
  | 'v' => some '\x0b'
  | _ => none

/-- The edge of words with a name. -/
def wordEdge? (name : Text) : Option WordEdge :=
  match String.ofList name with
  | "start" => some .starts
  | "end" => some .ends
  | "start-half" => some .mayStart
  | "end-half" => some .mayEnd
  | _ => none

/-- Reads a code point, `digits` of them unless they stand in braces. -/
def readCodePoint (verbose : Bool) (digits : Nat) (t : Text) :
    Except ReadError (Primitive × Text) :=
  match skip verbose t with
  | '{' :: t =>
    match spanLoose verbose (· != '\x7d') false t with
    | (hex, _ :: rest) =>
      match charOfHex? hex with
      | some c => .ok (.literal c false, skip verbose rest)
      | none => .error .codePoint
    | (_, []) => .error .codePoint
  | t =>
    match takeLoose verbose digits t with
    | some (hex, rest) =>
      match charOfHex? hex with
      | some c => .ok (.literal c (digits == 2), rest)
      | none => .error .codePoint
    | none => .error .codePoint

/-- Reads the name of a property, one letter unless it stands in braces. -/
def readProperty (fs : Flags) (negated : Bool) (t : Text) : Except ReadError (Primitive × Text) :=
  let found (name rest : Text) : Except ReadError (Primitive × Text) :=
    match fs.properties.set? name with
    | some set => .ok (.property set negated, rest)
    | none => .error .unknownProperty
  match skip fs.verbose t with
  | [] => .error .escape
  | '{' :: t =>
    match spanLoose fs.verbose (· != '\x7d') false t with
    | (name, _ :: rest) => found name rest
    | (_, []) => .error .escape
  | c :: t => found [c] (skip fs.verbose t)

/-- Reads what follows the escape for an edge of words. A brace after it starts the name
of an edge if a letter or a hyphen follows, else the bounds of a repetition. -/
def readWordEdge (fs : Flags) (t : Text) : Except ReadError (Primitive × Text) :=
  let plain := Primitive.assertion (.word .boundary (!fs.unicode))
  let inName (c : Char) : Bool := c.isAlpha || c == '-'
  match t with
  | '{' :: t' =>
    match skip fs.verbose t' with
    | [] => .error .wordEdge
    | c :: t'' =>
      if inName c then
        match spanLoose fs.verbose inName false (c :: t'') with
        | (name, '}' :: rest) =>
          match wordEdge? name with
          | some edge => .ok (.assertion (.word edge (!fs.unicode)), rest)
          | none => .error .wordEdge
        | _ => .error .wordEdge
      else .ok (plain, t)
  | _ => .ok (plain, t)

/-- Reads what follows a backslash. -/
def readEscape (fs : Flags) : Text → Except ReadError (Primitive × Text)
  | [] => .error .escape
  | 'x' :: t => readCodePoint fs.verbose 2 t
  | 'u' :: t => readCodePoint fs.verbose 4 t
  | 'U' :: t => readCodePoint fs.verbose 8 t
  | 'p' :: t => readProperty fs false t
  | 'P' :: t => readProperty fs true t
  | 'd' :: t => .ok (.letterClass .digit false, t)
  | 's' :: t => .ok (.letterClass .space false, t)
  | 'w' :: t => .ok (.letterClass .word false, t)
  | 'D' :: t => .ok (.letterClass .digit true, t)
  | 'S' :: t => .ok (.letterClass .space true, t)
  | 'W' :: t => .ok (.letterClass .word true, t)
  | 'A' :: t => .ok (.assertion .textStart, t)
  | 'z' :: t => .ok (.assertion .textEnd, t)
  | 'b' :: t => readWordEdge fs t
  | 'B' :: t => .ok (.assertion (.word .inside (!fs.unicode)), t)
  | '<' :: t => .ok (.assertion (.word .starts (!fs.unicode)), t)
  | '>' :: t => .ok (.assertion (.word .ends (!fs.unicode)), t)
  | c :: t =>
    if isEscapable c then .ok (.literal c false, t)
    else match controlChar? c with
      | some control => .ok (.literal control false, t)
      | none => .error .escape

/-- Reads a part that starts with `c`. -/
def readPrimitive (fs : Flags) (c : Char) (t : Text) : Except ReadError (Primitive × Text) :=
  match c with
  | '\\' => readEscape fs t
  | '.' => .ok (.dot, t)
  | '^' => .ok (.assertion (leftAnchor fs), t)
  | '$' => .ok (.assertion (rightAnchor fs), t)
  | _ => .ok (.literal c false, t)

end UriRouting.Regex
