import UriRouting.Template.Piece
import UriRouting.Regex.Primitive

/-!
# UriRouting.Template.Token

A template as literal texts and variables (`Token`). A separator directly before a slot
belongs to the variable, so that both can be left out together.

* `Token.ofPieces` and `tokenize` make tokens, `Token.render` writes them back.
* `regexSource` writes the regular expression that a template stands for. The variables at
  its end that may be left out are nested (`optionalSource`), so that a later one never
  appears without those before it.
-/

namespace UriRouting.Template

/-- The characters that can separate a variable from what is before it. -/
def separators : List Char :=
  ['/', ',', ';', '.', ':', '-', '_', '~', '+', '*', '=', '@', '|']

/-- Whether a character is a separator. -/
def isSeparator (c : Char) : Bool :=
  separators.elem c

/-- The texts that a variable takes. -/
inductive ValueClass where
  /-- Every text, the empty one too. -/
  | anything
  /-- Texts that are not empty and have no slash, and not the excluded character. -/
  | segment (excluded : Option Char)
  deriving DecidableEq, Repr

/-- The class as a regular expression. -/
def ValueClass.source : ValueClass → Text
  | anything => ['.', '*']
  | segment none => ['[', '^', '/', ']', '+']
  | segment (some c) => ['[', '^', '/'] ++ Regex.escape [c] ++ [']', '+']

/-- A variable of a template. -/
structure Variable where
  /-- The separator before it. -/
  separator : Option Char
  /-- The texts it takes. -/
  value : ValueClass
  /-- Its name. -/
  name : Text
  /-- Whether it may be left out. -/
  optional : Bool
  deriving DecidableEq, Repr

namespace Variable

/-- Whether the variable takes every text. -/
def isAnything (v : Variable) : Bool :=
  v.value == .anything

/-- The variable as it stands in a template. -/
def render (v : Variable) : Text :=
  v.separator.toList ++ Slot.write ⟨v.name, v.optional⟩

end Variable

/-- A part of a template. -/
inductive Token where
  /-- A text that stands for itself. -/
  | literal (text : Text)
  /-- A variable. -/
  | var (v : Variable)
  deriving DecidableEq, Repr

namespace Token

/-- The variable of a token. -/
def var? : Token → Option Variable
  | literal _ => none
  | var v => some v

/-- Whether the token is a variable that may be left out. -/
def isOptional : Token → Bool
  | literal _ => false
  | var v => v.optional

/-- The token as it stands in a template. -/
def write : Token → Text
  | literal text => text
  | var v => v.render

/-- The text that some tokens stand for. -/
def render (ts : List Token) : Text :=
  ts.flatMap write

end Token

/-! ### Tokens of a template -/

/-- The text read backwards as a literal token, unless it is empty. -/
def literalToken (reversed : Text) : List Token :=
  if reversed.isEmpty then [] else [.literal reversed.reverse]

/-- The class of a variable followed by some pieces: it stops at the separator that comes
next, other slots aside, so that the separator is not taken for part of the value. -/
def valueClass (following : List Piece) : ValueClass :=
  .segment (((following.filterMap Piece.char?).head?).filter fun c => isSeparator c && c != '/')

/-- The tokens of some pieces. `anything` are the names of the variables that take every
text and `reversed` is the literal text directly before, read backwards. -/
def Token.ofPieces (anything : List Text) (reversed : Text) : List Piece → List Token
  | [] => literalToken reversed
  | .char c :: ps => ofPieces anything (c :: reversed) ps
  | .slot s :: ps =>
    let (separator, text) := match reversed with
      | c :: rest => if isSeparator c then (some c, rest) else (none, reversed)
      | [] => (none, [])
    let value := if anything.elem s.name then .anything else valueClass ps
    literalToken text ++ .var ⟨separator, value, s.name, s.optional⟩ ::
      ofPieces anything [] ps

/-- The tokens of a template. -/
def tokenize (ps : List Piece) (anything : List Text) : List Token :=
  Token.ofPieces anything [] ps

/-! ### The regular expression of a template -/

/-- The named group for a variable's value. -/
def Variable.groupSource (v : Variable) : Text :=
  ['(', '?', 'P', '<'] ++ v.name ++ ['>'] ++ v.value.source ++ [')']

/-- The separator of a variable as a regular expression. -/
def Variable.separatorSource (v : Variable) : Text :=
  Regex.escape v.separator.toList

/-- A token that has to be there, as a regular expression. -/
def Token.source : Token → Text
  | .literal text => Regex.escape text
  | .var v => v.separatorSource ++ v.groupSource

/-- Tokens of which any number at the end may be left out, as a regular expression. -/
def optionalSource : List Token → Text
  | [] => []
  | t :: ts => ['(', '?', ':'] ++ t.source ++ optionalSource ts ++ [')', '?']

/-- The number of tokens before the variables at the end that may be left out. -/
def firstOptional (ts : List Token) : Nat :=
  ts.length - (ts.reverse.takeWhile Token.isOptional).length

/-- The regular expression of a template. Where even the first token may be left out, its
separator has to be there nevertheless, and the tokens after it can be there without it. -/
def regexSource (ts : List Token) : Text :=
  let first := firstOptional ts
  let body :=
    match first, ts with
    | 0, .var v :: rest =>
      v.separatorSource ++ v.groupSource ++ ['?'] ++ optionalSource rest
    | _, _ => (ts.take first).flatMap Token.source ++ optionalSource (ts.drop first)
  ['^'] ++ body ++ ['$']

end UriRouting.Template
