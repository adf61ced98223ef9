import UriRouting.Regex.Expression

/-!
# UriRouting.Template.Piece

URI templates are texts with slots for variables: `{name}` for one that has to be there,
`{name?}` for one that may be left out. Braces around anything else are plain text.

* `Piece.scan` cuts a template into characters and slots, `Piece.write` puts it together.
* `Marker.find` gives the slots with their places in the template.
* `Template.scan` refuses names that no variable can have, and names used twice.
-/

namespace UriRouting.Template

/-- Why a template is refused. -/
inductive TemplateError where
  /-- A variable's name is a number. -/
  | numericName (template name : Text)
  /-- A variable's name starts with a digit. -/
  | invalidName (template name : Text)
  /-- A variable's name is used twice. -/
  | duplicateName (template name : Text)
  /-- The template makes no usable regular expression. -/
  | uncompilable (template : Text)
  deriving DecidableEq, Repr

/-- The error as a sentence. -/
def TemplateError.message : TemplateError → String
  | numericName template name =>
    let template := String.ofList template
    let name := String.ofList name
    s!"variable name '{name}' cannot be numeric in route pattern '{template}'"
  | invalidName template name =>
    let template := String.ofList template
    let name := String.ofList name
    s!"variable name '{name}' in route pattern '{template}' " ++
      "must start with an alphabetic character or underscore"
  | duplicateName template name =>
    let template := String.ofList template
    let name := String.ofList name
    s!"route pattern '{template}' cannot reference variable name '{name}' more than once"
  | uncompilable template =>
    let template := String.ofList template
    s!"route pattern '{template}' failed to compile"

/-! ### Slots -/

/-- A slot for a variable. -/
structure Slot where
  /-- The name of the variable. -/
  name : Text
  /-- Whether the variable may be left out. -/
  optional : Bool
  deriving DecidableEq, Repr

namespace Slot

/-- The slot as it stands in a template. -/
def write (s : Slot) : Text :=
  '{' :: s.name ++ (if s.optional then ['?', '}'] else ['}'])

/-- Reads a slot, after its opening brace. A name is a row of letters, digits and
underscores of ASCII. -/
def read? (t : Text) : Option (Slot × Text) :=
  match t.span isAsciiWordCharacter with
  | ([], _) => none
  | (name, '}' :: rest) => some (⟨name, false⟩, rest)
  | (name, '?' :: '}' :: rest) => some (⟨name, true⟩, rest)
  | _ => none

end Slot

/-! ### Pieces -/

/-- A part of a template. -/
inductive Piece where
  /-- A character that stands for itself. -/
  | char (c : Char)
  /-- A slot. -/
  | slot (s : Slot)
  deriving DecidableEq, Repr

namespace Piece

/-- The piece as it stands in a template. -/
def write : Piece → Text
  | char c => [c]
  | slot s => s.write

/-- The pieces of a text, from left to right. A slot takes the place of the characters
that it is written with, none of which could start another slot. -/
def scan : Text → List Piece
  | [] => []
  | c :: t =>
    match if c == '{' then Slot.read? t else none with
    | some (s, _) => slot s :: (scan t).drop (s.write.length - 1)
    | none => char c :: scan t

/-- The character of a piece that stands for itself. -/
def char? : Piece → Option Char
  | char c => some c
  | slot _ => none

/-- The slot of a piece. -/
def slot? : Piece → Option Slot
  | char _ => none
  | slot s => some s

end Piece

/-! ### Markers -/

/-- A slot and its place in a template. -/
structure Marker where
  /-- The slot. -/
  slot : Slot
  /-- The number of bytes before it. -/
  offset : Nat
  deriving DecidableEq, Repr

namespace Marker

/-- The number of bytes that the slot takes. -/
def size (m : Marker) : Nat :=
  m.slot.write.utf8Size

/-- The number of bytes up to the end of the slot. -/
def stop (m : Marker) : Nat :=
  m.offset + m.size

/-- The slots among some pieces, the first of which starts at `offset`. -/
def locate (offset : Nat) : List Piece → List Marker
  | [] => []
  | .char c :: ps => locate (offset + c.utf8Size) ps
  | .slot s :: ps => ⟨s, offset⟩ :: locate (offset + s.write.utf8Size) ps

/-- The slots of a text with their places. -/
def find (t : Text) : List Marker :=
  locate 0 (Piece.scan t)

end Marker

/-! ### Names -/

/-- Checks the names of slots from left to right; `taken` are those before. -/
def checkNames (template : Text) (taken : List Text) : List Text → Except TemplateError Unit
  | [] => .ok ()
  | name :: names =>
    if name.all Char.isDigit then .error (.numericName template name)
    else if name.head?.any Char.isDigit then .error (.invalidName template name)
    else if taken.elem name then .error (.duplicateName template name)
    else checkNames template (name :: taken) names

/-- The names of the slots among some pieces. -/
def slotNames (ps : List Piece) : List Text :=
  (ps.filterMap Piece.slot?).map (·.name)

/-- The pieces of a template whose names are those of variables, each used once. -/
def scan (template : Text) : Except TemplateError (List Piece) := do
  let ps := Piece.scan template
  checkNames template [] (slotNames ps)
  return ps

/-- The slots of a template with their places. -/
def scanMarkers (template : Text) : Except TemplateError (List Marker) :=
  (scan template).map (Marker.locate 0)

end UriRouting.Template
