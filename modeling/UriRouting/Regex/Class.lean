import UriRouting.Regex.Primitive

/-!
# UriRouting.Regex.Class

Classes of characters in square brackets: characters, ranges, classes by letter, name or
property, and classes again, with the operations of sets between them.

`readClass` reads one class. It keeps a stack of what is open (`ClassFrame`): the classes
around the current one, and for each the operation whose right side is being read.
-/

namespace UriRouting.Regex

open Unicode (CharSet)

/-- The operations between the parts of a class. -/
inductive SetOperation where
  /-- What is in both. -/
  | inter
  /-- What is in the left part only. -/
  | diff
  /-- What is in exactly one of the parts. -/
  | symmDiff
  deriving DecidableEq, Repr

/-- A part of a class: its set, and how deeply its own parts are nested. -/
structure ClassPart where
  /-- The characters it stands for. -/
  set : CharSet
  /-- The depth of nesting. -/
  depth : Nat

/-- What is open while a class is read. -/
inductive ClassFrame where
  /-- A class is open; `outer` are the parts read before it in the class around it, the
  last one first. -/
  | opened (outer : List ClassPart) (negated : Bool)
  /-- An operation waits for its right side. -/
  | pending (operation : SetOperation) (left : ClassPart)

/-! ### Parts -/

/-- The operation on two sets under the settings for case. -/
def SetOperation.apply (fs : Flags) (operation : SetOperation) (left right : ClassPart) :
    ClassPart :=
  let fold (s : CharSet) : CharSet :=
    if !fs.ignoreCase then s else if fs.unicode then s.foldCase else .asciiFolded s
  let l := fold left.set
  let r := fold right.set
  let set := match operation with
    | .inter => .inter l r
    | .diff => .diff l r
    | .symmDiff => .symmDiff l r
  ⟨set, max left.depth right.depth + 1⟩

/-- Parts side by side, given with the last one first. -/
def unionOfParts : List ClassPart → ClassPart
  | [] => ⟨.empty, 0⟩
  | [part] => part
  | parts => ⟨.unions (parts.reverse.map (·.set)), (parts.map (·.depth)).foldr max 0 + 1⟩

/-- A set under the settings for case, or what is not in it. A set of ASCII is not
negated, since the rest of ASCII alone is not what is meant. -/
def signedSet (fs : Flags) (set : CharSet) (negated : Bool) : Except ReadError CharSet :=
  if fs.unicode then .ok (caseAndSign fs set negated)
  else if negated then .error .beyondAscii
  else .ok (if fs.ignoreCase then .asciiFolded set else set)

/-- A character in a class. -/
def classLiteral (fs : Flags) (c : Char) : Except ReadError Char :=
  if fs.unicode || c.toNat < 0x80 then .ok c else .error .beyondAscii

/-- A smallest part as a part of a class. -/
def classItem (fs : Flags) : Primitive → Except ReadError ClassPart
  | .literal c _ => (classLiteral fs c).map fun c => ⟨.oneOf [c], 0⟩
  | .letterClass kind negated => (letterClassSet fs kind negated).map (⟨·, 0⟩)
  | .property set negated => (propertySet fs set negated).map (⟨·, 0⟩)
  | .assertion _ | .dot => .error .classItem

/-- A range in a class. -/
def classRange (fs : Flags) : Primitive → Primitive → Except ReadError ClassPart
  | .literal first _, .literal last _ =>
    if last < first then .error .classRange
    else do
      let first ← classLiteral fs first
      let last ← classLiteral fs last
      return ⟨.range first last, 0⟩
  | _, _ => .error .classRange

/-- The classes of ASCII with names. -/
def namedClass? (name : Text) : Option CharSet :=
  let digit := CharSet.range '0' '9'
  let upper := CharSet.range 'A' 'Z'
  let lower := CharSet.range 'a' 'z'
  match String.ofList name with
  | "alnum" => some (.unions [digit, upper, lower])
  | "alpha" => some (.unions [upper, lower])
  | "ascii" => some (.table [⟨0x00, 0x7F, 1⟩])
  | "blank" => some (.oneOf ['\t', ' '])
  | "cntrl" => some (.table [⟨0x00, 0x1F, 1⟩, ⟨0x7F, 0x7F, 1⟩])
  | "digit" => some digit
  | "graph" => some (.range '!' '~')
  | "lower" => some lower
  | "print" => some (.range ' ' '~')
  | "punct" => some (.table [⟨0x21, 0x2F, 1⟩, ⟨0x3A, 0x40, 1⟩, ⟨0x5B, 0x60, 1⟩, ⟨0x7B, 0x7E, 1⟩])
  | "space" => some (.oneOf ['\t', '\n', '\x0b', '\x0c', '\r', ' '])
  | "upper" => some upper
  | "word" => some (.unions [digit, upper, .oneOf ['_'], lower])
  | "xdigit" => some (.unions [digit, .range 'A' 'F', .range 'a' 'f'])
  | _ => none

/-- Reads a class of ASCII by its name, after the opening bracket. -/
def readNamedClass? : Text → Option (CharSet × Bool × Text)
  | ':' :: t =>
    let (negated, t) := match t with
      | '^' :: t => (true, t)
      | _ => (false, t)
    match t.span (· != ':') with
    | (name, ':' :: ']' :: rest) => (namedClass? name).map (·, negated, rest)
    | _ => none
  | _ => none

/-! ### Reading -/

/-- Reads the start of a class, after the opening bracket: whether it is negated, and the
hyphens or the closing bracket that stand for themselves there, as the parts so far. -/
def openClass (verbose : Bool) (t : Text) : Except ReadError (Bool × List ClassPart × Text) :=
  let (negated, t) := match skip verbose t with
    | '^' :: t => (true, skip verbose t)
    | t => (false, t)
  let (hyphens, t) := spanLoose verbose (· == '-') false t
  let parts : List ClassPart := hyphens.map fun c => ⟨.oneOf [c], 0⟩
  match hyphens, t with
  | _, [] => .error .unclosedClass
  | [], ']' :: t =>
    match skip verbose t with
    | [] => .error .unclosedClass
    | t => .ok (negated, [⟨.oneOf [']'], 0⟩], t)
  | _, t => .ok (negated, parts, t)

/-- What follows a hyphen, blanks aside. A comment is entered, not left, by this look
ahead, and where only blanks follow, the first of them counts. -/
def lookAhead (verbose : Bool) (t : Text) : Option Char :=
  if !verbose then t.head?
  else
    let found := match t.dropWhile Unicode.isWhiteSpace with
      | '#' :: t' => (t'.dropWhile Unicode.isWhiteSpace).head?
      | t' => t'.head?
    found <|> t.head?

/-- Reads a character or an escape in a class. -/
def readClassPrimitive (fs : Flags) : Text → Except ReadError (Primitive × Text)
  | [] => .error .unclosedClass
  | '\\' :: t => readEscape fs t
  | c :: t => .ok (.literal c false, t)

/-- Reads a range, or a single part if none follows: a hyphen before the closing bracket
stands for itself, and two hyphens are an operation. -/
def readClassRange (fs : Flags) (t : Text) : Except ReadError (ClassPart × Text) := do
  let (first, rest) ← readClassPrimitive fs t
  match skip fs.verbose rest with
  | [] => throw .unclosedClass
  | '-' :: rest' =>
    let next := lookAhead fs.verbose rest'
    if next == some ']' || next == some '-' then
      return (← classItem fs first, '-' :: rest')
    else
      let (last, rest'') ← readClassPrimitive fs (skip fs.verbose rest')
      return (← classRange fs first last, rest'')
  | rest' => return (← classItem fs first, rest')

/-- The part on top of the stack: the current one, with the operation that waits for it. -/
def closePending (fs : Flags) (part : ClassPart) : List ClassFrame → ClassPart × List ClassFrame
  | .pending operation left :: stack => (operation.apply fs left part, stack)
  | stack => (part, stack)

/-- Reads a class up to its end. `stack` is what is open and `parts` what the innermost
class has so far, the last part first; each round takes at least a character. -/
def readClassFrom (fs : Flags) : Nat → List ClassFrame → List ClassPart → Text →
    Except ReadError (ClassPart × Text)
  | 0, _, _, _ => .error .unclosedClass
  | fuel + 1, stack, parts, t =>
    let operate (operation : SetOperation) (rest : Text) :=
      let (part, stack) := closePending fs (unionOfParts parts) stack
      readClassFrom fs fuel (.pending operation part :: stack) [] rest
    match skip fs.verbose t with
    | [] => .error .unclosedClass
    | '[' :: rest =>
      match readNamedClass? rest with
      | some (set, negated, rest) => do
        let set ← signedSet fs set negated
        readClassFrom fs fuel stack (⟨set, 0⟩ :: parts) rest
      | none => do
        let (negated, inner, rest) ← openClass fs.verbose rest
        readClassFrom fs fuel (.opened parts negated :: stack) inner rest
    | ']' :: rest =>
      match closePending fs (unionOfParts parts) stack with
      | (part, .opened outer negated :: stack) => do
        let closed : ClassPart := ⟨← signedSet fs part.set negated, part.depth + 1⟩
        if stack.isEmpty then return (closed, rest)
        else readClassFrom fs fuel stack (closed :: outer) rest
      | _ => .error .unclosedClass
    | '&' :: '&' :: rest => operate .inter rest
    | '-' :: '-' :: rest => operate .diff rest
    | '~' :: '~' :: rest => operate .symmDiff rest
    | t => do
      let (part, rest) ← readClassRange fs t
      readClassFrom fs fuel stack (part :: parts) rest

/-- Reads a class, after the opening bracket. -/
def readClass (fs : Flags) (t : Text) : Except ReadError (ClassPart × Text) := do
  let (negated, parts, rest) ← openClass fs.verbose t
  readClassFrom fs (t.length + 1) [.opened [] negated] parts rest

end UriRouting.Regex
