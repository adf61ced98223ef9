import UriRouting.Text

/-!
# UriRouting.Json.Reading

Reading JSON, as far as settings are written in it. Each reader takes a text and gives what
it has read and the rest, or nothing if the text does not start with what it expects.

* `readString` reads a string with all its escapes, `skipValue` passes over any value. In
  values that are passed over, escapes need not make up characters.
* `readRecord` reads a structure: an object, whose members can come in any order, or an
  array with the members in their order. Members that are left out keep their defaults.
* `readVariant` reads one of several names.
-/

namespace UriRouting.Json

/-- The text without the white space that it starts with. -/
def skipSpace (t : Text) : Text :=
  t.dropWhile [' ', '\n', '\t', '\r'].elem

/-- The text after a word that it has to start with. -/
def word? : Text → Text → Option Text
  | [], t => some t
  | c :: w, d :: t => if c == d then word? w t else none
  | _ :: _, [] => none

/-! ### Strings -/

/-- The value of a hexadecimal digit. -/
def hexValue? (c : Char) : Option Nat :=
  if c.isDigit then some (c.toNat - '0'.toNat)
  else if 'a' ≤ c && c ≤ 'f' then some (c.toNat - 'a'.toNat + 10)
  else if 'A' ≤ c && c ≤ 'F' then some (c.toNat - 'A'.toNat + 10)
  else none

/-- Reads four hexadecimal digits. -/
def readHex4 : Text → Option (Nat × Text)
  | a :: b :: c :: d :: t => do
    let digits ← [a, b, c, d].mapM hexValue?
    return (digits.foldl (fun n x => 16 * n + x) 0, t)
  | _ => none

/-- Reads the code unit of an escape, or the two of a pair that make up one character. -/
def readUnicodeEscape (t : Text) : Option (Char × Text) := do
  let (n, t) ← readHex4 t
  if n < 0xD800 || 0xDFFF < n then return (Char.ofNat n, t)
  if 0xDBFF < n then none
  let (m, t) ← readHex4 (← word? ['\\', 'u'] t)
  if m < 0xDC00 || 0xDFFF < m then none
  return (Char.ofNat (0x10000 + 0x400 * (n - 0xD800) + (m - 0xDC00)), t)

/-- Reads an escape, after the backslash. If not `strict`, a code unit need not make up a
character. -/
def readEscape (strict : Bool) : Text → Option (Char × Text)
  | '\x22' :: t => some ('\x22', t)
  | '\\' :: t => some ('\\', t)
  | '/' :: t => some ('/', t)
  | 'b' :: t => some ('\x08', t)
  | 'f' :: t => some ('\x0c', t)
  | 'n' :: t => some ('\n', t)
  | 'r' :: t => some ('\r', t)
  | 't' :: t => some ('\t', t)
  | 'u' :: t => if strict then readUnicodeEscape t else (readHex4 t).map fun r => ('u', r.2)
  | _ => none

/-- Reads the characters of a string up to its closing quote. The fuel is the number of
characters that may be read. -/
def readChars (strict : Bool) : Nat → Text → Option (Text × Text)
  | 0, _ | _, [] => none
  | fuel + 1, c :: t =>
    if c == '\x22' then some ([], t)
    else if c.toNat < 0x20 then none
    else do
      let (c, t) ← if c == '\\' then readEscape strict t else some (c, t)
      let (s, t) ← readChars strict fuel t
      return (c :: s, t)

/-- Reads a string. -/
def readString (strict : Bool) (t : Text) : Option (Text × Text) := do
  let t ← word? ['\x22'] (skipSpace t)
  readChars strict (t.length + 1) t

/-! ### Passing over values -/

/-- Passes over the digits of a number, of which there is at least one. -/
def skipDigits (t : Text) : Option Text :=
  match t.span Char.isDigit with
  | ([], _) => none
  | (_, rest) => some rest

/-- Passes over a number. -/
def skipNumber (t : Text) : Option Text := do
  let t := match t with
    | '-' :: t => t
    | t => t
  let t ← match t with
    | '0' :: d :: t => if d.isDigit then none else some (d :: t)
    | t => skipDigits t
  let t ← match t with
    | '.' :: t => skipDigits t
    | t => some t
  match t with
  | 'e' :: t | 'E' :: t =>
    match t with
    | '+' :: t | '-' :: t => skipDigits t
    | t => skipDigits t
  | t => some t

mutual

/-- Passes over a value. The fuel bounds the nesting and the number of its parts. -/
def skipValue : Nat → Text → Option Text
  | 0, _ => none
  | fuel + 1, t =>
    match skipSpace t with
    | '\x22' :: t => (readChars false (t.length + 1) t).map (·.2)
    | '[' :: t =>
      match skipSpace t with
      | ']' :: t => some t
      | t => skipItems fuel t
    | '{' :: t =>
      match skipSpace t with
      | '}' :: t => some t
      | t => skipMembers fuel t
    | t =>
      word? ['n', 'u', 'l', 'l'] t <|> word? ['t', 'r', 'u', 'e'] t <|>
        word? ['f', 'a', 'l', 's', 'e'] t <|> skipNumber t

/-- Passes over the items of an array. -/
def skipItems : Nat → Text → Option Text
  | 0, _ => none
  | fuel + 1, t => do
    match skipSpace (← skipValue fuel t) with
    | ',' :: t => skipItems fuel t
    | ']' :: t => some t
    | _ => none

/-- Passes over the members of an object. -/
def skipMembers : Nat → Text → Option Text
  | 0, _ => none
  | fuel + 1, t => do
    let (_, t) ← readString false t
    match skipSpace (← skipValue fuel (← word? [':'] (skipSpace t))) with
    | ',' :: t => skipMembers fuel t
    | '}' :: t => some t
    | _ => none

end

/-- Passes over a value at the start of a text. -/
def skip (t : Text) : Option Text :=
  skipValue (2 * t.length + 1) t

/-! ### Values -/

/-- Reads a truth value. -/
def readBool (t : Text) : Option (Bool × Text) :=
  let t := skipSpace t
  ((word? ['t', 'r', 'u', 'e'] t).map (true, ·)) <|>
    ((word? ['f', 'a', 'l', 's', 'e'] t).map (false, ·))

/-- Reads a truth value that may be null. -/
def readOptionalBool (t : Text) : Option (Option Bool × Text) :=
  ((word? ['n', 'u', 'l', 'l'] (skipSpace t)).map (none, ·)) <|>
    ((readBool t).map fun r => (some r.1, r.2))

/-- Reads the strings of an array from an item on. -/
def readStringItems : Nat → Text → Option (List Text × Text)
  | 0, _ => none
  | fuel + 1, t => do
    let (s, t) ← readString true t
    match skipSpace t with
    | ',' :: t => (readStringItems fuel t).map fun r => (s :: r.1, r.2)
    | ']' :: t => some ([s], t)
    | _ => none

/-- Reads an array of strings. -/
def readStrings (t : Text) : Option (List Text × Text) := do
  match skipSpace (← word? ['['] (skipSpace t)) with
  | ']' :: t => some ([], t)
  | t => readStringItems (t.length + 1) t

/-! ### Structures -/

/-- A member of a structure `σ`: its name, and how its value is read into the structure. -/
structure Member (σ : Type) where
  /-- The name. -/
  name : Text
  /-- Reads the value. -/
  read : σ → Text → Option (σ × Text)

/-- Reads the members of an object, after its opening brace or a comma. `seen` are the names
of members so far, none of which may come again; other names are passed over. -/
def readMembers {σ : Type} (members : List (Member σ)) :
    Nat → (seen : List Text) → σ → Text → Option (σ × Text)
  | 0, _, _, _ => none
  | fuel + 1, seen, s, t => do
    let (key, t) ← readString true t
    let t ← word? [':'] (skipSpace t)
    let (seen, s, t) ← match members.find? (·.name = key) with
      | none => (skip t).map (seen, s, ·)
      | some m =>
        if seen.elem key then none else (m.read s t).map fun r => (key :: seen, r)
    match skipSpace t with
    | ',' :: t => readMembers members fuel seen s t
    | '}' :: t => some (s, t)
    | _ => none

/-- Reads the items of an array as members in order, after its opening bracket. -/
def readTuple {σ : Type} (first : Bool) : List (Member σ) → σ → Text → Option (σ × Text)
  | members, s, t =>
    match skipSpace t, members with
    | ']' :: t, _ => some (s, t)
    | _, [] => none
    | t, m :: members => do
      let t ← if first then some t else word? [','] t
      if (skipSpace t).head? = some ']' then none
      let (s, t) ← m.read s t
      readTuple false members s t

/-- Reads a structure with the given members and defaults. -/
def readRecord {σ : Type} (members : List (Member σ)) (defaults : σ) (t : Text) :
    Option (σ × Text) :=
  match skipSpace t with
  | '{' :: t =>
    match skipSpace t with
    | '}' :: t => some (defaults, t)
    | t => readMembers members (t.length + 1) [] defaults t
  | '[' :: t => readTuple true members defaults t
  | _ => none

/-- Reads one of several names: a string, or an object with the name and null. -/
def readVariant {α : Type} (variants : List (Text × α)) (t : Text) : Option (α × Text) := do
  let named (name : Text) : Option α := (variants.find? (·.1 = name)).map (·.2)
  match skipSpace t with
  | '{' :: t =>
    let (name, t) ← readString true t
    let v ← named name
    let t ← word? ['n', 'u', 'l', 'l'] (skipSpace (← word? [':'] (skipSpace t)))
    return (v, ← word? ['\x7d'] (skipSpace t))
  | t =>
    let (name, t) ← readString true t
    return (← named name, t)

/-- What a text as a whole is read as. -/
def decode? {α : Type} (read : Text → Option (α × Text)) (t : Text) : Option α :=
  (read t).bind fun r => if (skipSpace r.2).isEmpty then some r.1 else none

end UriRouting.Json
