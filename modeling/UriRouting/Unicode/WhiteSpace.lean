import UriRouting.Unicode.Span

/-!
# UriRouting.Unicode.WhiteSpace

The characters with the property White_Space.
-/

namespace UriRouting.Unicode

/-- The characters with the property White_Space, 25 of them. -/
def whiteSpace : Table :=
  [⟨0x09, 0x0D, 1⟩, ⟨0x20, 0x20, 1⟩, ⟨0x85, 0x85, 1⟩, ⟨0xA0, 0xA0, 1⟩, ⟨0x1680, 0x1680, 1⟩,
   ⟨0x2000, 0x200A, 1⟩, ⟨0x2028, 0x2029, 1⟩, ⟨0x202F, 0x202F, 1⟩, ⟨0x205F, 0x205F, 1⟩,
   ⟨0x3000, 0x3000, 1⟩]

/-- Whether a character is white space. -/
def isWhiteSpace (c : Char) : Bool :=
  whiteSpace.contains c

end UriRouting.Unicode
