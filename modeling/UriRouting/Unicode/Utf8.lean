import UriRouting.Unicode.Interval

/-!
# UriRouting.Unicode.Utf8

Intervals of code points as bytes of UTF-8. An interval comes to some sequences of ranges of bytes,
in ascending order (`Interval.utf8`): its characters are the choices of a byte from each range of
one of the sequences.
-/

namespace UriRouting.Unicode

/-- The code points with encodings of one form. -/
structure Utf8Form where
  /-- The least code point. -/
  first : Nat
  /-- The greatest code point. -/
  last : Nat
  /-- The mark in the first byte. -/
  mark : Nat
  /-- What one counts in each byte but the last. -/
  units : List Nat

/-- The mark in each byte but the first. -/
def continuationMark : Nat := 0x80

/-- How many values each byte but the first has. -/
def continuationValues : Nat := 0x40

/-- The forms of encodings, with the code points of no character left out. -/
def utf8Forms : List Utf8Form :=
  [⟨0, 0x7F, 0, []⟩, ⟨0x80, 0x7FF, 0xC0, [0x40]⟩, ⟨0x800, 0xD7FF, 0xE0, [0x1000, 0x40]⟩,
   ⟨0xE000, 0xFFFF, 0xE0, [0x1000, 0x40]⟩, ⟨0x10000, maxCodePoint, 0xF0, [0x40000, 0x1000, 0x40]⟩]

namespace Interval

/-- The bytes with a mark for an interval of values. -/
def marked (mark first last : Nat) : Interval := ⟨mark + first, mark + last⟩

/-- The numbers from `first` to `last` as sequences of ranges of bytes. The interval is cut where
the bytes behind the first one do not run through all their values. -/
def byteRanges (mark : Nat) : List Nat → Nat → Nat → List (List Interval)
  | [], first, last => [[marked mark first last]]
  | unit :: units, first, last =>
    let low := first / unit
    let high := last / unit
    let behind (value first last : Nat) : List (List Interval) :=
      (byteRanges continuationMark units first last).map (marked mark value value :: ·)
    if low = high then behind low (first % unit) (last % unit)
    else
      let cutsLow := first % unit ≠ 0
      let cutsHigh := last % unit ≠ unit - 1
      let low' := if cutsLow then low + 1 else low
      let high' := if cutsHigh then high else high + 1
      (if cutsLow then behind low (first % unit) (unit - 1) else []) ++
        (if low' < high' then
          [marked mark low' (high' - 1) :: (unit :: units).map fun _ =>
            marked continuationMark 0 (continuationValues - 1)]
        else []) ++
        if cutsHigh then behind high 0 (last % unit) else []

/-- The characters of an interval as sequences of ranges of bytes. -/
def utf8 (iv : Interval) : List (List Interval) :=
  utf8Forms.flatMap fun form =>
    let first := max iv.first form.first
    let last := min iv.last form.last
    if first ≤ last then byteRanges form.mark form.units first last else []

end Interval

end UriRouting.Unicode
