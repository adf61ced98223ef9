import Mathlib.Data.List.Nodup
import UriRouting.Proofs.Template.Markers
import UriRouting.Proofs.Uri.Path

/-!
# UriRouting.Proofs.Template.Joining

The templates that are made of two, one below the other.

* `Marker.find_append_slash`, `variablesIn_append_slash` — the markers and the variables of two
  texts with a slash between them are those of the one and of the other, however the braces on
  both sides are broken;
* `valueClass_append_slash` — a variable takes the same texts with or without what is below it;
* `usable_append_iff` — which names can be put together;
* `joins_join` — what a path below a base path has of the two of them (`Joins`).
-/

namespace UriRouting.Template

/-! ### Markers -/

namespace Marker

/-- The marker with some more bytes in front of it. -/
def shift (n : Nat) (m : Marker) : Marker :=
  { m with offset := n + m.offset }

theorem locate_add (n offset : Nat) (ps : List Piece) :
    locate (n + offset) ps = (locate offset ps).map (shift n) := by
  induction ps generalizing offset with
  | nil => rfl
  | cons p ps ih =>
      cases p with
      | char c => rw [locate, locate, Nat.add_assoc, ih]
      | slot s => rw [locate, locate, Nat.add_assoc, ih, List.map_cons, shift]

theorem locate_append (offset : Nat) (ps qs : List Piece) :
    locate offset (ps ++ qs) =
      locate offset ps ++ locate (offset + Text.utf8Size (ps.flatMap Piece.write)) qs := by
  induction ps generalizing offset with
  | nil => rfl
  | cons p ps ih =>
      rw [List.flatMap_cons, Text.utf8Size_append, ← Nat.add_assoc]
      cases p with
      | char c => exact ih (offset + c.utf8Size)
      | slot s =>
          rw [List.cons_append, locate, locate, ih, List.cons_append]
          rfl

/-- **No marker is made or lost at a slash.** -/
theorem find_append_slash (t u : Text) :
    find (t ++ '/' :: u) = find t ++ (find ('/' :: u)).map (shift t.utf8Size) := by
  rw [find, scan_append_slash, locate_append, flatMap_write_scan, Nat.zero_add, find, find,
    ← locate_add, Nat.add_zero]

end Marker

/-! ### Variables -/

/-- The variables of a text as a template. -/
def variablesIn (t : Text) (anything : List Text) : List Variable :=
  variablesOf (tokenize (Piece.scan t) anything)

/-- **A slash after what follows a variable does not matter for the texts that it takes**, nor does
anything after the slash. -/
theorem valueClass_append_slash (ps qs : List Piece) :
    valueClass (ps ++ .char '/' :: qs) = valueClass ps := by
  rw [valueClass, valueClass, List.filterMap_append]
  cases ps.filterMap Piece.char? with
  | nil => rfl
  | cons c t => rfl

/-- Of the text before the first slot, no more than the last character matters for the
variables. -/
theorem variablesOf_ofPieces_cons (anything : List Text) (c : Char) (reversed : Text)
    (ps : List Piece) :
    variablesOf (Token.ofPieces anything (c :: reversed) ps) =
      variablesOf (Token.ofPieces anything [c] ps) := by
  induction ps generalizing c reversed with
  | nil => rw [Token.ofPieces, Token.ofPieces, variablesOf_literalToken, variablesOf_literalToken]
  | cons p ps ih =>
      cases p with
      | char d => rw [Token.ofPieces, Token.ofPieces, ih d (c :: reversed), ih d [c]]
      | slot s =>
          have hdetach : (detach (c :: reversed)).1 = (detach [c]).1 := by
            rw [detach, detach]
            split <;> rfl
          rw [ofPieces_slot, ofPieces_slot, variablesOf_append, variablesOf_append,
            variablesOf_literalToken, variablesOf_literalToken, variablesOf_var, variablesOf_var,
            slotVariable, slotVariable, hdetach]

theorem variablesOf_ofPieces_append_slash (anything : List Text) (reversed : Text)
    (ps qs : List Piece) :
    variablesOf (Token.ofPieces anything reversed (ps ++ .char '/' :: qs)) =
      variablesOf (Token.ofPieces anything reversed ps) ++
        variablesOf (Token.ofPieces anything [] (.char '/' :: qs)) := by
  induction ps generalizing reversed with
  | nil =>
      rw [Token.ofPieces, variablesOf_literalToken, List.nil_append, List.nil_append]
      exact variablesOf_ofPieces_cons anything '/' reversed qs
  | cons p ps ih =>
      cases p with
      | char c => exact ih (c :: reversed)
      | slot s =>
          rw [List.cons_append, ofPieces_slot, ofPieces_slot, variablesOf_append,
            variablesOf_append, variablesOf_var, variablesOf_var, ih, slotVariable, slotVariable,
            valueClass_append_slash, List.append_assoc, List.cons_append]

/-- **The variables in front of a slash are those that are there without the rest**, with the
separators before them and the texts that they take, and so are those behind it. -/
theorem variablesIn_append_slash (t u : Text) (anything : List Text) :
    variablesIn (t ++ '/' :: u) anything =
      variablesIn t anything ++ variablesIn ('/' :: u) anything := by
  have hslash : Piece.scan ('/' :: u) = .char '/' :: Piece.scan u :=
    scan_cons_of_not_startsSlot (not_startsSlot_cons (by decide) u)
  rw [variablesIn, scan_append_slash, hslash, tokenize, variablesOf_ofPieces_append_slash,
    variablesIn, variablesIn, hslash, tokenize, tokenize]

/-! ### Names -/

theorem usable_append_iff {names names' : List Text} :
    Usable [] (names ++ names') ↔ Usable [] names ∧ Usable [] names' ∧ names.Disjoint names' := by
  constructor
  · rintro ⟨hbegins, -, hnodup⟩
    rw [List.forall_mem_append] at hbegins
    rw [List.nodup_append'] at hnodup
    exact ⟨⟨hbegins.1, by simp, hnodup.1⟩, ⟨hbegins.2, by simp, hnodup.2.1⟩, hnodup.2.2⟩
  · rintro ⟨h, h', hdisjoint⟩
    exact ⟨List.forall_mem_append.mpr ⟨h.begins, h'.begins⟩, by simp,
      List.nodup_append'.mpr ⟨h.nodup, h'.nodup, hdisjoint⟩⟩

/-- The names of the markers of a text. -/
def namesIn (t : Text) : List Text :=
  (Marker.find t).map (·.slot.name)

/-! ### Two templates in one -/

/-- What a template has of two others, the second of which starts after a number of bytes. -/
structure Joins (front back whole : Text) (seam : Nat) : Prop where
  /-- The markers are those of both, in their places. -/
  markers : Marker.find whole = Marker.find front ++ (Marker.find back).map (·.shift seam)
  /-- The variables are those of both, with the same separators and the same values. -/
  vars : ∀ anything,
    variablesIn whole anything = variablesIn front anything ++ variablesIn back anything
  /-- It is a template if both are, and share no name. -/
  scans : (∃ ms, scanMarkers whole = .ok ms) ↔
    (∃ ms, scanMarkers front = .ok ms) ∧ (∃ ms, scanMarkers back = .ok ms) ∧
      (namesIn front).Disjoint (namesIn back)

/-- The names follow from the markers. -/
theorem names_of_find_eq {front back whole : Text} {seam : Nat}
    (h : Marker.find whole = Marker.find front ++ (Marker.find back).map (·.shift seam)) :
    namesIn whole = namesIn front ++ namesIn back := by
  rw [namesIn, h, List.map_append, List.map_map]
  rfl

theorem joins_of {front back whole : Text} {seam : Nat}
    (hmarkers : Marker.find whole = Marker.find front ++ (Marker.find back).map (·.shift seam))
    (hvars : ∀ anything,
      variablesIn whole anything = variablesIn front anything ++ variablesIn back anything) :
    Joins front back whole seam where
  markers := hmarkers
  vars := hvars
  scans := by
    rw [exists_scanMarkers_iff, exists_scanMarkers_iff, exists_scanMarkers_iff,
      ← namesIn, ← namesIn, ← namesIn, names_of_find_eq hmarkers, usable_append_iff]

theorem joins_append_slash (t u : Text) :
    Joins t ('/' :: u) (t ++ '/' :: u) t.utf8Size :=
  joins_of (Marker.find_append_slash t u) (variablesIn_append_slash t u)

/-- A single slash adds nothing. -/
theorem joins_slash_right (t : Text) (seam : Nat) : Joins t ['/'] t seam :=
  joins_of (List.append_nil _).symm fun _ => (List.append_nil _).symm

theorem joins_slash_left (t : Text) : Joins ['/'] t t 0 := by
  refine joins_of ?_ fun _ => rfl
  have hshift : Marker.shift 0 = id := funext fun m => by rw [Marker.shift, Nat.zero_add, id]
  rw [hshift, List.map_id]
  rfl

/-- **A path below a base path has the markers and the variables of both.** -/
theorem joins_join {base : Text} (hbase : Uri.normalize base = base) (uri : Text) :
    Joins base (Uri.normalize uri) (Uri.join base uri) (Uri.stem base).utf8Size := by
  rw [Uri.join_eq hbase]
  split
  · rename_i hroot
    rw [hroot]
    exact joins_slash_right base _
  · rw [Uri.stem]
    split
    · rename_i hslash
      rw [hslash]
      exact joins_slash_left (Uri.normalize uri)
    · rw [Uri.normalize_eq uri]
      exact joins_append_slash base _

end UriRouting.Template
