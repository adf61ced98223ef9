import UriRouting.Proofs.Template.Joining

/-!
# UriRouting.Proofs.Template.Following

What follows a marker, scanned by itself.

* `exists_of_locate_eq` — a marker stands for a slot among the pieces, and the markers behind it for
  the slots behind that one;
* `Scans.of_append` — what is left of a text after some of its pieces has the other pieces;
* `Scans.head?_plain_iff` — the first character among the pieces of a text is the first one outside
  of the markers (`Marker.FirstOutside`);
* `exists_standsBehind` — so the text behind a marker has the markers that come later, and the
  variable of the marker stops at the first character outside of them (`StandsBehind`).
-/

namespace UriRouting.Template

/-! ### The rest of a text -/

/-- What is left of a text after some of its pieces has the other pieces. -/
theorem Scans.of_append {t : Text} {ps qs : List Piece} (h : Scans t (ps ++ qs)) :
    ∃ rest, t = ps.flatMap Piece.write ++ rest ∧ Scans rest qs := by
  induction ps generalizing t with
  | nil => exact ⟨t, rfl, h⟩
  | cons p ps ih =>
      cases h with
      | slot _ h =>
          obtain ⟨rest, rfl, hrest⟩ := ih h
          exact ⟨rest, by simp [Piece.write], hrest⟩
      | char _ h =>
          obtain ⟨rest, rfl, hrest⟩ := ih h
          exact ⟨rest, by simp [Piece.write], hrest⟩

/-- A marker stands for a slot, and the markers behind it for the slots behind that one. -/
theorem exists_of_locate_eq {offset : Nat} {ps : List Piece} {earlier later : List Marker}
    {m : Marker} (h : Marker.locate offset ps = earlier ++ m :: later) :
    ∃ ps₁ ps₂, ps = ps₁ ++ .slot m.slot :: ps₂ ∧ earlier = Marker.locate offset ps₁ ∧
      m.offset = offset + Text.utf8Size (ps₁.flatMap Piece.write) ∧
      later = Marker.locate m.stop ps₂ := by
  induction ps generalizing offset earlier with
  | nil => simp [Marker.locate] at h
  | cons p ps ih =>
      cases p with
      | char c =>
          obtain ⟨ps₁, ps₂, rfl, rfl, hoffset, hlater⟩ := ih h
          refine ⟨.char c :: ps₁, ps₂, rfl, rfl, ?_, hlater⟩
          simp [hoffset, Piece.write, Nat.add_assoc]
      | slot s =>
          cases earlier with
          | nil =>
              obtain ⟨rfl, rfl⟩ := List.cons.inj h
              exact ⟨[], ps, rfl, rfl, rfl, rfl⟩
          | cons m' earlier =>
              obtain ⟨rfl, hrest⟩ := List.cons.inj h
              obtain ⟨ps₁, ps₂, rfl, rfl, hoffset, hlater⟩ := ih hrest
              refine ⟨.slot s :: ps₁, ps₂, rfl, rfl, ?_, hlater⟩
              simp [hoffset, Piece.write, Nat.add_assoc]

/-- The variable for a slot comes behind the variables for the slots before it. -/
theorem getElem?_variablesOf_ofPieces (anything : List Text) (reversed : Text) (ps₁ : List Piece)
    (s : Slot) (ps₂ : List Piece) :
    ∃ reversed', (variablesOf (Token.ofPieces anything reversed (ps₁ ++ .slot s :: ps₂)))[
      (ps₁.filterMap Piece.slot?).length]? = some (slotVariable anything reversed' s ps₂) := by
  induction ps₁ generalizing reversed with
  | nil => exact ⟨reversed, by simp [ofPieces_slot]⟩
  | cons p ps₁ ih =>
      cases p with
      | char c => exact ih (c :: reversed)
      | slot s' =>
          obtain ⟨reversed', h⟩ := ih []
          exact ⟨reversed', by simpa [ofPieces_slot, Piece.slot?] using h⟩

/-! ### Characters outside of markers -/

namespace Marker

/-- None of some markers covers the byte behind a number of bytes. -/
def Outside (ms : List Marker) (n : Nat) : Prop :=
  ∀ m ∈ ms, n < m.offset ∨ m.stop ≤ n

/-- The first character of a text, from a number of bytes on, that none of some markers covers. -/
def FirstOutside (ms : List Marker) (t : Text) (start : Nat) (c : Char) : Prop :=
  ∃ n, start ≤ n ∧ t.StandsAt n c ∧ Outside ms n ∧
    ∀ n' d, start ≤ n' → n' < n → t.StandsAt n' d → ¬ Outside ms n'

theorem not_firstOutside_size (ms : List Marker) (t : Text) (c : Char) :
    ¬ FirstOutside ms t t.utf8Size c := by
  intro h
  obtain ⟨n, hstart, ⟨before, after, rfl, rfl⟩, -, -⟩ := h
  have hpos := c.utf8Size_pos
  simp only [Text.utf8Size_append, Text.utf8Size_cons] at hstart
  omega

/-- A character that no marker covers is the first one from its own place on. -/
theorem firstOutside_iff_of_standsAt {ms : List Marker} {t : Text} {start : Nat} {c : Char}
    (hc : t.StandsAt start c) (hout : Outside ms start) {d : Char} :
    FirstOutside ms t start d ↔ d = c := by
  constructor
  · intro h
    obtain ⟨n, hstart, hd, -, hleast⟩ := h
    rcases Nat.eq_or_lt_of_le hstart with rfl | hlt
    · exact hd.unique hc
    · exact absurd hout (hleast start c (Nat.le_refl _) hlt hc)
  · intro h
    subst h
    exact ⟨start, Nat.le_refl _, hc, hout, fun n' _ hle hlt => by omega⟩

/-- A marker is passed over. -/
theorem firstOutside_cons_iff {m : Marker} {ms : List Marker} {t : Text} {c : Char} :
    FirstOutside (m :: ms) t m.offset c ↔ FirstOutside ms t m.stop c := by
  have hlt := m.offset_lt_stop
  have hcons (n : Nat) (hn : m.stop ≤ n) : Outside (m :: ms) n ↔ Outside ms n := by
    simp [Outside, hn]
  have hcovered (n : Nat) (hle : m.offset ≤ n) (hout : Outside (m :: ms) n) : m.stop ≤ n :=
    (hout m (List.mem_cons_self ..)).resolve_left (by omega)
  constructor
  · intro h
    obtain ⟨n, hstart, hc, hout, hleast⟩ := h
    have hstop := hcovered n hstart hout
    refine ⟨n, hstop, hc, (hcons n hstop).mp hout, fun n' d hle hlt' hd hout' => ?_⟩
    exact hleast n' d (by omega) hlt' hd ((hcons n' hle).mpr hout')
  · intro h
    obtain ⟨n, hstart, hc, hout, hleast⟩ := h
    refine ⟨n, by omega, hc, (hcons n hstart).mpr hout, fun n' d hle hlt' hd hout' => ?_⟩
    have hstop := hcovered n' hle hout'
    exact hleast n' d hstop hlt' hd ((hcons n' hstop).mp hout')

theorem outside_locate {start offset : Nat} (h : start < offset) (ps : List Piece) :
    Outside (locate offset ps) start :=
  fun _ hm => .inl (Nat.lt_of_lt_of_le h (le_offset_of_mem_locate hm))

end Marker

/-- **The first character among the pieces of a text is the first one outside of the markers.**
Some text stands before this one. -/
theorem Scans.head?_plain_iff {rest : Text} {ps : List Piece} (h : Scans rest ps) (done : Text)
    {c : Char} :
    (ps.filterMap Piece.char?).head? = some c ↔
      Marker.FirstOutside (Marker.locate (Text.utf8Size done) ps) (done ++ rest)
        (Text.utf8Size done) c := by
  induction h generalizing done with
  | nil =>
      have hnot := Marker.not_firstOutside_size [] done c
      simpa [Marker.locate] using hnot
  | @slot s rest ps _ _ ih =>
      have hrest := ih (done ++ s.write)
      rw [List.append_assoc, Text.utf8Size_append] at hrest
      rw [Marker.locate, List.filterMap_cons_none rfl, hrest]
      exact (Marker.firstOutside_cons_iff (m := ⟨s, _⟩)).symm
  | @char d rest ps _ _ _ =>
      have hout : Marker.Outside (Marker.locate (Text.utf8Size done + d.utf8Size) ps)
          (Text.utf8Size done) :=
        Marker.outside_locate (by have hpos := d.utf8Size_pos; omega) ps
      rw [Marker.locate, Marker.firstOutside_iff_of_standsAt ⟨done, rest, rfl, rfl⟩ hout]
      simp [Piece.char?, eq_comm]

/-! ### The text behind a marker -/

/-- What a text is that stands behind a marker, with some markers before it and some after it. -/
structure StandsBehind (t : Text) (earlier : List Marker) (m : Marker) (later : List Marker)
    (following : Text) : Prop where
  /-- It is what is behind the end of the marker. -/
  cut : ∃ front, t.splitAtByte? m.stop = some (front, following)
  /-- Scanned by itself, it has the later markers, from the end of the marker on. -/
  find : later = (Marker.find following).map (·.shift m.stop)
  /-- Without its own markers, it starts with the first character outside of the later ones. -/
  plain : ∃ plain, plainText? following = some plain ∧
    ∀ c, plain.head? = some c ↔ Marker.FirstOutside later t m.stop c
  /-- Scanned by itself, it says which texts the variable for the marker takes, unless this one
  takes every text. -/
  value : ∀ anything, ∃ v, (variablesIn t anything)[earlier.length]? = some v ∧
    v.name = m.slot.name ∧
    v.value = if anything.elem m.slot.name then .anything else valueClass (Piece.scan following)
  /-- These texts have no slash in them, and not the first character outside of the later markers
  if it is another separator. -/
  excluded : ∃ excluded, valueClass (Piece.scan following) = .segment excluded ∧
    ∀ c, excluded = some c ↔
      isSeparator c = true ∧ c ≠ '/' ∧ Marker.FirstOutside later t m.stop c

/-- **The text behind a marker has the later markers when it is scanned by itself**, and the
variable for the marker stops at the first character outside of them. -/
theorem exists_standsBehind {t : Text} {earlier later : List Marker} {m : Marker}
    (h : Marker.find t = earlier ++ m :: later) :
    ∃ following, StandsBehind t earlier m later following := by
  obtain ⟨ps₁, ps₂, hscan, rfl, hoffset, rfl⟩ := exists_of_locate_eq h
  obtain ⟨following, ht, hfollowing⟩ :
      ∃ following, t = (ps₁ ++ [Piece.slot m.slot]).flatMap Piece.write ++ following ∧
        Scans following ps₂ := by
    refine Scans.of_append ?_
    rw [List.append_assoc, List.singleton_append, ← hscan]
    exact scans_scan t
  generalize hfront : (ps₁ ++ [Piece.slot m.slot]).flatMap Piece.write = front at ht
  have hstop : m.stop = Text.utf8Size front := by
    simp [← hfront, Marker.stop, Marker.size, hoffset, Piece.write]
  have hplain (c : Char) : (ps₂.filterMap Piece.char?).head? = some c ↔
      Marker.FirstOutside (Marker.locate m.stop ps₂) t m.stop c := by
    rw [hstop, ht]
    exact hfollowing.head?_plain_iff front
  refine ⟨following, ⟨front, ?_⟩, ?_, ⟨ps₂.filterMap Piece.char?, ?_, hplain⟩,
    fun anything => ?_, ?_⟩
  · exact Text.splitAtByte?_eq_some_iff.mpr ⟨ht, hstop.symm⟩
  · rw [Marker.find, hfollowing.scan_eq, ← Marker.locate_add, Nat.add_zero]
  · rw [plainText?_eq, hfollowing.scan_eq]
  · obtain ⟨reversed, hvar⟩ := getElem?_variablesOf_ofPieces anything [] ps₁ m.slot ps₂
    have hlength : (Marker.locate 0 ps₁).length = (ps₁.filterMap Piece.slot?).length := by
      rw [← map_slot_locate 0, List.length_map]
    refine ⟨slotVariable anything reversed m.slot ps₂, ?_, rfl, ?_⟩
    · rw [variablesIn, tokenize, hscan, hlength, hvar]
    · rw [slotVariable, hfollowing.scan_eq]
  · refine ⟨_, rfl, fun c => ?_⟩
    rw [hfollowing.scan_eq, Option.filter_eq_some_iff, hplain, Bool.and_eq_true, bne_iff_ne,
      and_comm, and_assoc]

/-- A marker with another one directly behind it, and broken braces between the later ones. -/
theorem exists_standsBehind_braces :
    Marker.find "/{a}{b?}.{x-{c}}".toList =
      [] ++ ⟨⟨['a'], false⟩, 1⟩ :: [⟨⟨['b'], true⟩, 4⟩, ⟨⟨['c'], false⟩, 12⟩] ∧
      ∃ following, StandsBehind "/{a}{b?}.{x-{c}}".toList [] ⟨⟨['a'], false⟩, 1⟩
        [⟨⟨['b'], true⟩, 4⟩, ⟨⟨['c'], false⟩, 12⟩] following := by
  have hfind : Marker.find "/{a}{b?}.{x-{c}}".toList =
      [] ++ ⟨⟨['a'], false⟩, 1⟩ :: [⟨⟨['b'], true⟩, 4⟩, ⟨⟨['c'], false⟩, 12⟩] := by decide
  exact ⟨hfind, exists_standsBehind hfind⟩

end UriRouting.Template
