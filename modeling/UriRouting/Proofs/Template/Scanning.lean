import UriRouting.Proofs.Template.Names

/-!
# UriRouting.Proofs.Template.Scanning

What it means to cut a template into pieces, without the reader of slots.

* `Slot.read?_eq_some_iff` — a slot is read exactly where one is written;
* `Scans` — a slot wherever one starts, and a character that stands for itself elsewhere;
  `scans_iff` says that these are the pieces of a text, and no others;
* `flatMap_write_scan` — the pieces written one after another are the text again;
* `scan_append_slash` — no slot reaches over a slash, so the pieces of two texts with a slash
  between them are those of the one and of the other.
-/

namespace UriRouting.Template

/-! ### Slots as they are written -/

namespace Slot

/-- A slot with a name that a template can hold: a row of letters, digits and underscores. -/
structure Named (s : Slot) : Prop where
  /-- The name is not empty. -/
  ne_nil : s.name ≠ []
  /-- Its characters are those of words. -/
  word : ∀ c ∈ s.name, isAsciiWordCharacter c = true

/-- What a slot is closed with. -/
def closing (s : Slot) : Text :=
  if s.optional then ['?', '}'] else ['}']

theorem write_eq (s : Slot) : s.write = '{' :: (s.name ++ s.closing) := rfl

theorem mem_closing {s : Slot} {c : Char} (h : c ∈ s.closing) : c = '?' ∨ c = '}' := by
  unfold closing at h
  split at h
  · simpa using h
  · exact .inr (by simpa using h)

/-- What is written after the brace of a slot opens no other one. -/
theorem Named.brace_not_mem {s : Slot} (hs : s.Named) : '{' ∉ s.name ++ s.closing := by
  intro h
  rcases List.mem_append.mp h with h | h
  · exact absurd (hs.word _ h) (by decide)
  · rcases mem_closing h with h | h <;> cases h

/-- A slot is written without slashes. -/
theorem Named.slash_not_mem {s : Slot} (hs : s.Named) : '/' ∉ s.write := by
  rw [write_eq]
  intro h
  rcases List.mem_cons.mp h with h | h
  · cases h
  · rcases List.mem_append.mp h with h | h
    · exact absurd (hs.word _ h) (by decide)
    · rcases mem_closing h with h | h <;> cases h

theorem named_of_read? {t rest : Text} {s : Slot} (h : read? t = some (s, rest)) : s.Named := by
  obtain ⟨hne, hword⟩ := name_of_read? h
  exact ⟨hne, List.all_eq_true.mp hword⟩

/-- A slot is read from what is written after its brace. -/
theorem Named.read?_append {s : Slot} (hs : s.Named) (rest : Text) :
    read? (s.name ++ s.closing ++ rest) = some (s, rest) := by
  obtain ⟨name, optional⟩ := s
  obtain ⟨hne, hword⟩ := hs
  have hspan : (name ++ closing ⟨name, optional⟩ ++ rest).span isAsciiWordCharacter =
      (name, closing ⟨name, optional⟩ ++ rest) := by
    rw [List.span_eq_takeWhile_dropWhile, List.append_assoc, List.takeWhile_append_of_pos hword,
      List.dropWhile_append_of_pos hword]
    cases optional <;> simp [closing, isAsciiWordCharacter]
  rw [read?, hspan]
  cases name with
  | nil => exact absurd rfl hne
  | cons c name => cases optional <;> rfl

/-- What is read as a slot is the slot as it is written. -/
theorem eq_of_read? {t rest : Text} {s : Slot} (h : read? t = some (s, rest)) :
    t = s.name ++ s.closing ++ rest := by
  have hsplit := List.takeWhile_append_dropWhile (p := isAsciiWordCharacter) (l := t)
  unfold read? at h
  rw [List.span_eq_takeWhile_dropWhile] at h
  split at h
  case h_1 => cases h
  case h_4 => cases h
  case h_2 name rest' _ hspan | h_3 name rest' _ hspan =>
    obtain ⟨hname, hrest⟩ := Prod.mk.inj hspan
    cases h
    rw [← hsplit, hname, hrest]
    simp [closing]

/-- **A slot is read exactly where one is written.** -/
theorem read?_eq_some_iff {t rest : Text} {s : Slot} :
    read? t = some (s, rest) ↔ s.Named ∧ '{' :: t = s.write ++ rest := by
  constructor
  · intro h
    refine ⟨named_of_read? h, ?_⟩
    rw [eq_of_read? h, write_eq, List.cons_append]
  · rintro ⟨hs, h⟩
    rw [write_eq, List.cons_append] at h
    rw [List.tail_eq_of_cons_eq h, hs.read?_append]

end Slot

/-- A slot is written at the start of a text. -/
def StartsSlot (t : Text) : Prop :=
  ∃ s rest, Slot.Named s ∧ t = s.write ++ rest

theorem not_startsSlot_cons {c : Char} (hc : c ≠ '{') (t : Text) : ¬ StartsSlot (c :: t) := by
  rintro ⟨s, rest, -, h⟩
  rw [Slot.write_eq, List.cons_append] at h
  exact hc (List.head_eq_of_cons_eq h)

/-! ### Pieces -/

/-- Characters among which no slot is opened stand for themselves. -/
theorem scan_append_of_not_mem {t : Text} (h : '{' ∉ t) (u : Text) :
    Piece.scan (t ++ u) = t.map .char ++ Piece.scan u := by
  induction t with
  | nil => rfl
  | cons c t ih =>
      rw [List.mem_cons, not_or] at h
      have hc : (c == '{') = false := by simpa using Ne.symm h.1
      rw [List.cons_append, Piece.scan, hc, ih h.2]
      rfl

theorem scan_of_not_mem {t : Text} (h : '{' ∉ t) : Piece.scan t = t.map .char := by
  have hscan := scan_append_of_not_mem h []
  rwa [List.append_nil, Piece.scan, List.append_nil] at hscan

theorem scan_write_append {s : Slot} (hs : s.Named) (rest : Text) :
    Piece.scan (s.write ++ rest) = .slot s :: Piece.scan rest := by
  have hlength : s.write.length - 1 = ((s.name ++ s.closing).map Piece.char).length := by
    rw [Slot.write_eq, List.length_cons, List.length_map, Nat.add_sub_cancel]
  have hdrop : (Piece.scan (s.name ++ s.closing ++ rest)).drop (s.write.length - 1) =
      Piece.scan rest := by
    rw [hlength, scan_append_of_not_mem hs.brace_not_mem, List.drop_left]
  have hwrite : s.write ++ rest = '{' :: (s.name ++ s.closing ++ rest) := rfl
  rw [hwrite, Piece.scan, if_pos (by decide), hs.read?_append]
  exact congrArg (Piece.slot s :: ·) hdrop

theorem scan_cons_of_not_startsSlot {c : Char} {t : Text} (h : ¬ StartsSlot (c :: t)) :
    Piece.scan (c :: t) = .char c :: Piece.scan t := by
  rw [Piece.scan]
  split
  · rename_i s rest hread
    split at hread
    · rename_i hc
      obtain ⟨hs, ht⟩ := Slot.read?_eq_some_iff.mp hread
      rw [beq_iff_eq.mp hc] at h
      exact absurd ⟨s, rest, hs, ht⟩ h
    · cases hread
  · rfl

/-- The pieces of a text, from left to right. -/
inductive Scans : Text → List Piece → Prop where
  /-- Nothing is left. -/
  | nil : Scans [] []
  /-- A slot is written here. -/
  | slot {s : Slot} {t : Text} {ps : List Piece} (hs : s.Named) (h : Scans t ps) :
      Scans (s.write ++ t) (.slot s :: ps)
  /-- No slot starts here. -/
  | char {c : Char} {t : Text} {ps : List Piece} (hc : ¬ StartsSlot (c :: t)) (h : Scans t ps) :
      Scans (c :: t) (.char c :: ps)

theorem Scans.scan_eq {t : Text} {ps : List Piece} (h : Scans t ps) : Piece.scan t = ps := by
  induction h with
  | nil => rfl
  | slot hs _ ih => rw [scan_write_append hs, ih]
  | char hc _ ih => rw [scan_cons_of_not_startsSlot hc, ih]

/-- Every text has pieces. The induction is on what is left after a piece, which may be a whole
slot. -/
theorem scans_scan (t : Text) : Scans t (Piece.scan t) := by
  induction hn : t.length using Nat.strongRecOn generalizing t with
  | ind n ih =>
      by_cases hstart : StartsSlot t
      · obtain ⟨s, rest, hs, rfl⟩ := hstart
        rw [scan_write_append hs]
        refine .slot hs (ih rest.length ?_ rest rfl)
        rw [← hn, List.length_append, Slot.write_eq, List.length_cons]
        omega
      · cases t with
        | nil => exact .nil
        | cons c t =>
            rw [scan_cons_of_not_startsSlot hstart]
            exact .char hstart (ih t.length (by rw [← hn, List.length_cons]; omega) t rfl)

/-- **The pieces of a text are slots where they are written, and characters elsewhere.** -/
theorem scans_iff {t : Text} {ps : List Piece} : Scans t ps ↔ Piece.scan t = ps := by
  constructor
  · exact Scans.scan_eq
  · rintro rfl
    exact scans_scan t

theorem Scans.flatMap_write {t : Text} {ps : List Piece} (h : Scans t ps) :
    ps.flatMap Piece.write = t := by
  induction h with
  | nil => rfl
  | slot _ _ ih => rw [List.flatMap_cons, ih]; rfl
  | char _ _ ih => rw [List.flatMap_cons, ih]; rfl

/-- **Cutting a text into pieces loses nothing.** -/
theorem flatMap_write_scan (t : Text) : (Piece.scan t).flatMap Piece.write = t :=
  (scans_scan t).flatMap_write

theorem Scans.eq_map_char {t : Text} {ps : List Piece} (h : Scans t ps)
    (hnames : slotNames ps = []) : ps = t.map .char := by
  induction h with
  | nil => rfl
  | slot _ _ _ => cases hnames
  | char _ _ ih => rw [ih hnames, List.map_cons]

/-- A text without slots is a row of characters. -/
theorem scan_of_slotNames_eq_nil {t : Text} (h : slotNames (Piece.scan t) = []) :
    Piece.scan t = t.map .char :=
  (scans_scan t).eq_map_char h

/-- A slash after a text is in no slot that starts in the text. -/
theorem startsSlot_of_append_slash {c : Char} {t u : Text}
    (h : StartsSlot (c :: (t ++ '/' :: u))) : StartsSlot (c :: t) := by
  obtain ⟨s, rest, hs, h⟩ := h
  rw [← List.cons_append] at h
  rcases List.append_eq_append_iff.mp h with ⟨a, hwrite, ha⟩ | ⟨a, htext, -⟩
  · cases a with
    | nil => exact ⟨s, [], hs, by rw [hwrite, List.append_nil, List.append_nil]⟩
    | cons d a =>
        -- the slot would go over the slash
        obtain ⟨rfl, -⟩ := List.cons.inj ha
        exact absurd (by rw [hwrite]; simp) hs.slash_not_mem
  · exact ⟨s, a, hs, htext⟩

theorem Scans.append_slash {t : Text} {ps : List Piece} (h : Scans t ps) (u : Text) :
    Piece.scan (t ++ '/' :: u) = ps ++ Piece.scan ('/' :: u) := by
  induction h with
  | nil => rfl
  | slot hs _ ih => rw [List.append_assoc, scan_write_append hs, ih]; rfl
  | char hc _ ih =>
      rw [List.cons_append, scan_cons_of_not_startsSlot (mt startsSlot_of_append_slash hc), ih]
      rfl

/-- **No slot reaches over a slash**, however the braces on both sides are broken. -/
theorem scan_append_slash (t u : Text) :
    Piece.scan (t ++ '/' :: u) = Piece.scan t ++ Piece.scan ('/' :: u) :=
  (scans_scan t).append_slash u

end UriRouting.Template
