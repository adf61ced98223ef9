import UriRouting.Proofs.Template.Scanning
import UriRouting.Proofs.Text.Bytes

/-!
# UriRouting.Proofs.Template.Markers

The markers of a template by the bytes of the template.

* `mem_find_iff` — a marker is found where a slot stands (`Marker.StandsIn`), and nowhere else;
* `pairwise_find` — markers are found from left to right, and none overlaps another;
* `plainText?_eq`, `tokensAt?_eq` — what is cut out of a template between its markers is what
  its pieces say, so that no cut is out of range;
* `checkNames_eq_ok_iff`, `checkNames_eq_error_iff` — which names are accepted, and which name is
  refused and why (`NameFault`);
* `markAll_scanMarkers` — what the markers of a text are, and when the text is a template.
-/

namespace UriRouting.Template

/-! ### Markers as slots with places -/

/-- The markers are those of the slots, in order. -/
theorem map_slot_locate (offset : Nat) (ps : List Piece) :
    (Marker.locate offset ps).map (·.slot) = ps.filterMap Piece.slot? := by
  induction ps generalizing offset with
  | nil => rfl
  | cons p ps ih =>
      cases p with
      | char c => exact ih _
      | slot s => exact congrArg (s :: ·) (ih _)

theorem map_name_locate (offset : Nat) (ps : List Piece) :
    (Marker.locate offset ps).map (·.slot.name) = slotNames ps := by
  rw [slotNames, ← map_slot_locate offset, List.map_map]
  rfl

theorem Slot.utf8Size_write_pos (s : Slot) : 0 < Text.utf8Size s.write := by
  rw [write_eq, Text.utf8Size_cons]
  have hpos := '{'.utf8Size_pos
  omega

/-- A slot with a name that a template can hold stands in a text at the place of a marker. -/
structure Marker.StandsIn (m : Marker) (t : Text) : Prop where
  /-- The slot has such a name. -/
  named : m.slot.Named
  /-- The slot is written after as many bytes as the marker says. -/
  place : ∃ before after, t = before ++ m.slot.write ++ after ∧ Text.utf8Size before = m.offset

/-- Two slots that are written at the start of one text are the same. -/
theorem Slot.Named.write_inj {s s' : Slot} (hs : s.Named) (hs' : s'.Named) {t t' : Text}
    (h : s.write ++ t = s'.write ++ t') : s = s' := by
  have hread := hs.read?_append t
  have htail : s.name ++ s.closing ++ t = s'.name ++ s'.closing ++ t' := List.tail_eq_of_cons_eq h
  rw [htail, hs'.read?_append] at hread
  cases hread
  rfl

/-- A slot that is written after another one begins behind it, since only the first character of
a slot is an opening brace. -/
theorem Slot.Named.exists_of_append_eq {s s' : Slot} (hs : s.Named) {t before after : Text}
    (hne : before ≠ []) (h : s.write ++ t = before ++ s'.write ++ after) :
    ∃ between, before = s.write ++ between ∧ t = between ++ s'.write ++ after := by
  rw [List.append_assoc] at h
  rcases List.append_eq_append_iff.mp h with ⟨between, hbefore, ht⟩ | ⟨overlap, hwrite, hrest⟩
  · exact ⟨between, hbefore, by rw [ht, List.append_assoc]⟩
  · cases overlap with
    | nil => exact ⟨[], by rw [hwrite, List.append_nil, List.append_nil], hrest.symm⟩
    | cons c overlap =>
        obtain ⟨rfl, -⟩ := List.cons.inj hrest
        obtain ⟨d, before, rfl⟩ := List.exists_cons_of_ne_nil hne
        have hinner : s.name ++ s.closing = before ++ '{' :: overlap :=
          List.tail_eq_of_cons_eq hwrite
        exact absurd (by rw [hinner]; simp) hs.brace_not_mem

namespace Scans

/-- What is located is there. -/
theorem stands {t : Text} {ps : List Piece} (h : Scans t ps) {offset : Nat} {m : Marker}
    (hm : m ∈ Marker.locate offset ps) :
    m.slot.Named ∧ ∃ before after, t = before ++ m.slot.write ++ after ∧
      offset + Text.utf8Size before = m.offset := by
  induction h generalizing offset with
  | nil => cases hm
  | @slot s t ps hs _ ih =>
      rcases List.mem_cons.mp hm with rfl | hm
      · exact ⟨hs, [], t, rfl, rfl⟩
      · obtain ⟨hnamed, before, after, rfl, hoffset⟩ := ih hm
        refine ⟨hnamed, s.write ++ before, after, by simp, ?_⟩
        rw [← hoffset, Text.utf8Size_append, Nat.add_assoc]
  | @char c t ps _ _ ih =>
      obtain ⟨hnamed, before, after, rfl, hoffset⟩ := ih hm
      refine ⟨hnamed, c :: before, after, rfl, ?_⟩
      rw [← hoffset, Text.utf8Size_cons, Nat.add_assoc]

/-- What is there is located. -/
theorem mem_locate {t : Text} {ps : List Piece} (h : Scans t ps) {s : Slot} (hs : s.Named)
    {before after : Text} (ht : t = before ++ s.write ++ after) (offset : Nat) :
    ⟨s, offset + Text.utf8Size before⟩ ∈ Marker.locate offset ps := by
  induction h generalizing before offset with
  | nil =>
      have hlength := congrArg List.length ht
      simp [Slot.write_eq] at hlength
  | @slot s' t ps hs' _ ih =>
      by_cases hne : before = []
      · subst hne
        rw [hs'.write_inj hs ht]
        exact List.mem_cons_self ..
      · obtain ⟨between, rfl, hrest⟩ := hs'.exists_of_append_eq hne ht
        have hmem := ih hrest (offset + Text.utf8Size s'.write)
        rw [Nat.add_assoc, ← Text.utf8Size_append] at hmem
        exact List.mem_cons_of_mem _ hmem
  | @char c t ps hc _ ih =>
      cases before with
      | nil => exact absurd ⟨s, after, hs, ht⟩ hc
      | cons c' before =>
          obtain ⟨rfl, hrest⟩ := List.cons.inj ht
          have hmem := ih hrest (offset + c.utf8Size)
          rwa [Nat.add_assoc] at hmem

end Scans

namespace Marker

/-- **A marker is found where a slot stands**, and nowhere else. -/
theorem mem_find_iff {m : Marker} {t : Text} : m ∈ find t ↔ m.StandsIn t := by
  constructor
  · intro hm
    obtain ⟨hnamed, before, after, ht, hoffset⟩ := (scans_scan t).stands hm
    exact ⟨hnamed, before, after, ht, by rw [← hoffset, Nat.zero_add]⟩
  · rintro ⟨hnamed, before, after, ht, hoffset⟩
    have hmem := (scans_scan t).mem_locate hnamed ht 0
    rwa [Nat.zero_add, hoffset] at hmem

theorem offset_lt_stop (m : Marker) : m.offset < m.stop := by
  have hpos := m.slot.utf8Size_write_pos
  unfold stop size
  omega

theorem le_offset_of_mem_locate {offset : Nat} {ps : List Piece} {m : Marker}
    (h : m ∈ locate offset ps) : offset ≤ m.offset := by
  induction ps generalizing offset with
  | nil => cases h
  | cons p ps ih =>
      cases p with
      | char c =>
          have hle := ih h
          omega
      | slot s =>
          rcases List.mem_cons.mp h with rfl | h
          · exact Nat.le_refl _
          · have hle := ih h
            omega

theorem pairwise_locate (offset : Nat) (ps : List Piece) :
    (locate offset ps).Pairwise fun m m' => m.stop ≤ m'.offset := by
  induction ps generalizing offset with
  | nil => exact .nil
  | cons p ps ih =>
      cases p with
      | char c => exact ih _
      | slot s => exact .cons (fun m hm => le_offset_of_mem_locate hm) (ih _)

/-- **Markers are found from left to right**, each behind the one before it. -/
theorem pairwise_find (t : Text) :
    (find t).Pairwise fun m m' => m.offset < m'.offset ∧ m.stop ≤ m'.offset := by
  refine (pairwise_locate 0 (Piece.scan t)).imp fun {m m'} hstop => ?_
  exact ⟨Nat.lt_of_lt_of_le m.offset_lt_stop hstop, hstop⟩

/-- A text can be cut where a slot stands in it, before the slot and after it. -/
theorem StandsIn.splitAtByte? {m : Marker} {t : Text} (h : m.StandsIn t) :
    ∃ before after, t.splitAtByte? m.offset = some (before, m.slot.write ++ after) ∧
      t.splitAtByte? m.stop = some (before ++ m.slot.write, after) := by
  obtain ⟨-, before, after, rfl, hoffset⟩ := h
  refine ⟨before, after, ?_, ?_⟩
  · exact Text.splitAtByte?_eq_some_iff.mpr ⟨List.append_assoc .., hoffset⟩
  · refine Text.splitAtByte?_eq_some_iff.mpr ⟨rfl, ?_⟩
    rw [Text.utf8Size_append, hoffset]
    rfl

end Marker

/-! ### Cuts between markers -/

/-- The characters of a text outside of some markers, from a number of bytes on. Every part is
cut out by its bytes. -/
def plainFrom? (t : Text) (start : Nat) : List Marker → Option Text
  | [] => t.between? start t.utf8Size
  | m :: ms => do
    let before ← t.between? start m.offset
    let rest ← plainFrom? t m.stop ms
    return before ++ rest

/-- The characters of a text outside of its markers. -/
def plainText? (t : Text) : Option Text :=
  plainFrom? t 0 (Marker.find t)

/-- The tokens of a template around some markers, from a number of bytes on. Every text is cut
out of the template by its bytes, that in front of a marker and all that follows it, where the
markers are found anew. -/
def tokensFrom? (template : Text) (anything : List Text) (start : Nat) :
    List Marker → Option (List Token)
  | [] => (template.between? start template.utf8Size).map fun text => literalToken text.reverse
  | m :: ms => do
    let preceding ← template.between? start m.offset
    let following ← template.between? m.stop template.utf8Size
    let plain ← plainText? following
    let tokens ← tokensFrom? template anything m.stop ms
    let value := if anything.elem m.slot.name then .anything else valueClass (plain.map .char)
    return literalToken (detach preceding.reverse).2 ++
      .var ⟨(detach preceding.reverse).1, value, m.slot.name, m.slot.optional⟩ :: tokens

/-- The tokens of a template around its markers. -/
def tokensAt? (template : Text) (anything : List Text) : Option (List Token) :=
  tokensFrom? template anything 0 (Marker.find template)

namespace Scans

/-- What is cut out around the markers of the rest of a text. Some of the text is done, and some
characters before the rest are still to be taken. -/
theorem plainFrom?_eq {t : Text} {ps : List Piece} (h : Scans t ps) (done pending : Text) :
    plainFrom? (done ++ pending ++ t) (Text.utf8Size done)
      (Marker.locate (Text.utf8Size (done ++ pending)) ps) =
        some (pending ++ ps.filterMap Piece.char?) := by
  induction h generalizing done pending with
  | nil =>
      rw [List.append_nil, Marker.locate, plainFrom?, Text.between?_append_end]
      simp
  | @slot s t ps _ _ ih =>
      have hrest := ih (done ++ pending ++ s.write) []
      rw [List.append_nil, List.nil_append, List.append_assoc _ s.write,
        Text.utf8Size_append _ s.write] at hrest
      rw [Marker.locate, plainFrom?, Text.between?_append, Marker.stop, Marker.size, hrest]
      rfl
  | @char c t ps _ _ ih =>
      have hrest := ih done (pending ++ [c])
      rw [← List.append_assoc, List.append_assoc _ [c], Text.utf8Size_append _ [c]] at hrest
      rw [Marker.locate]
      refine hrest.trans ?_
      simp [Piece.char?]

end Scans

/-- **The characters outside of the markers** are those of the pieces. -/
theorem plainText?_eq (t : Text) : plainText? t = some ((Piece.scan t).filterMap Piece.char?) :=
  (scans_scan t).plainFrom?_eq [] []

theorem valueClass_map_char (following : List Piece) :
    valueClass ((following.filterMap Piece.char?).map .char) = valueClass following := by
  have hchars (t : Text) : (t.map Piece.char).filterMap Piece.char? = t := by
    rw [List.filterMap_map]
    exact List.filterMap_some
  rw [valueClass, hchars]
  rfl

namespace Scans

theorem tokensFrom?_eq {t : Text} {ps : List Piece} (h : Scans t ps) (anything : List Text)
    (done pending : Text) :
    tokensFrom? (done ++ pending ++ t) anything (Text.utf8Size done)
      (Marker.locate (Text.utf8Size (done ++ pending)) ps) =
        some (Token.ofPieces anything pending.reverse ps) := by
  induction h generalizing done pending with
  | nil =>
      rw [List.append_nil, Marker.locate, tokensFrom?, Text.between?_append_end]
      rfl
  | @slot s t ps _ h ih =>
      have hrest := ih (done ++ pending ++ s.write) []
      rw [List.append_nil, List.append_assoc _ s.write, Text.utf8Size_append _ s.write] at hrest
      have hfollowing : (done ++ pending ++ (s.write ++ t)).between?
          (Text.utf8Size (done ++ pending) + Text.utf8Size s.write)
          (Text.utf8Size (done ++ pending ++ (s.write ++ t))) = some t := by
        rw [← List.append_assoc, ← Text.utf8Size_append]
        exact Text.between?_append_end _ t
      have hplain : plainText? t = some (ps.filterMap Piece.char?) := by
        rw [plainText?_eq, h.scan_eq]
      rw [Marker.locate, tokensFrom?, Text.between?_append, Marker.stop, Marker.size, hfollowing,
        hrest, ofPieces_slot]
      simp [hplain, valueClass_map_char, slotVariable]
  | @char c t ps _ _ ih =>
      have hrest := ih done (pending ++ [c])
      rw [← List.append_assoc, List.append_assoc _ [c], Text.utf8Size_append _ [c],
        List.reverse_append] at hrest
      exact hrest

end Scans

/-- **The tokens that are cut out of a template** are those of its pieces. -/
theorem tokensAt?_eq (template : Text) (anything : List Text) :
    tokensAt? template anything = some (tokenize (Piece.scan template) anything) :=
  (scans_scan template).tokensFrom?_eq anything [] []

/-! ### Names -/

/-- A name that a variable can have starts with a letter or an underscore. -/
def BeginsName (name : Text) : Prop :=
  ∃ c rest, name = c :: rest ∧ (c.isAlpha = true ∨ c = '_')

/-- Why a name is refused after some others. -/
inductive NameFault (template : Text) (before : List Text) (name : Text) :
    TemplateError → Prop where
  /-- It is a number. -/
  | numeric (hall : name.all Char.isDigit = true) :
      NameFault template before name (.numericName template name)
  /-- It starts with a digit, and is no number. -/
  | invalid (hall : name.all Char.isDigit = false) (hfirst : name.head?.any Char.isDigit = true) :
      NameFault template before name (.invalidName template name)
  /-- It starts as a name may start, and is one of those before it. -/
  | duplicate (hbegins : BeginsName name) (hmem : name ∈ before) :
      NameFault template before name (.duplicateName template name)

theorem NameFault.congr {template : Text} {before before' : List Text} {name : Text}
    {e : TemplateError} (h : NameFault template before name e)
    (hmem : name ∈ before → name ∈ before') : NameFault template before' name e := by
  cases h with
  | numeric hall => exact .numeric hall
  | invalid hall hfirst => exact .invalid hall hfirst
  | duplicate hbegins h => exact .duplicate hbegins (hmem h)

theorem isDigit_eq_false_of_isAlpha {c : Char} (h : c.isAlpha = true) : c.isDigit = false := by
  delta Char.isAlpha Char.isUpper Char.isLower at h
  delta Char.isDigit
  simp only [Bool.or_eq_true, Bool.and_eq_true, decide_eq_true_eq, Bool.and_eq_false_iff,
    decide_eq_false_iff_not, UInt32.le_iff_toNat_le] at h ⊢
  grind

namespace BeginsName

theorem head?_not_digit {name : Text} (h : BeginsName name) :
    name.head?.any Char.isDigit = false := by
  obtain ⟨c, rest, rfl, hc | rfl⟩ := h
  · exact isDigit_eq_false_of_isAlpha hc
  · rfl

theorem not_number {name : Text} (h : BeginsName name) : name.all Char.isDigit = false := by
  obtain ⟨c, rest, rfl, hc⟩ := h
  have hdigit := head?_not_digit ⟨c, rest, rfl, hc⟩
  simp only [List.head?_cons, Option.any_some] at hdigit
  rw [List.all_cons, hdigit, Bool.false_and]

end BeginsName

/-- A name of word characters that does not start as it may is refused, whatever is before it. -/
theorem exists_nameFault (template : Text) (taken : List Text) {name : Text} (hne : name ≠ [])
    (hword : ∀ c ∈ name, isAsciiWordCharacter c = true) (h : ¬ BeginsName name) :
    ∃ e, NameFault template taken name e := by
  obtain ⟨c, rest, rfl⟩ := List.exists_cons_of_ne_nil hne
  have hdigit : c.isDigit = true := by
    have hc := hword c (List.mem_cons_self ..)
    simp only [isAsciiWordCharacter, Char.isAlphanum, Bool.or_eq_true, beq_iff_eq] at hc
    rcases hc with (hc | hc) | hc
    · exact absurd ⟨c, rest, rfl, .inl hc⟩ h
    · exact hc
    · exact absurd ⟨c, rest, rfl, .inr hc⟩ h
  cases hall : (c :: rest).all Char.isDigit with
  | true => exact ⟨_, .numeric hall⟩
  | false => exact ⟨_, .invalid hall hdigit⟩

/-- Names that are accepted after some others. -/
structure Usable (taken names : List Text) : Prop where
  /-- Each starts as a name may start. -/
  begins : ∀ n ∈ names, BeginsName n
  /-- None is one of the others. -/
  new : ∀ n ∈ names, n ∉ taken
  /-- No two are the same. -/
  nodup : names.Nodup

theorem usable_nil (taken : List Text) : Usable taken [] :=
  ⟨by simp, by simp, List.nodup_nil⟩

theorem usable_cons_iff {taken names : List Text} {name : Text} :
    Usable taken (name :: names) ↔
      BeginsName name ∧ name ∉ taken ∧ Usable (name :: taken) names := by
  constructor
  · rintro ⟨hbegins, hnew, hnodup⟩
    rw [List.forall_mem_cons] at hbegins hnew
    rw [List.nodup_cons] at hnodup
    refine ⟨hbegins.1, hnew.1, hbegins.2, fun n hn hmem => ?_, hnodup.2⟩
    rcases List.mem_cons.mp hmem with rfl | hmem
    · exact hnodup.1 hn
    · exact hnew.2 n hn hmem
  · rintro ⟨hbegin, hnot, hbegins, hnew, hnodup⟩
    refine ⟨List.forall_mem_cons.mpr ⟨hbegin, hbegins⟩, List.forall_mem_cons.mpr ⟨hnot, ?_⟩,
      List.nodup_cons.mpr ⟨fun hmem => hnew name hmem (List.mem_cons_self ..), hnodup⟩⟩
    exact fun n hn hmem => hnew n hn (List.mem_cons_of_mem _ hmem)

/-- Names that are accepted are passed over. -/
theorem checkNames_append (template : Text) {taken before : List Text} (h : Usable taken before)
    (names : List Text) :
    checkNames template taken (before ++ names) =
      checkNames template (before.reverse ++ taken) names := by
  induction before generalizing taken with
  | nil => rfl
  | cons name before ih =>
      obtain ⟨hbegin, hnew, hrest⟩ := usable_cons_iff.mp h
      rw [List.cons_append, checkNames, if_neg (by simp [hbegin.not_number]),
        if_neg (by simp [hbegin.head?_not_digit]), if_neg (by simpa using hnew), ih hrest]
      simp

/-- A name with a fault is refused for it. -/
theorem checkNames_of_nameFault {template : Text} {taken : List Text} {name : Text}
    {e : TemplateError} (h : NameFault template taken name e) (names : List Text) :
    checkNames template taken (name :: names) = .error e := by
  rw [checkNames]
  cases h with
  | numeric hall => rw [if_pos hall]
  | invalid hall hfirst => rw [if_neg (by simp [hall]), if_pos hfirst]
  | duplicate hbegins hmem =>
      rw [if_neg (by simp [hbegins.not_number]), if_neg (by simp [hbegins.head?_not_digit]),
        if_pos (by simpa using hmem)]

/-- The first name that is refused, with those before it that are accepted. -/
def RefusedAt (template : Text) (taken names : List Text) (e : TemplateError) : Prop :=
  ∃ before name after, names = before ++ name :: after ∧ Usable taken before ∧
    NameFault template (taken ++ before) name e

theorem NameFault.refusedAt {template : Text} {taken : List Text} {name : Text}
    {e : TemplateError} (h : NameFault template taken name e) (names : List Text) :
    RefusedAt template taken (name :: names) e :=
  ⟨[], name, names, rfl, usable_nil taken, h.congr fun hmem => by rwa [List.append_nil]⟩

theorem RefusedAt.cons {template : Text} {taken names : List Text} {name : Text}
    {e : TemplateError} (hbegins : BeginsName name) (hnew : name ∉ taken)
    (h : RefusedAt template (name :: taken) names e) :
    RefusedAt template taken (name :: names) e := by
  obtain ⟨before, name', after, rfl, husable, hfault⟩ := h
  refine ⟨name :: before, name', after, rfl, usable_cons_iff.mpr ⟨hbegins, hnew, husable⟩,
    hfault.congr fun hmem => ?_⟩
  simp only [List.cons_append, List.mem_cons, List.mem_append] at hmem ⊢
  exact or_left_comm.mp hmem

/-- Names are accepted, or there is a first one that is not. -/
theorem usable_or_refusedAt (template : Text) {taken names : List Text}
    (hnames : ∀ n ∈ names, n ≠ [] ∧ ∀ c ∈ n, isAsciiWordCharacter c = true) :
    Usable taken names ∨ ∃ e, RefusedAt template taken names e := by
  induction names generalizing taken with
  | nil => exact .inl (usable_nil taken)
  | cons name names ih =>
      rw [List.forall_mem_cons] at hnames
      obtain ⟨⟨hne, hword⟩, hnames⟩ := hnames
      by_cases hbegins : BeginsName name
      · by_cases hmem : name ∈ taken
        · exact .inr ⟨_, (NameFault.duplicate hbegins hmem).refusedAt names⟩
        · rcases @ih (name :: taken) hnames with husable | ⟨e, hrefused⟩
          · exact .inl (usable_cons_iff.mpr ⟨hbegins, hmem, husable⟩)
          · exact .inr ⟨e, hrefused.cons hbegins hmem⟩
      · obtain ⟨e, hfault⟩ := exists_nameFault template taken hne hword hbegins
        exact .inr ⟨e, hfault.refusedAt names⟩

theorem checkNames_of_usable {template : Text} {taken names : List Text} (h : Usable taken names) :
    checkNames template taken names = .ok () := by
  have hpassed := checkNames_append template h []
  rwa [List.append_nil] at hpassed

theorem checkNames_of_refusedAt {template : Text} {taken names : List Text} {e : TemplateError}
    (h : RefusedAt template taken names e) : checkNames template taken names = .error e := by
  obtain ⟨before, name, after, rfl, husable, hfault⟩ := h
  rw [checkNames_append template husable]
  exact checkNames_of_nameFault (hfault.congr fun hmem => by simpa [or_comm] using hmem) after

section Checked

variable {template : Text} {taken names : List Text}
  (hnames : ∀ n ∈ names, n ≠ [] ∧ ∀ c ∈ n, isAsciiWordCharacter c = true)

include hnames

theorem checkNames_eq_ok_iff : checkNames template taken names = .ok () ↔ Usable taken names := by
  constructor
  · intro h
    rcases usable_or_refusedAt template hnames with husable | ⟨e, hrefused⟩
    · exact husable
    · rw [checkNames_of_refusedAt hrefused] at h
      cases h
  · exact checkNames_of_usable

/-- **The first name with a fault is refused**, and for that fault. -/
theorem checkNames_eq_error_iff {e : TemplateError} :
    checkNames template taken names = .error e ↔ RefusedAt template taken names e := by
  constructor
  · intro h
    rcases usable_or_refusedAt template hnames with husable | ⟨e', hrefused⟩
    · rw [checkNames_of_usable husable] at h
      cases h
    · rw [checkNames_of_refusedAt hrefused] at h
      cases h
      exact hrefused
  · exact checkNames_of_refusedAt

end Checked

theorem scanMarkers_eq (t : Text) :
    scanMarkers t = (checkNames t [] ((Marker.find t).map (·.slot.name))).map
      fun _ => Marker.find t := by
  rw [Marker.find, map_name_locate, scanMarkers, scan]
  cases checkNames t [] (slotNames (Piece.scan t)) <;> rfl

/-- The names of markers are those of slots. -/
theorem word_of_mem_names {t n : Text} (h : n ∈ (Marker.find t).map (·.slot.name)) :
    n ≠ [] ∧ ∀ c ∈ n, isAsciiWordCharacter c = true := by
  obtain ⟨m, hm, rfl⟩ := List.mem_map.mp h
  obtain ⟨hne, hword⟩ := (Marker.mem_find_iff.mp hm).named
  exact ⟨hne, hword⟩

theorem scanMarkers_eq_ok_iff {t : Text} {ms : List Marker} :
    scanMarkers t = .ok ms ↔
      Usable [] ((Marker.find t).map (·.slot.name)) ∧ ms = Marker.find t := by
  have hcheck := @checkNames_eq_ok_iff t [] _ fun n => @word_of_mem_names t n
  rw [scanMarkers_eq, map_eq_ok, ← hcheck]
  constructor
  · rintro ⟨u, hcheck, rfl⟩
    exact ⟨hcheck, rfl⟩
  · rintro ⟨hcheck, rfl⟩
    exact ⟨(), hcheck, rfl⟩

theorem exists_scanMarkers_iff {t : Text} :
    (∃ ms, scanMarkers t = .ok ms) ↔ Usable [] ((Marker.find t).map (·.slot.name)) := by
  constructor
  · rintro ⟨ms, h⟩
    exact (scanMarkers_eq_ok_iff.mp h).1
  · intro h
    exact ⟨_, scanMarkers_eq_ok_iff.mpr ⟨h, rfl⟩⟩

theorem scanMarkers_eq_error_iff {t : Text} {e : TemplateError} :
    scanMarkers t = .error e ↔ RefusedAt t [] ((Marker.find t).map (·.slot.name)) e := by
  rw [scanMarkers_eq, ← checkNames_eq_error_iff fun n => word_of_mem_names]
  cases checkNames t [] ((Marker.find t).map (·.slot.name)) with
  | ok u => exact ⟨nofun, nofun⟩
  | error e' => exact ⟨fun h => by cases h; rfl, fun h => by cases h; rfl⟩

theorem usable_names_iff {ms : List Marker} :
    Usable [] (ms.map (·.slot.name)) ↔
      (∀ m ∈ ms, BeginsName m.slot.name) ∧ (ms.map (·.slot.name)).Nodup := by
  constructor
  · rintro ⟨hbegins, -, hnodup⟩
    exact ⟨fun m hm => hbegins _ (List.mem_map_of_mem hm), hnodup⟩
  · rintro ⟨hbegins, hnodup⟩
    exact ⟨List.forall_mem_map.mpr hbegins, by simp, hnodup⟩

theorem refusedAt_names_iff {t : Text} {ms : List Marker} {e : TemplateError} :
    RefusedAt t [] (ms.map (·.slot.name)) e ↔
      ∃ before m after, ms = before ++ m :: after ∧
        Usable [] (before.map (·.slot.name)) ∧
        NameFault t (before.map (·.slot.name)) m.slot.name e := by
  constructor
  · rintro ⟨names, name, names', hnames, husable, hfault⟩
    obtain ⟨before, rest, rfl, rfl, hrest⟩ := List.map_eq_append_iff.mp hnames
    obtain ⟨m, after, rfl, rfl, -⟩ := List.map_eq_cons_iff.mp hrest
    exact ⟨before, m, after, rfl, husable, hfault⟩
  · rintro ⟨before, m, after, rfl, husable, hfault⟩
    exact ⟨_, _, _, List.map_append, husable, hfault⟩

/-- What some markers of a text say. -/
structure Marker.MarkAll (ms : List Marker) (t : Text) : Prop where
  /-- They are where a slot stands, and everywhere. -/
  places : ∀ m, m ∈ ms ↔ m.StandsIn t
  /-- They go from left to right, and none overlaps another. -/
  apart : ms.Pairwise fun m m' => m.offset < m'.offset ∧ m.stop ≤ m'.offset
  /-- The text can be cut before and after each of them. -/
  cuts : ∀ m ∈ ms, ∃ before after,
    t.splitAtByte? m.offset = some (before, m.slot.write ++ after) ∧
      t.splitAtByte? m.stop = some (before ++ m.slot.write, after)
  /-- The characters outside of them can be cut out of the text. -/
  plain : plainFrom? t 0 ms = some ((Piece.scan t).filterMap Piece.char?)
  /-- The tokens around them can be cut out of the text. -/
  tokens : ∀ anything, tokensFrom? t anything 0 ms = some (tokenize (Piece.scan t) anything)

/-- **The markers of a text are all the places of its slots**, and the text is a template if their
names are those of variables, each used once. Otherwise the first name that is not is the error. -/
theorem markAll_scanMarkers (t : Text) :
    Marker.MarkAll (Marker.find t) t ∧
    ((∃ ms, scanMarkers t = .ok ms) ↔
      (∀ m ∈ Marker.find t, BeginsName m.slot.name) ∧
        ((Marker.find t).map (·.slot.name)).Nodup) ∧
    (∀ ms, scanMarkers t = .ok ms → ms = Marker.find t) ∧
    ∀ e, scanMarkers t = .error e ↔
      ∃ before m after, Marker.find t = before ++ m :: after ∧
        (∀ m' ∈ before, BeginsName m'.slot.name) ∧ (before.map (·.slot.name)).Nodup ∧
        NameFault t (before.map (·.slot.name)) m.slot.name e := by
  refine ⟨?_, ?_, ?_, ?_⟩
  · exact {
      places := fun m => Marker.mem_find_iff
      apart := Marker.pairwise_find t
      cuts := fun m hm => (Marker.mem_find_iff.mp hm).splitAtByte?
      plain := plainText?_eq t
      tokens := tokensAt?_eq t }
  · rw [exists_scanMarkers_iff, usable_names_iff]
  · intro ms h
    exact (scanMarkers_eq_ok_iff.mp h).2
  · intro e
    rw [scanMarkers_eq_error_iff, refusedAt_names_iff]
    simp only [usable_names_iff, and_assoc]

end UriRouting.Template
