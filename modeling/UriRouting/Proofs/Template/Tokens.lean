import UriRouting.Proofs.Template.Markers

/-!
# UriRouting.Proofs.Template.Tokens

What the tokens of a template keep of it.

* `render_tokenize` — the tokens written one after another are the template;
* `wellSpaced_ofPieces` — literals are not empty, and no two of them are adjacent;
* `Scans.forall₂_standsFor` — the variables stand for the markers one by one, each with the
  separator directly before its marker, if there is one (`StandsFor`);
* `ofPieces_eq_map_opened` — variables that take every text differ in this only.
-/

namespace UriRouting.Template

/-! ### Tokens written back -/

@[simp] theorem render_append (ts ts' : List Token) :
    Token.render (ts ++ ts') = Token.render ts ++ Token.render ts' :=
  List.flatMap_append

@[simp] theorem render_cons (t : Token) (ts : List Token) :
    Token.render (t :: ts) = t.write ++ Token.render ts := rfl

theorem render_literalToken (reversed : Text) :
    Token.render (literalToken reversed) = reversed.reverse := by
  cases reversed with
  | nil => rfl
  | cons c rest => exact List.append_nil _

/-- What a slot takes from the text before it is put back in front of the slot. -/
theorem reverse_detach_append (reversed : Text) :
    (detach reversed).2.reverse ++ (detach reversed).1.toList = reversed.reverse := by
  cases reversed with
  | nil => rfl
  | cons c rest => by_cases hc : isSeparator c = true <;> simp [detach, hc]

theorem render_ofPieces (anything : List Text) (reversed : Text) (ps : List Piece) :
    Token.render (Token.ofPieces anything reversed ps) =
      reversed.reverse ++ ps.flatMap Piece.write := by
  induction ps generalizing reversed with
  | nil => rw [Token.ofPieces, render_literalToken, List.flatMap_nil, List.append_nil]
  | cons p ps ih =>
      cases p with
      | char c =>
          rw [Token.ofPieces, ih, List.reverse_cons, List.append_assoc, List.flatMap_cons]
          rfl
      | slot s =>
          have hvar : (Token.var (slotVariable anything reversed s ps)).write =
              (detach reversed).1.toList ++ s.write := rfl
          rw [ofPieces_slot, render_append, render_literalToken, render_cons, ih, hvar,
            List.append_assoc, ← List.append_assoc, reverse_detach_append, List.flatMap_cons]
          rfl

/-- **Tokens written one after another are the template.** -/
theorem render_tokenize (template : Text) (anything : List Text) :
    Token.render (tokenize (Piece.scan template) anything) = template := by
  rw [tokenize, render_ofPieces, List.reverse_nil, List.nil_append, flatMap_write_scan]

/-! ### Literals -/

/-- Tokens of which no literal is empty, and no two adjacent ones are both literals. -/
structure WellSpaced (ts : List Token) : Prop where
  /-- No literal is empty. -/
  ne_nil : ∀ text, .literal text ∈ ts → text ≠ []
  /-- One of two adjacent tokens is a variable. -/
  apart : ts.IsChain fun t t' => t.var?.isSome ∨ t'.var?.isSome

theorem wellSpaced_literalToken (reversed : Text) : WellSpaced (literalToken reversed) := by
  cases reversed with
  | nil => exact ⟨by simp [literalToken], .nil⟩
  | cons c rest => exact ⟨by simp [literalToken], .singleton _⟩

theorem WellSpaced.var_cons {ts : List Token} (h : WellSpaced ts) (v : Variable) :
    WellSpaced (.var v :: ts) where
  ne_nil := fun text hmem => h.ne_nil text ((List.mem_cons.mp hmem).resolve_left nofun)
  apart := by
    cases ts with
    | nil => exact .singleton _
    | cons t ts => exact .cons_cons (.inl rfl) h.apart

theorem WellSpaced.literalToken_append {ts : List Token} {v : Variable}
    (h : WellSpaced (.var v :: ts)) (reversed : Text) :
    WellSpaced (literalToken reversed ++ .var v :: ts) := by
  cases reversed with
  | nil => exact h
  | cons c rest =>
      refine ⟨fun text hmem => ?_, .cons_cons (.inr rfl) h.apart⟩
      rcases List.mem_append.mp hmem with hmem | hmem
      · exact (wellSpaced_literalToken (c :: rest)).ne_nil text hmem
      · exact h.ne_nil text hmem

/-- **Literals are not empty, and a variable stands between any two.** -/
theorem wellSpaced_ofPieces (anything : List Text) (reversed : Text) (ps : List Piece) :
    WellSpaced (Token.ofPieces anything reversed ps) := by
  induction ps generalizing reversed with
  | nil => exact wellSpaced_literalToken reversed
  | cons p ps ih =>
      cases p with
      | char c => exact ih (c :: reversed)
      | slot s =>
          rw [ofPieces_slot]
          exact ((ih []).var_cons _).literalToken_append _

/-! ### Variables -/

/-- A separator stands directly before the slot of a marker, and behind every slot before it. -/
def Marker.SeparatedBy (m : Marker) (t : Text) (c : Char) : Prop :=
  isSeparator c = true ∧ ∃ before after, t = before ++ c :: (m.slot.write ++ after) ∧
    Text.utf8Size (before ++ [c]) = m.offset ∧
    ∀ m' ∈ Marker.find t, m'.offset < m.offset → m'.stop ≤ Text.utf8Size before

/-- What a variable has of the marker that it stands for. -/
structure StandsFor (t : Text) (m : Marker) (v : Variable) : Prop where
  /-- Its name. -/
  name : v.name = m.slot.name
  /-- Whether it may be left out. -/
  optional : v.optional = m.slot.optional
  /-- The separator before it. -/
  separator : ∀ c, v.separator = some c ↔ m.SeparatedBy t c

theorem detach_eq_some_iff {reversed : Text} {c : Char} :
    (detach reversed).1 = some c ↔ isSeparator c = true ∧ reversed.head? = some c := by
  cases reversed with
  | nil => simp [detach]
  | cons d rest =>
      by_cases hd : isSeparator d = true
      · simp only [detach, hd, if_true, Option.some.injEq, List.head?_cons]
        exact ⟨fun h => ⟨h ▸ hd, h⟩, And.right⟩
      · simp only [detach, hd, Bool.false_eq_true, if_false, reduceCtorEq, List.head?_cons,
          Option.some.injEq, false_iff, not_and]
        rintro hc rfl
        exact hd hc

theorem Slot.exists_write_eq (s : Slot) : ∃ t, s.write = t ++ ['}'] := by
  cases hopt : s.optional with
  | false => exact ⟨'{' :: s.name, by simp [write, hopt]⟩
  | true => exact ⟨'{' :: (s.name ++ ['?']), by simp [write, hopt]⟩

/-- A slot ends in a brace, which separates nothing. -/
theorem Slot.isSeparator_getLast? {s : Slot} {t : Text} {c : Char}
    (h : (t ++ s.write).getLast? = some c) : isSeparator c = false := by
  obtain ⟨u, hu⟩ := s.exists_write_eq
  rw [hu, ← List.append_assoc, List.getLast?_concat] at h
  cases h
  decide

/-- What separates a slot is what the slot takes from the text before it. Some of the text is done,
up to a slot, and some characters between the two slots are still to be taken. -/
theorem separatedBy_iff {t done pending after : Text} {s : Slot}
    (ht : t = done ++ pending ++ (s.write ++ after))
    (hbehind : ∀ m ∈ Marker.find t, m.offset < Text.utf8Size (done ++ pending) →
      m.stop ≤ Text.utf8Size done)
    (hdone : ∀ c, done.getLast? = some c → isSeparator c = false) {c : Char} :
    Marker.SeparatedBy ⟨s, Text.utf8Size (done ++ pending)⟩ t c ↔
      (detach pending.reverse).1 = some c := by
  rw [detach_eq_some_iff, List.head?_reverse]
  refine and_congr_right fun hc => ?_
  constructor
  · rintro ⟨before, after', ht', hsize, -⟩
    rw [← List.singleton_append, ← List.append_assoc, ht] at ht'
    obtain ⟨hbefore, -⟩ := Text.append_inj_of_utf8Size ht' hsize.symm
    have hlast : (done ++ pending).getLast? = some c := by
      rw [hbefore, List.getLast?_concat]
    cases hpending : pending.getLast? with
    | some d => rwa [List.getLast?_append, hpending, Option.some_or] at hlast
    | none =>
        rw [List.getLast?_append, hpending, Option.none_or] at hlast
        exact absurd hc (by simp [hdone c hlast])
  · intro hlast
    obtain ⟨pending, rfl⟩ := List.getLast?_eq_some_iff.mp hlast
    refine ⟨done ++ pending, after, by simp [ht], by rw [List.append_assoc], ?_⟩
    intro m hm hlt
    have hstop := hbehind m hm hlt
    rw [Text.utf8Size_append]
    omega

namespace Scans

/-- The variables for the slots in the rest of a text. Some of the text is done, up to a slot, and
some characters before the rest are still to be taken. -/
theorem forall₂_standsFor {rest : Text} {ps : List Piece} (h : Scans rest ps)
    (anything : List Text) {t : Text} (done pending : Text) (earlier : List Marker)
    (ht : t = done ++ pending ++ rest)
    (hfind : Marker.find t = earlier ++ Marker.locate (Text.utf8Size (done ++ pending)) ps)
    (hearlier : ∀ m ∈ earlier, m.stop ≤ Text.utf8Size done)
    (hdone : ∀ c, done.getLast? = some c → isSeparator c = false) :
    List.Forall₂ (StandsFor t) (Marker.locate (Text.utf8Size (done ++ pending)) ps)
      (variablesOf (Token.ofPieces anything pending.reverse ps)) := by
  induction h generalizing done pending earlier with
  | nil =>
      rw [Marker.locate, Token.ofPieces, variablesOf_literalToken]
      exact .nil
  | @slot s rest ps _ _ ih =>
      have hbehind (m : Marker) (hm : m ∈ Marker.find t)
          (hlt : m.offset < Text.utf8Size (done ++ pending)) : m.stop ≤ Text.utf8Size done := by
        rw [hfind] at hm
        rcases List.mem_append.mp hm with hm | hm
        · exact hearlier m hm
        · have hle := Marker.le_offset_of_mem_locate hm
          omega
      -- the slot is done from here on, and its marker is one of the earlier ones
      have hstops (m : Marker) (hm : m ∈ earlier ++ [⟨s, Text.utf8Size (done ++ pending)⟩]) :
          m.stop ≤ Text.utf8Size (done ++ pending ++ s.write) := by
        rw [Text.utf8Size_append]
        rcases List.mem_append.mp hm with hm | hm
        · have hstop := hearlier m hm
          rw [Text.utf8Size_append]
          omega
        · rw [List.mem_singleton.mp hm]
          exact Nat.le_refl _
      have hrest := ih (done ++ pending ++ s.write) []
        (earlier ++ [⟨s, Text.utf8Size (done ++ pending)⟩]) (by simp [ht])
        (by rw [hfind]; simp [Marker.locate, Nat.add_assoc]) hstops
        (fun c => Slot.isSeparator_getLast?)
      rw [List.append_nil, Text.utf8Size_append _ s.write] at hrest
      rw [Marker.locate, ofPieces_slot, variablesOf_append, variablesOf_literalToken,
        List.nil_append, variablesOf_var]
      refine .cons ⟨rfl, rfl, fun c => ?_⟩ hrest
      exact (separatedBy_iff ht hbehind hdone).symm
  | @char c rest ps _ _ ih =>
      have hsize : Text.utf8Size (done ++ (pending ++ [c])) =
          Text.utf8Size (done ++ pending) + c.utf8Size := by
        simp [Nat.add_assoc]
      have hrest := ih done (pending ++ [c]) earlier (by simp [ht]) (by rw [hfind, hsize]; rfl)
        hearlier hdone
      rwa [hsize, List.reverse_append] at hrest

end Scans

/-! ### Variables that take every text -/

/-- The token with every text for its values, if it is a variable of one of some names. -/
def Token.opened (anything : List Text) : Token → Token
  | .literal text => .literal text
  | .var v => .var { v with value := if anything.elem v.name then .anything else v.value }

theorem ofPieces_eq_map_opened (anything : List Text) (reversed : Text) (ps : List Piece) :
    Token.ofPieces anything reversed ps =
      (Token.ofPieces [] reversed ps).map (Token.opened anything) := by
  have hliteral (reversed : Text) :
      (literalToken reversed).map (Token.opened anything) = literalToken reversed := by
    cases reversed <;> rfl
  induction ps generalizing reversed with
  | nil => exact (hliteral reversed).symm
  | cons p ps ih =>
      cases p with
      | char c => exact ih (c :: reversed)
      | slot s =>
          rw [ofPieces_slot, ofPieces_slot, List.map_append, List.map_cons, hliteral, ih []]
          rfl

/-- **Cutting a template into tokens loses nothing.** Written one after another, the tokens are the
template; no literal is empty or adjacent to another; the variables stand for the markers, in order
and with the separators before them; and which variables take every text changes nothing but the
texts that they take. -/
theorem tokenize_lossless (template : Text) (anything : List Text) :
    Token.render (tokenize (Piece.scan template) anything) = template ∧
    WellSpaced (tokenize (Piece.scan template) anything) ∧
    List.Forall₂ (StandsFor template) (Marker.find template)
      (variablesOf (tokenize (Piece.scan template) anything)) ∧
    tokenize (Piece.scan template) anything =
      (tokenize (Piece.scan template) []).map (Token.opened anything) := by
  refine ⟨render_tokenize template anything, wellSpaced_ofPieces anything [] _, ?_,
    ofPieces_eq_map_opened anything [] _⟩
  exact (scans_scan template).forall₂_standsFor anything [] [] [] rfl rfl (by simp) (by simp)

end UriRouting.Template
