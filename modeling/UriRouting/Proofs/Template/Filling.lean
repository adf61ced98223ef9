import UriRouting.Proofs.Template.Split

/-!
# UriRouting.Proofs.Template.Filling

Putting values into a template, and getting them back. In a delimited template a variable
is followed by a separator or by nothing, so its value cannot be mistaken:

* `split_pathOf` — the path that is built from values has a split with these values;
* `reported_of_split` — every split of it has them, up to empty values.

The second part compares a split with the values token by token. A value that stopped short
would leave a text that does not start with the separator, and a value that ran over would
contain the separator.
-/

namespace UriRouting.Template

/-! ### Delimited templates -/

/-- The character that comes directly after a variable that some tokens follow. -/
def nextSeparator : List Token → Option Char
  | [] => none
  | .literal text :: _ => text.head?
  | .var v :: _ => v.separator

/-- Each variable is the last token, or takes no slashes and is directly followed by a
separator, be it that of a variable or the first character of a literal. -/
def Delimited : List Token → Prop
  | [] => True
  | .literal _ :: ts => Delimited ts
  | .var v :: ts =>
    (ts = [] ∨ v.isAnything = false ∧ (nextSeparator ts).any isSeparator = true) ∧ Delimited ts

/-- Whether a template is delimited. -/
instance decidableDelimited : (ts : List Token) → Decidable (Delimited ts)
  | [] => inferInstanceAs (Decidable True)
  | .literal _ :: ts => decidableDelimited ts
  | .var _ :: ts =>
    have := decidableDelimited ts
    inferInstanceAs (Decidable (_ ∧ Delimited ts))

/-- Values for the variables among the first `m` tokens that can be put there: they are not
empty and, unless the variable takes every text, have no slash and not the separator that
comes directly after the variable. -/
inductive Fits : List Token → Nat → List Text → Prop where
  | stop (ts : List Token) : Fits ts 0 []
  | literal {text : Text} {ts : List Token} {m : Nat} {values : List Text}
      (h : Fits ts m values) : Fits (.literal text :: ts) (m + 1) values
  | var {v : Variable} {ts : List Token} {m : Nat} {value : Text} {values : List Text}
      (hne : value ≠ [])
      (hvalue : v.isAnything = false → '/' ∉ value ∧ ∀ c ∈ nextSeparator ts, c ∉ value)
      (h : Fits ts m values) : Fits (.var v :: ts) (m + 1) (value :: values)

/-- The text of some tokens with values put in for the variables. -/
def fill : List Token → List Text → Text
  | .literal text :: ts, values => text ++ fill ts values
  | .var v :: ts, value :: values => v.separator.toList ++ value ++ fill ts values
  | _, _ => []

/-- The path for the first `m` tokens. Where even a variable at the start is left out, its
separator is not. -/
def pathOf : List Token → Nat → List Text → Text
  | .var v :: _, 0, _ => v.separator.toList
  | ts, m, values => fill (ts.take m) values

/-! ### What tokens follow each other -/

/-- The first character of some tokens that belongs to no slot. -/
def firstChar : List Token → Option Char
  | [] => none
  | .literal text :: ts => text.head?.or (firstChar ts)
  | .var v :: ts => v.separator.or (firstChar ts)

/-- What holds of all tokens that a template is cut into: no literal is empty, and a value
leaves out the first character that comes after its variable, if that is a separator. -/
def Cut : List Token → Prop
  | [] => True
  | .literal text :: ts => text ≠ [] ∧ Cut ts
  | .var v :: ts =>
    (v.isAnything = false →
      v.value = .segment ((firstChar ts).filter fun c => isSeparator c && c != '/')) ∧ Cut ts

theorem head?_reverse_eq (reversed : Text) :
    reversed.reverse.head? = (detach reversed).2.reverse.head?.or (detach reversed).1 := by
  cases reversed with
  | nil => rfl
  | cons c rest =>
      by_cases hc : isSeparator c = true
      · simp only [detach, if_pos hc, List.reverse_cons, List.head?_append, List.head?_cons]
      · simp only [detach, if_neg hc, Option.or_none]

theorem firstChar_literalToken_append (reversed : Text) (ts : List Token) :
    firstChar (literalToken reversed ++ ts) = reversed.reverse.head?.or (firstChar ts) := by
  unfold literalToken
  split
  · rename_i h
    rw [List.isEmpty_iff.mp h]
    rfl
  · rfl

theorem cut_literalToken_append {reversed : Text} {ts : List Token} (h : Cut ts) :
    Cut (literalToken reversed ++ ts) := by
  unfold literalToken
  split
  · exact h
  · rename_i hne
    exact ⟨by simpa using hne, h⟩

theorem firstChar_ofPieces (anything : List Text) (reversed : Text) (ps : List Piece) :
    firstChar (Token.ofPieces anything reversed ps) =
      reversed.reverse.head?.or (ps.filterMap Piece.char?).head? := by
  induction ps generalizing reversed with
  | nil =>
      have h := firstChar_literalToken_append reversed []
      rwa [List.append_nil] at h
  | cons p ps ih =>
      cases p with
      | char c =>
          rw [Token.ofPieces, ih]
          cases reversed with
          | nil => rfl
          | cons d rest => simp [Piece.char?]
      | slot s =>
          have hchars : (Piece.slot s :: ps).filterMap Piece.char? = ps.filterMap Piece.char? :=
            rfl
          rw [ofPieces_slot, firstChar_literalToken_append, firstChar, ih,
            head?_reverse_eq reversed, hchars, Option.or_assoc]
          rfl

/-- **The tokens of a template are cut where its pieces are.** -/
theorem cut_ofPieces (anything : List Text) (reversed : Text) (ps : List Piece) :
    Cut (Token.ofPieces anything reversed ps) := by
  induction ps generalizing reversed with
  | nil =>
      have h := @cut_literalToken_append reversed [] trivial
      rwa [List.append_nil] at h
  | cons p ps ih =>
      cases p with
      | char c => exact ih (c :: reversed)
      | slot s =>
          rw [ofPieces_slot]
          refine cut_literalToken_append ⟨fun hv => ?_, ih []⟩
          rw [firstChar_ofPieces]
          simp only [slotVariable, Variable.isAnything] at hv ⊢
          split at hv
          · simp at hv
          · rename_i h
            rw [if_neg h]
            rfl

/-! ### The path has the split -/

theorem sameChar_self (caseSensitive : Bool) (c : Char) : sameChar caseSensitive c c = true := by
  cases caseSensitive <;> simp [sameChar]

theorem spells_self (caseSensitive : Bool) (text : Text) : Spells caseSensitive text text :=
  List.forall₂_same.mpr fun c _ => sameChar_self caseSensitive c

/-- What a variable is followed by directly is the first character after it. -/
theorem firstChar_eq_nextSeparator {ts : List Token}
    (h : ts = [] ∨ (nextSeparator ts).any isSeparator = true) :
    firstChar ts = nextSeparator ts := by
  rcases h with rfl | hany
  · rfl
  · obtain ⟨c, hc, -⟩ := (Option.any_eq_true _ _).mp hany
    cases ts with
    | nil => rfl
    | cons token ts =>
        cases token with
        | literal text => rw [firstChar, show text.head? = some c from hc, hc, Option.some_or]
        | var v => rw [firstChar, show v.separator = some c from hc, hc, Option.some_or]

/-- A value that fits is a value of the class. -/
theorem admits_of_fits {v : Variable} {ts : List Token} (hcut : Cut (.var v :: ts))
    (hdelimited : Delimited (.var v :: ts)) {value : Text} (hne : value ≠ [])
    (hvalue : v.isAnything = false → '/' ∉ value ∧ ∀ c ∈ nextSeparator ts, c ∉ value) :
    v.value.Admits value := by
  cases hv : v.isAnything with
  | true =>
      rw [show v.value = .anything from beq_iff_eq.mp hv]
      trivial
  | false =>
      obtain ⟨hslash, hnext⟩ := hvalue hv
      have hfirst := firstChar_eq_nextSeparator (hdelimited.1.imp_right And.right)
      rw [hcut.1 hv, hfirst]
      refine ⟨hne, hslash, fun c hc => hnext c ?_⟩
      rw [Option.mem_def, Option.filter_eq_some_iff] at hc
      exact hc.1

theorem Delimited.tail {token : Token} {ts : List Token} (h : Delimited (token :: ts)) :
    Delimited ts := by
  cases token with
  | literal text => exact h
  | var v => exact h.2

theorem Cut.tail {token : Token} {ts : List Token} (h : Cut (token :: ts)) : Cut ts := by
  cases token with
  | literal text => exact h.2
  | var v => exact h.2

theorem Cut.of_append {ts ts' : List Token} (h : Cut (ts ++ ts')) : Cut ts' := by
  induction ts with
  | nil => exact h
  | cons t ts ih => exact ih h.tail

theorem Fits.le_length {ts : List Token} {m : Nat} {values : List Text} (h : Fits ts m values) :
    m ≤ ts.length := by
  induction h with
  | stop ts => exact Nat.zero_le _
  | literal _ ih | var _ _ _ ih => exact Nat.succ_le_succ ih

/-- The text that is built covers the tokens that are kept. -/
theorem covers_fill (caseSensitive : Bool) {ts : List Token} {m : Nat} {values : List Text}
    (hfits : Fits ts m values) (hcut : Cut ts) (hdelimited : Delimited ts) :
    Covers caseSensitive (ts.take m) (fill (ts.take m) values) (values.map some) := by
  induction hfits with
  | stop ts => exact .nil
  | literal _ ih =>
      exact .literal (spells_self caseSensitive _) (ih hcut.tail hdelimited.tail)
  | var hne hvalue _ ih =>
      exact .var (admits_of_fits hcut hdelimited hne hvalue) (ih hcut.tail hdelimited.tail)

theorem eq_var_of_firstOptional_eq_zero {ts : List Token} (hts : ts ≠ [])
    (h : firstOptional ts = 0) : ∃ v rest, ts = .var v :: rest := by
  cases ts with
  | nil => exact absurd rfl hts
  | cons token rest =>
      have hoptional : token.isOptional = true := by
        apply @isOptional_of_mem_drop (token :: rest)
        rw [h]
        exact List.mem_cons_self ..
      cases token with
      | literal text => cases hoptional
      | var v => exact ⟨v, rest, rfl⟩

theorem pathOf_of_pos {ts : List Token} {m : Nat} (hm : 0 < m) (values : List Text) :
    pathOf ts m values = fill (ts.take m) values := by
  unfold pathOf
  split
  · exact absurd hm (Nat.lt_irrefl 0)
  · rfl

/-- **The path that is built from values has a split with these values.** -/
theorem split_pathOf (caseSensitive : Bool) {ts : List Token} (hts : ts ≠ []) {m : Nat}
    {values : List Text} (hfits : Fits ts m values) (hleast : firstOptional ts ≤ m)
    (hcut : Cut ts) (hdelimited : Delimited ts) :
    Split caseSensitive ts (pathOf ts m values) (values.map some ++ leftOut (ts.drop m)) := by
  have hcovers := covers_fill caseSensitive hfits hcut hdelimited
  rcases Nat.eq_zero_or_pos (firstOptional ts) with hfirst | hfirst
  · obtain ⟨v, rest, rfl⟩ := eq_var_of_firstOptional_eq_zero hts hfirst
    cases hfits with
    | stop =>
        have h : Split caseSensitive (.var v :: rest)
            (v.separator.toList ++ (none : Option Text).getD [] ++ [])
            (none :: ([] ++ leftOut (rest.drop 0))) :=
          .leading 0 rfl hfirst (Nat.zero_le _) (by simp) .nil
        simpa [pathOf, leftOut, List.replicate_succ] using h
    | @var _ _ m value values hne hvalue h =>
        have hadmits : ∀ text ∈ some value, v.value.Admits text := by
          simpa using admits_of_fits hcut hdelimited hne hvalue
        exact .leading m rfl hfirst h.le_length hadmits
          (covers_fill caseSensitive h hcut.tail hdelimited.tail)
  · rw [pathOf_of_pos (Nat.lt_of_lt_of_le hfirst hleast)]
    exact .kept m hfirst hleast hfits.le_length hcovers

/-! ### There is no other split -/

theorem reported_some {value : Text} (h : value ≠ []) : reported (some value) = some value := by
  simp [reported, h]

@[simp] theorem map_reported_leftOut (ts : List Token) :
    (leftOut ts).map reported = leftOut ts := by
  rw [leftOut, List.map_replicate]
  rfl

/-- Nothing is reported from the empty text. -/
theorem map_reported_of_covers_nil {caseSensitive : Bool} {ts : List Token}
    {values : List (Option Text)} (h : Covers caseSensitive ts [] values) :
    values.map reported = leftOut ts := by
  generalize htext : ([] : Text) = text at h
  induction h with
  | nil => rfl
  | literal _ _ ih => exact ih (List.append_eq_nil_iff.mp htext.symm).2.symm
  | var _ _ ih =>
      obtain ⟨hleft, hright⟩ := List.append_eq_nil_iff.mp htext.symm
      obtain ⟨-, rfl⟩ := List.append_eq_nil_iff.mp hleft
      rw [List.map_cons, ih hright.symm]
      rfl

theorem map_reported_of_coversFirst_nil {caseSensitive : Bool} {ts : List Token}
    {values : List (Option Text)} (h : CoversFirst caseSensitive ts [] values) :
    values.map reported = leftOut ts := by
  obtain ⟨m, vs, -, hcovers, rfl⟩ := h
  rw [List.map_append, map_reported_of_covers_nil hcovers, map_reported_leftOut,
    ← leftOut_append, List.take_append_drop]

/-- What comes after a variable starts with the separator. -/
theorem eq_of_coversFirst {caseSensitive : Bool} {ts : List Token} {c d : Char} {text : Text}
    {values : List (Option Text)} (hnext : nextSeparator ts = some c)
    (hc : isSeparator c = true) (h : CoversFirst caseSensitive ts (d :: text) values) :
    d = c := by
  obtain ⟨m, vs, -, hcovers, -⟩ := h
  cases ts with
  | nil => cases hnext
  | cons token ts =>
      cases m with
      | zero =>
          cases (covers_nil_iff.mp hcovers).1
      | succ m =>
          rw [List.take_succ_cons] at hcovers
          generalize htext : d :: text = whole at hcovers
          cases hcovers with
          | @literal literal _ _ _ _ hpiece _ =>
              obtain ⟨literal', rfl⟩ := List.head?_eq_some_iff.mp hnext
              obtain ⟨c', piece, hsame, -, rfl⟩ := List.forall₂_cons_left_iff.mp hpiece
              rw [sameChar_of_isSeparator hc, beq_iff_eq] at hsame
              rw [List.cons_append, List.cons.injEq] at htext
              exact htext.1.trans hsame.symm
          | @var v _ _ _ _ _ _ =>
              rw [show v.separator = some c from hnext] at htext
              exact (List.cons.inj htext).1

theorem eq_nil_of_coversFirst_nil {caseSensitive : Bool} {text : Text}
    {found : List (Option Text)} (h : CoversFirst caseSensitive [] text found) : text = [] := by
  obtain ⟨m, vs, -, hcovers, -⟩ := h
  rw [List.take_nil] at hcovers
  exact (covers_nil_iff.mp hcovers).1

/-- A text that is not empty starts with a piece for the first token. -/
theorem coversFirst_literal {caseSensitive : Bool} {literal text : Text} {ts : List Token}
    {found : List (Option Text)} (hne : text ≠ [])
    (h : CoversFirst caseSensitive (.literal literal :: ts) text found) :
    ∃ piece rest, text = piece ++ rest ∧ Spells caseSensitive literal piece ∧
      CoversFirst caseSensitive ts rest found := by
  obtain ⟨m, vs, hm, hcovers, rfl⟩ := h
  cases m with
  | zero => exact absurd (covers_nil_iff.mp hcovers).1 hne
  | succ m =>
      rw [List.take_succ_cons] at hcovers
      cases hcovers with
      | literal hpiece h =>
          exact ⟨_, _, rfl, hpiece, m, vs, Nat.le_of_succ_le_succ hm, h, rfl⟩

theorem coversFirst_var {caseSensitive : Bool} {v : Variable} {text : Text} {ts : List Token}
    {found : List (Option Text)} (hne : text ≠ [])
    (h : CoversFirst caseSensitive (.var v :: ts) text found) :
    ∃ value rest found', text = v.separator.toList ++ (value ++ rest) ∧ v.value.Admits value ∧
      CoversFirst caseSensitive ts rest found' ∧ found = some value :: found' := by
  obtain ⟨m, vs, hm, hcovers, rfl⟩ := h
  cases m with
  | zero => exact absurd (covers_nil_iff.mp hcovers).1 hne
  | succ m =>
      rw [List.take_succ_cons] at hcovers
      cases hcovers with
      | @var _ value rest _ vs hvalue h =>
          exact ⟨value, rest, _, List.append_assoc .., hvalue,
            ⟨m, vs, Nat.le_of_succ_le_succ hm, h, rfl⟩, rfl⟩

/-- Two values end in the same place if neither contains what comes after the other. -/
theorem eq_of_append_eq {x y s t : Text} (h : x ++ s = y ++ t) (hs : ∀ c ∈ s.head?, c ∉ y)
    (ht : ∀ c ∈ t.head?, c ∉ x) : x = y ∧ s = t := by
  rcases List.append_eq_append_iff.mp h with ⟨a, rfl, rfl⟩ | ⟨a, rfl, rfl⟩
  · cases a with
    | nil => exact ⟨(List.append_nil x).symm, rfl⟩
    | cons c a => exact absurd (by simp) (hs c rfl)
  · cases a with
    | nil => exact ⟨List.append_nil y, rfl⟩
    | cons c a => exact absurd (by simp) (ht c rfl)

/-- A value of a variable does not contain the separator that is the first character after
it, other variables aside. -/
theorem not_mem_of_firstChar {v : Variable} {ts : List Token} {c : Char} {value : Text}
    (hcut : Cut (.var v :: ts)) (hv : v.isAnything = false) (hfirst : firstChar ts = some c)
    (hc : isSeparator c = true) (h : v.value.Admits value) : c ∉ value := by
  rw [hcut.1 hv, hfirst] at h
  obtain ⟨-, hslash, hexcluded⟩ := h
  by_cases heq : c = '/'
  · rw [heq]
    exact hslash
  · exact hexcluded c (by simp [Option.filter, hc, heq])

/-- A value of a variable does not contain the separator that comes next. -/
theorem not_mem_of_admits {v : Variable} {ts : List Token} {c : Char} {value : Text}
    (hcut : Cut (.var v :: ts)) (hv : v.isAnything = false) (hnext : nextSeparator ts = some c)
    (hc : isSeparator c = true) (h : v.value.Admits value) : c ∉ value := by
  have hany : (nextSeparator ts).any isSeparator = true := by
    rw [hnext, Option.any_some, hc]
  exact not_mem_of_firstChar hcut hv ((firstChar_eq_nextSeparator (.inr hany)).trans hnext) hc h

/-- The value that was put in for a variable, and what comes after it, are found again. -/
theorem value_unique {caseSensitive : Bool} {v : Variable} {ts : List Token}
    (hcut : Cut (.var v :: ts)) (hdelimited : Delimited (.var v :: ts)) {x y s t : Text}
    {vs ws : List (Option Text)}
    (hx : v.isAnything = false → '/' ∉ x ∧ ∀ c ∈ nextSeparator ts, c ∉ x)
    (hy : v.value.Admits y) (hs : CoversFirst caseSensitive ts s vs)
    (ht : CoversFirst caseSensitive ts t ws) (h : x ++ s = y ++ t) : x = y ∧ s = t := by
  rcases hdelimited.1 with rfl | ⟨hv, hany⟩
  · rw [eq_nil_of_coversFirst_nil hs, eq_nil_of_coversFirst_nil ht] at h ⊢
    exact eq_of_append_eq h (by simp) (by simp)
  · obtain ⟨c, hnext, hc⟩ := (Option.any_eq_true _ _).mp hany
    have hhead : ∀ {u : Text} {us : List (Option Text)}, CoversFirst caseSensitive ts u us →
        ∀ d ∈ u.head?, d = c := by
      intro u us hu d hd
      obtain ⟨u', rfl⟩ := List.head?_eq_some_iff.mp hd
      exact eq_of_coversFirst hnext hc hu
    refine eq_of_append_eq h (fun d hd => ?_) fun d hd => ?_
    · rw [hhead hs d hd]
      exact not_mem_of_admits hcut hv hnext hc hy
    · rw [hhead ht d hd]
      exact (hx hv).2 c hnext

theorem coversFirst_fill (caseSensitive : Bool) {ts : List Token} {m : Nat} {values : List Text}
    (hfits : Fits ts m values) (hcut : Cut ts) (hdelimited : Delimited ts) :
    CoversFirst caseSensitive ts (fill (ts.take m) values)
      (values.map some ++ leftOut (ts.drop m)) :=
  ⟨m, _, hfits.le_length, covers_fill caseSensitive hfits hcut hdelimited, rfl⟩

/-- **What is reported of a text that is built from values** are these values. The induction
is on the tokens that are kept; at each variable the values end in the same place, since
neither contains the separator that the rest of the text starts with. -/
theorem map_reported_of_coversFirst {caseSensitive : Bool} {ts : List Token} {m : Nat}
    {values : List Text} (hfits : Fits ts m values) (hcut : Cut ts) (hdelimited : Delimited ts)
    {found : List (Option Text)}
    (h : CoversFirst caseSensitive ts (fill (ts.take m) values) found) :
    found.map reported = values.map some ++ leftOut (ts.drop m) := by
  induction hfits generalizing found with
  | stop ts => exact map_reported_of_coversFirst_nil h
  | @literal text ts m values hfits ih =>
      have hne : fill ((Token.literal text :: ts).take (m + 1)) values ≠ [] := by
        intro hnil
        exact hcut.1 (List.append_eq_nil_iff.mp hnil).1
      obtain ⟨piece, rest, heq, hpiece, hrest⟩ := coversFirst_literal hne h
      -- a piece for a literal is as long as the literal, so the rest is the same
      obtain ⟨-, rfl⟩ := List.append_inj heq hpiece.length_eq
      exact ih hcut.tail hdelimited.tail hrest
  | @var v ts m value values hne hvalue hfits ih =>
      have hfill : fill ((Token.var v :: ts).take (m + 1)) (value :: values) =
          v.separator.toList ++ (value ++ fill (ts.take m) values) :=
        List.append_assoc ..
      have hne' : fill ((Token.var v :: ts).take (m + 1)) (value :: values) ≠ [] := by
        rw [hfill]
        simp [hne]
      obtain ⟨found', rest, founds, heq, hadmits, hrest, rfl⟩ := coversFirst_var hne' h
      rw [hfill, List.append_cancel_left_eq] at heq
      obtain ⟨rfl, rfl⟩ := value_unique hcut hdelimited hvalue hadmits
        (coversFirst_fill caseSensitive hfits hcut.tail hdelimited.tail) hrest heq
      rw [List.map_cons, reported_some hne, ih hcut.tail hdelimited.tail hrest]
      rfl

/-- A variable at the start that got a value has it in every split. -/
theorem first_ne_none {caseSensitive : Bool} {v : Variable} {rest : List Token}
    (hdelimited : Delimited (.var v :: rest)) {value text : Text} {found : List (Option Text)}
    (hne : value ≠ [])
    (hvalue : v.isAnything = false → '/' ∉ value ∧ ∀ c ∈ nextSeparator rest, c ∉ value) :
    ¬ CoversFirst caseSensitive rest (value ++ text) found := by
  intro h
  obtain ⟨d, value', rfl⟩ := List.exists_cons_of_ne_nil hne
  rcases hdelimited.1 with rfl | ⟨hv, hany⟩
  · cases eq_nil_of_coversFirst_nil h
  · obtain ⟨c, hnext, hc⟩ := (Option.any_eq_true _ _).mp hany
    have hd : d = c := eq_of_coversFirst hnext hc h
    exact (hvalue hv).2 c hnext (hd ▸ List.mem_cons_self ..)

/-- **Every split of a path that is built from values has these values**, as far as they
are reported. -/
theorem reported_of_split {caseSensitive : Bool} {ts : List Token} {m : Nat}
    {values : List Text} (hfits : Fits ts m values) (hleast : firstOptional ts ≤ m)
    (hcut : Cut ts) (hdelimited : Delimited ts) {found : List (Option Text)}
    (h : Split caseSensitive ts (pathOf ts m values) found) :
    found.map reported = values.map some ++ leftOut (ts.drop m) := by
  generalize hpath : pathOf ts m values = path at h
  cases h with
  | kept n hfirst _ hmost hcovers =>
      rw [pathOf_of_pos (Nat.lt_of_lt_of_le hfirst hleast)] at hpath
      subst hpath
      exact map_reported_of_coversFirst hfits hcut hdelimited ⟨n, _, hmost, hcovers, rfl⟩
  | @leading v rest first text vs n hts _ hmost hvalue hcovers =>
      subst hts
      have hrest : CoversFirst caseSensitive rest text (vs ++ leftOut (rest.drop n)) :=
        ⟨n, vs, hmost, hcovers, rfl⟩
      rw [List.append_assoc] at hpath
      cases hfits with
      | stop =>
          -- nothing but the separator is there
          have hnil : first.getD [] ++ text = [] := by
            rw [pathOf, ← List.append_nil v.separator.toList, List.append_assoc,
              List.append_cancel_left_eq] at hpath
            exact hpath.symm
          obtain ⟨hfirst, rfl⟩ := List.append_eq_nil_iff.mp hnil
          have hreported : reported first = none := by
            cases first with
            | none => rfl
            | some value => rw [show value = [] from hfirst]; rfl
          rw [List.map_cons, hreported, map_reported_of_coversFirst_nil hrest]
          rfl
      | @var _ _ m value values hne hx hfits =>
          have hfill : pathOf (.var v :: rest) (m + 1) (value :: values) =
              v.separator.toList ++ (value ++ fill (rest.take m) values) :=
            List.append_assoc ..
          rw [hfill, List.append_cancel_left_eq] at hpath
          cases first with
          | none =>
              -- then the rest would have to start with the value, and not with a separator
              have htext : value ++ fill (rest.take m) values = text := hpath
              exact absurd (htext ▸ hrest) (first_ne_none hdelimited hne hx)
          | some found =>
              obtain ⟨rfl, rfl⟩ := value_unique hcut hdelimited hx (hvalue found rfl)
                (coversFirst_fill caseSensitive hfits hcut.tail hdelimited.tail) hrest hpath
              rw [List.map_cons, reported_some hne,
                map_reported_of_coversFirst hfits hcut.tail hdelimited.tail hrest]
              rfl

end UriRouting.Template
