import UriRouting.Proofs.Text.Case
import UriRouting.Request.Constraints

/-!
# UriRouting.Proofs.Request.Constraints

What a list of values permits, in terms of the list as it was given.

* `AllowList.admits_ofValues` — a list without an entry that is more than white space permits
  all requests, and any other one permits the values that agree with an entry in all but case
  and white space at the ends (`Permits`);
* `Rewritten.permits_iff` — how the entries are spelled, ordered and repeated, and whether there
  are blank ones among them, makes no difference;
* `AllowList.ofValues_getD` — a list that is kept is the one that comes of its own entries.

Methods are kept in capitals and the rest in small letters. Both are foldings (`Folds`), and
nothing else is used of either.
-/

namespace UriRouting

/-! ### Entries and values -/

/-- The form that values are compared in. -/
def Text.essence (t : Text) : Text :=
  t.trim.lower

@[simp] theorem Text.essence_eq_nil_iff {t : Text} : t.essence = [] ↔ t.trim = [] :=
  lower_eq_nil_iff

/-- Two texts differ in the case of letters of ASCII and in white space at the ends only. -/
def SameSpelling (s t : Text) : Prop :=
  s.essence = t.essence

instance (s t : Text) : Decidable (SameSpelling s t) :=
  inferInstanceAs (Decidable (s.essence = t.essence))

/-- What a list of values, as it was given, permits: everything if it has no entry that is more
than white space, and else what agrees with such an entry. -/
def Permits (values : List Text) (value : Option Text) : Prop :=
  (∀ e ∈ values, e.trim = []) ∨
    ∃ v, value = some v ∧ ∃ e ∈ values, e.trim ≠ [] ∧ e.trim.lower = v.trim.lower

/-- Ways to write a list differently. -/
inductive Rewritten : List Text → List Text → Prop where
  /-- The entries are spelled differently. -/
  | respell {values values' : List Text} (h : List.Forall₂ SameSpelling values values') :
      Rewritten values values'
  /-- The entries are in another order. -/
  | reorder {values values' : List Text} (h : values.Perm values') : Rewritten values values'
  /-- An entry is repeated. -/
  | again {values : List Text} {e : Text} (h : e ∈ values) : Rewritten values (e :: values)
  /-- There is one more blank entry. -/
  | pad {values : List Text} {e : Text} (h : e.trim = []) : Rewritten values (e :: values)
  /-- Backwards. -/
  | symm {values values' : List Text} (h : Rewritten values values') : Rewritten values' values
  /-- One after the other. -/
  | trans {values values' values'' : List Text} (h : Rewritten values values')
      (h' : Rewritten values' values'') : Rewritten values values''

/-- Lists with the same entries, blank ones and spelling aside. -/
def SameEntries (values values' : List Text) : Prop :=
  ∀ x, x ≠ [] → (x ∈ values.map Text.essence ↔ x ∈ values'.map Text.essence)

theorem map_essence_eq {values values' : List Text} (h : List.Forall₂ SameSpelling values values') :
    values.map Text.essence = values'.map Text.essence := by
  induction h with
  | nil => rfl
  | cons hhead _ ih => rw [List.map_cons, List.map_cons, hhead, ih]

theorem Rewritten.sameEntries {values values' : List Text} (h : Rewritten values values') :
    SameEntries values values' := by
  induction h with
  | respell h =>
      intro x _
      rw [map_essence_eq h]
  | reorder h =>
      intro x _
      exact (h.map Text.essence).mem_iff
  | again h =>
      intro x _
      rw [List.map_cons, List.mem_cons]
      exact ⟨.inr, fun hx => hx.elim (fun hx => hx ▸ List.mem_map_of_mem h) id⟩
  | pad h =>
      intro x hx
      have hne : ¬ x = Text.essence _ := fun heq => hx (heq.trans (Text.essence_eq_nil_iff.mpr h))
      rw [List.map_cons, List.mem_cons, or_iff_right hne]
  | symm _ ih => exact fun x hx => (ih x hx).symm
  | trans _ _ ih ih' => exact fun x hx => (ih x hx).trans (ih' x hx)

theorem permits_iff (values : List Text) (value : Option Text) :
    Permits values value ↔ (∀ x ∈ values.map Text.essence, x = []) ∨
      ∃ x ∈ values.map Text.essence, x ≠ [] ∧ value.map Text.essence = some x := by
  have hblank : (∀ e ∈ values, e.trim = []) ↔ ∀ x ∈ values.map Text.essence, x = [] := by
    simp
  rw [Permits, hblank]
  refine or_congr_right ?_
  constructor
  · rintro ⟨v, rfl, e, he, hne, heq⟩
    exact ⟨e.essence, List.mem_map_of_mem he, by simpa using hne, congrArg some heq.symm⟩
  · rintro ⟨_, hx, hne, heq⟩
    obtain ⟨e, he, rfl⟩ := List.mem_map.mp hx
    obtain ⟨v, rfl, hv⟩ := Option.map_eq_some_iff.mp heq
    exact ⟨v, rfl, e, he, by simpa using hne, hv.symm⟩

/-- **How a list is written, and how a value is spelled, makes no difference.** -/
theorem Rewritten.permits_iff {values values' : List Text} {value value' : Option Text}
    (h : Rewritten values values') (hvalue : Option.Rel SameSpelling value value') :
    Permits values value ↔ Permits values' value' := by
  have hsame := h.sameEntries
  have hessence : value.map Text.essence = value'.map Text.essence := by
    cases hvalue with
    | some hv => exact congrArg some hv
    | none => rfl
  rw [UriRouting.permits_iff, UriRouting.permits_iff, hessence]
  refine or_congr ?_ ?_
  · constructor
    · intro hall x hx
      by_contra hne
      exact hne (hall x ((hsame x hne).mpr hx))
    · intro hall x hx
      by_contra hne
      exact hne (hall x ((hsame x hne).mp hx))
  · constructor
    · rintro ⟨x, hx, hne, heq⟩
      exact ⟨x, (hsame x hne).mp hx, hne, heq⟩
    · rintro ⟨x, hx, hne, heq⟩
      exact ⟨x, (hsame x hne).mpr hx, hne, heq⟩

/-! ### Lists that are kept -/

/-- A form of texts that tells apart what differs in more than the case of letters. -/
structure Folds (fold : Text → Text) : Prop where
  /-- Which texts have the same form. -/
  eq_iff : ∀ {s t : Text}, fold s = fold t ↔ s.lower = t.lower
  /-- The form is its own form. -/
  idem : ∀ t : Text, fold (fold t) = fold t
  /-- The form has white space where the text has it. -/
  trim : ∀ t : Text, (fold t).trim = fold t.trim
  /-- Only the empty text has the empty form. -/
  eq_nil_iff : ∀ {t : Text}, fold t = [] ↔ t = []

theorem folds_upper : Folds Text.upper where
  eq_iff := Text.upper_eq_upper_iff
  idem := Text.upper_upper
  trim := Text.trim_upper
  eq_nil_iff := Text.upper_eq_nil_iff

theorem folds_lower : Folds Text.lower where
  eq_iff := Iff.rfl
  idem := Text.lower_lower
  trim := Text.trim_lower
  eq_nil_iff := Text.lower_eq_nil_iff

namespace AllowList

variable {fold : Text → Text}

theorem ofValues_eq_none_iff {values : List Text} :
    ofValues fold values = none ↔ ∀ e ∈ values, e.trim = [] := by
  simp [ofValues]

theorem ofValues_eq_some {values entries : List Text} (h : ofValues fold values = some entries) :
    entries = ((values.map Text.trim).filter (!·.isEmpty)).map fold := by
  rw [ofValues] at h
  split at h
  · cases h
  · exact (Option.some.inj h).symm

theorem mem_of_ofValues {values entries : List Text} (h : ofValues fold values = some entries)
    {x : Text} : x ∈ entries ↔ ∃ e ∈ values, e.trim ≠ [] ∧ fold e.trim = x := by
  rw [ofValues_eq_some h]
  simp [and_assoc]

/-- **What a list permits.** -/
theorem admits_ofValues (hfold : Folds fold) (values : List Text) (value : Option Text) :
    (ofValues fold values).admits fold value = true ↔ Permits values value := by
  rw [Permits, ← @ofValues_eq_none_iff fold]
  cases hlist : ofValues fold values with
  | none => simp [admits]
  | some entries =>
      cases value with
      | none => simp [admits]
      | some v => simp [admits, mem_of_ofValues hlist, hfold.eq_iff]

/-- A list that is kept comes of its own entries, once more. -/
theorem ofValues_getD (hfold : Folds fold) (values : List Text) :
    ofValues fold ((ofValues fold values).getD []) = ofValues fold values := by
  cases hlist : ofValues fold values with
  | none => rfl
  | some entries =>
      have hentry : ∀ x ∈ entries, x.trim = x ∧ x ≠ [] ∧ fold x = x := by
        intro x hx
        obtain ⟨e, -, hne, rfl⟩ := (mem_of_ofValues hlist).mp hx
        refine ⟨?_, ?_, hfold.idem _⟩
        · rw [hfold.trim, Text.trim_trim]
        · rwa [ne_eq, hfold.eq_nil_iff]
      have hne : entries ≠ [] := by
        rintro rfl
        rw [ofValues] at hlist
        split at hlist
        · cases hlist
        · rename_i hkept
          exact hkept (by simpa using Option.some.inj hlist)
      have htrim : entries.map Text.trim = entries :=
        (List.map_congr_left fun x hx => (hentry x hx).1).trans (List.map_id' entries)
      have hfilter : entries.filter (!·.isEmpty) = entries :=
        List.filter_eq_self.mpr fun x hx => by simpa using (hentry x hx).2.1
      have hmap : entries.map fold = entries :=
        (List.map_congr_left fun x hx => (hentry x hx).2.2).trans (List.map_id' entries)
      rw [Option.getD_some, ofValues, htrim, hfilter, hmap, if_neg (by simpa using hne)]

end AllowList

end UriRouting
