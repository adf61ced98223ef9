import Mathlib.Data.List.Nodup
import UriRouting.Proofs.Route.Reported

/-!
# UriRouting.Proofs.Route.Parameters

Parameters are a map that keeps its names in the order in which they came in: those of a match in
the order of the template, and behind them those that were set later.

* `keys_set`, `get?_set`, `getElem?_set` — what setting one name does to the names, to what is
  under them, and to the entries at their places;
* `keys_setAll`, `get?_setAll` — what setting names one after another does;
* `orderedMap_setAll` — whatever is set, parameters that started as those of a match, or with
  nothing, answer as such a map (`OrderedMap`).
-/

namespace UriRouting

namespace Parameters

/-! ### Asking for a name -/

@[simp] theorem keys_cons (entry : Text × Option Text) (entries : List (Text × Option Text)) :
    keys ⟨entry :: entries⟩ = entry.1 :: keys ⟨entries⟩ := rfl

theorem get?_cons (entry : Text × Option Text) (entries : List (Text × Option Text))
    (key : Text) :
    get? ⟨entry :: entries⟩ key = if entry.1 = key then some entry.2 else get? ⟨entries⟩ key := by
  by_cases hkey : entry.1 = key
  · simp [get?, hkey]
  · simp [get?, hkey]

theorem get?_eq_none_iff {p : Parameters} {key : Text} : p.get? key = none ↔ key ∉ p.keys := by
  simp only [get?, keys, Option.map_eq_none_iff, List.find?_eq_none, List.mem_map,
    decide_eq_true_eq, not_exists, not_and]

theorem contains_eq (p : Parameters) (key : Text) : p.contains key = (p.get? key).isSome := by
  rw [contains, get?, Option.isSome_map, List.isSome_find?]

/-- Where no name is there twice, what is under a name is its only entry. -/
theorem mem_entries_iff {p : Parameters} (hnodup : p.keys.Nodup) {key : Text}
    {value : Option Text} : (key, value) ∈ p.entries ↔ p.get? key = some value := by
  obtain ⟨entries⟩ := p
  induction entries with
  | nil => simp [get?]
  | cons entry entries ih =>
      rw [keys_cons, List.nodup_cons] at hnodup
      have hrest := ih hnodup.2
      rw [List.mem_cons, get?_cons]
      by_cases hkey : entry.1 = key
      · have hnot : (key, value) ∉ entries := by
          intro hmem
          exact hnodup.1 (hkey ▸ List.mem_map_of_mem hmem)
        simp [hkey, hnot, Prod.ext_iff, eq_comm]
      · simp only [if_neg hkey, ← hrest]
        simp [Prod.ext_iff, Ne.symm hkey]

theorem mem_present_iff {p : Parameters} (hnodup : p.keys.Nodup) {key text : Text} :
    (key, text) ∈ p.present ↔ p.get? key = some (some text) ∧ text ≠ [] := by
  rw [← mem_entries_iff hnodup, present, List.mem_filterMap]
  constructor
  · intro h
    obtain ⟨entry, hmem, hentry⟩ := h
    obtain ⟨text', htext, heq⟩ := Option.map_eq_some_iff.mp hentry
    obtain ⟨hvalue, hne⟩ := Option.filter_eq_some_iff.mp htext
    cases heq
    rw [← hvalue]
    exact ⟨hmem, by simpa using hne⟩
  · intro h
    exact ⟨_, h.1, by simp [h.2]⟩

/-- The names that are present come in the order of all names. -/
theorem map_fst_present_sublist (p : Parameters) : (p.present.map (·.1)).Sublist p.keys := by
  obtain ⟨entries⟩ := p
  induction entries with
  | nil => exact .slnil
  | cons entry entries ih =>
      rw [keys_cons, present, List.filterMap_cons]
      cases hentry : (entry.2.filter (!·.isEmpty)).map (entry.1, ·) with
      | none => exact ih.cons _
      | some pair =>
          obtain ⟨text, -, hpair⟩ := Option.map_eq_some_iff.mp hentry
          cases hpair
          exact ih.cons_cons _

/-! ### One name -/

theorem keys_set (p : Parameters) (key : Text) (value : Option Text) :
    (p.set key value).keys = if key ∈ p.keys then p.keys else p.keys ++ [key] := by
  obtain ⟨entries⟩ := p
  induction entries with
  | nil => rfl
  | cons entry entries ih =>
      by_cases hkey : entry.1 = key
      · simp [set, setEntry, hkey]
      · have hne : key ≠ entry.1 := Ne.symm hkey
        simp only [set] at ih
        simp only [set, setEntry, if_neg hkey, keys_cons, ih, List.mem_cons, hne, false_or]
        split <;> rfl

/-- **What is under a name is what was set there**, and no other name is concerned. -/
theorem get?_set (p : Parameters) (key : Text) (value : Option Text) (key' : Text) :
    (p.set key value).get? key' = if key = key' then some value else p.get? key' := by
  obtain ⟨entries⟩ := p
  induction entries with
  | nil => exact get?_cons (key, value) [] key'
  | cons entry entries ih =>
      simp only [set] at ih
      rw [set, setEntry]
      by_cases hentry : entry.1 = key
      · rw [if_pos hentry, get?_cons, get?_cons]
        by_cases hkey : key = key'
        · simp [hentry, hkey]
        · simp [hentry, hkey]
      · rw [if_neg hentry, get?_cons, get?_cons, ih]
        by_cases hkey : key = key'
        · simp [hkey, hkey ▸ hentry]
        · simp [hkey]

/-- **Setting a name leaves the entries of all others where they are.** -/
theorem getElem?_set (p : Parameters) {key : Text} (value : Option Text) (i : Nat)
    {entry : Text × Option Text} (hentry : entry.1 ≠ key) :
    (p.set key value).entries[i]? = some entry ↔ p.entries[i]? = some entry := by
  obtain ⟨entries⟩ := p
  show (setEntry key value entries)[i]? = some entry ↔ entries[i]? = some entry
  induction entries generalizing i with
  | nil =>
      cases i with
      | zero => simpa [setEntry] using fun h => hentry (congrArg Prod.fst h).symm
      | succ i => simp [setEntry]
  | cons first entries ih =>
      rw [setEntry]
      split
      · rename_i hfirst
        -- the entry that is changed is neither before nor after the one that is asked for
        cases i with
        | zero =>
            have hbefore : first ≠ entry := fun h => hentry (h ▸ hfirst)
            have hafter : (first.1, value) ≠ entry := fun h => hentry (h ▸ hfirst)
            simp [hbefore, hafter]
        | succ i => simp
      · cases i with
        | zero => simp
        | succ i => simpa using ih i

/-! ### Names one after another -/

/-- A value that is set under a name. -/
structure Setting where
  /-- The name. -/
  key : Text
  /-- The value. -/
  value : Option Text

/-- The parameters after some settings, one after another. -/
def setAll (p : Parameters) (settings : List Setting) : Parameters :=
  settings.foldl (fun p s => p.set s.key s.value) p

/-- The value that some settings set last under a name, if one of them does. -/
def lastSet (settings : List Setting) (key : Text) : Option (Option Text) :=
  ((settings.filter (·.key = key)).getLast?).map (·.value)

@[simp] theorem setAll_cons (p : Parameters) (s : Setting) (settings : List Setting) :
    p.setAll (s :: settings) = (p.set s.key s.value).setAll settings := rfl

theorem lastSet_cons (s : Setting) (settings : List Setting) (key : Text) :
    lastSet (s :: settings) key =
      (lastSet settings key).or (if s.key = key then some s.value else none) := by
  unfold lastSet
  by_cases hkey : s.key = key
  · rw [List.filter_cons_of_pos (by simpa using hkey), List.getLast?_cons, if_pos hkey]
    cases (settings.filter (·.key = key)).getLast? <;> rfl
  · rw [List.filter_cons_of_neg (by simpa using hkey), if_neg hkey, Option.or_none]

theorem lastSet_eq_none_iff {settings : List Setting} {key : Text} :
    lastSet settings key = none ↔ key ∉ settings.map (·.key) := by
  simp [lastSet]

theorem nodup_keys_setAll {p : Parameters} (hnodup : p.keys.Nodup) (settings : List Setting) :
    (p.setAll settings).keys.Nodup := by
  induction settings generalizing p with
  | nil => exact hnodup
  | cons s settings ih =>
      refine ih ?_
      rw [keys_set]
      split
      · exact hnodup
      · rename_i hkey
        rw [← List.concat_eq_append]
        exact List.Nodup.concat hkey hnodup

/-- **Names that are new come last, in the order in which they were set first.** -/
theorem keys_setAll (p : Parameters) (settings : List Setting) :
    (p.setAll settings).keys =
      p.keys ++ ((settings.map (·.key)).filter (· ∉ p.keys)).eraseDups := by
  induction settings generalizing p with
  | nil => exact (List.append_nil _).symm
  | cons s settings ih =>
      rw [setAll_cons, ih, keys_set, List.map_cons]
      split
      · rename_i hkey
        rw [List.filter_cons_of_neg (by simpa using hkey)]
      · rename_i hkey
        -- what is not new any more is what is there twice
        have hfilter : ((settings.map (·.key)).filter (· ∉ p.keys ++ [s.key])) =
            ((settings.map (·.key)).filter (· ∉ p.keys)).filter (!· == s.key) := by
          rw [List.filter_filter]
          refine List.filter_congr fun key _ => ?_
          simp [Bool.and_comm, Bool.beq_eq_decide_eq]
        rw [List.filter_cons_of_pos (by simpa using hkey), List.eraseDups_cons, hfilter,
          List.append_assoc]
        rfl

/-- **What is under a name is what was set there last**, or what was there before. -/
theorem get?_setAll (p : Parameters) (settings : List Setting) (key : Text) :
    (p.setAll settings).get? key = (lastSet settings key).or (p.get? key) := by
  induction settings generalizing p with
  | nil => rfl
  | cons s settings ih =>
      rw [setAll_cons, ih, get?_set, lastSet_cons]
      split
      · rw [Option.or_assoc]
        rfl
      · rw [Option.or_none]

end Parameters

/-! ### Parameters of a match -/

namespace Route

open Template (Marker namesOf)

variable {γ : Type}

/-- The names of a match are those of the variables. -/
theorem keys_of_tryMatch {r : Route γ} (hr : r.Reachable) {request : Request} {p : Parameters}
    (h : r.tryMatch request = some p) : p.keys = namesOf r.tokens := by
  obtain ⟨values, hread, htaken, -⟩ := exists_values_of_tryMatch hr h
  rw [Parameters.keys, readParameters_eq_some hread, List.map_map]
  exact map_fst_report htaken

end Route

namespace Parameters

/-- The parameters that a program comes by, with their names: none at all, or those of a match,
whose names are those in the template, in the order of the template. -/
inductive Given : List Text → Parameters → Prop where
  | empty : Given [] {}
  | matched {γ : Type} {r : Route γ} (hr : r.Reachable) {request : Request} {p : Parameters}
      (h : r.tryMatch request = some p) :
      Given ((Template.Marker.find r.uri).map (·.slot.name)) p

theorem Given.keys_eq {names : List Text} {p : Parameters} (h : Given names p) :
    p.keys = names := by
  cases h with
  | empty => rfl
  | matched hr h => rw [Route.keys_of_tryMatch hr h, hr.namesOf_tokens]

theorem Given.nodup {names : List Text} {p : Parameters} (h : Given names p) :
    p.keys.Nodup := by
  cases h with
  | empty => exact .nil
  | matched hr h =>
      rw [Route.keys_of_tryMatch hr h]
      exact hr.wellNamed.nodup

/-- What parameters answer that were `p` under some names, and were set since then. -/
structure OrderedMap (names : List Text) (p : Parameters) (settings : List Setting)
    (q : Parameters) : Prop where
  /-- No name is there twice. -/
  nodup : q.keys.Nodup
  /-- The names from before are there in their order, and then the new ones in the order in
  which they were set first. -/
  keys : q.keys = names ++ ((settings.map (·.key)).filter (· ∉ names)).eraseDups
  /-- What is under a name is what was set there last, or what was there before. -/
  get? : ∀ key, q.get? key = (lastSet settings key).or (p.get? key)
  /-- Nothing is under the names that neither were there before nor were set. -/
  missing : ∀ key, q.get? key = none ↔ key ∉ names ∧ key ∉ settings.map (·.key)
  /-- Setting a name leaves the entries of all others where they are. -/
  elsewhere : ∀ key value (i : Nat) (entry : Text × Option Text), entry.1 ≠ key →
    ((q.set key value).entries[i]? = some entry ↔ q.entries[i]? = some entry)
  /-- A name is there if something is under it, be it no value. -/
  contains : ∀ key, q.contains key = true ↔ ∃ value, q.get? key = some value
  /-- The value of a name is the one that is under it. -/
  value? : ∀ key text, q.value? key = some text ↔ q.get? key = some (some text)
  /-- A default stands for names that are not there. -/
  getD_missing : ∀ key default, q.get? key = none → q.getD key default = some default
  /-- It does not stand for names that are there without a value. -/
  getD_there : ∀ key default value, q.get? key = some value → q.getD key default = value
  /-- Those are present that have a value which is not empty. -/
  present : ∀ key text, (key, text) ∈ q.present ↔ q.get? key = some (some text) ∧ text ≠ []
  /-- They come in the order of the names. -/
  present_sublist : (q.present.map (·.1)).Sublist q.keys

/-- **Parameters are a map that keeps the order of its names**, whatever is set. -/
theorem orderedMap_setAll {names : List Text} {p : Parameters} (h : Given names p)
    (settings : List Setting) : OrderedMap names p settings (p.setAll settings) where
  nodup := nodup_keys_setAll h.nodup settings
  keys := by rw [keys_setAll, h.keys_eq]
  get? := get?_setAll p settings
  missing := by
    intro key
    rw [get?_setAll, Option.or_eq_none_iff, lastSet_eq_none_iff, get?_eq_none_iff, h.keys_eq,
      and_comm]
  elsewhere := by
    intro key value i entry hentry
    exact getElem?_set _ value i hentry
  contains := by
    intro key
    rw [contains_eq, Option.isSome_iff_exists]
  value? := by
    intro key text
    rw [value?, Option.join_eq_some_iff]
  getD_missing := by
    intro key default hkey
    rw [getD, hkey]
    rfl
  getD_there := by
    intro key default value hkey
    rw [getD, hkey]
    rfl
  present := by
    intro key text
    exact mem_present_iff (nodup_keys_setAll h.nodup settings)
  present_sublist := map_fst_present_sublist _

/-- A match with a variable that is left out, where a value is replaced, another one is taken away,
and a new name is set twice. -/
theorem orderedMap_setAll_page :
    ∃ p : Parameters,
      p.entries = [("id".toList, some "7".toList), ("page".toList, none)] ∧
      Given ["id".toList, "page".toList] p ∧
      OrderedMap ["id".toList, "page".toList] p
        [⟨"lang".toList, some []⟩, ⟨"page".toList, some "2".toList⟩, ⟨"id".toList, none⟩,
          ⟨"lang".toList, some "de".toList⟩]
        ⟨[("id".toList, none), ("page".toList, some "2".toList),
          ("lang".toList, some "de".toList)]⟩ := by
  have hr : (Route.ofUri ⟨1⟩ "/{id}/{page?}".toList ()).Reachable :=
    Route.reachable_ofUri ⟨1⟩ () (by decide +kernel)
  have hmatch : (Route.ofUri ⟨1⟩ "/{id}/{page?}".toList ()).tryMatch { path := "/7".toList } =
      some ⟨[("id".toList, some "7".toList), ("page".toList, none)]⟩ := by
    decide +kernel
  have hgiven : Given ["id".toList, "page".toList]
      ⟨[("id".toList, some "7".toList), ("page".toList, none)]⟩ := .matched hr hmatch
  exact ⟨_, rfl, hgiven, orderedMap_setAll hgiven _⟩

end Parameters

end UriRouting
