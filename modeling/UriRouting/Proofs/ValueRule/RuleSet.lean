import UriRouting.ValueRule.RuleSet

/-!
# UriRouting.Proofs.ValueRule.RuleSet

What a set of rules makes of the rules that are offered for it, one after another. An offer may be
refused, and leaves the set as it was.

* `rules_add` — a rule that is added comes last among the rules for its name, and the rules for
  other names stay as they are;
* `rules_offerAll` — the rules for a name are those that were taken for it, in order;
* `collects_offerAll` — which values are accepted, and on what that does not depend (`Collects`).
-/

namespace UriRouting.RuleSet

/-! ### One rule more -/

theorem rules_cons (entry : Text × List ValueRule) (entries : List (Text × List ValueRule))
    (key : Text) :
    rules ⟨entry :: entries⟩ key = if entry.1 = key then entry.2 else rules ⟨entries⟩ key := by
  unfold rules
  by_cases hkey : entry.1 = key
  · simp [hkey]
  · simp [hkey]

theorem rules_insert (key : Text) (rule : ValueRule) (entries : List (Text × List ValueRule))
    (key' : Text) :
    rules ⟨insert key rule entries⟩ key' =
      if key = key' then rules ⟨entries⟩ key' ++ [rule] else rules ⟨entries⟩ key' := by
  induction entries with
  | nil => rw [insert, rules_cons]; rfl
  | cons entry entries ih =>
      rw [insert]
      by_cases hentry : entry.1 = key
      · rw [if_pos hentry, rules_cons, rules_cons]
        by_cases hkey : key = key'
        · simp [hentry, hkey]
        · simp [hentry, hkey]
      · rw [if_neg hentry, rules_cons, rules_cons, ih]
        by_cases hkey : key = key'
        · simp [hkey, hkey ▸ hentry]
        · simp [hkey]

theorem insert_ne_nil (key : Text) (rule : ValueRule) (entries : List (Text × List ValueRule)) :
    insert key rule entries ≠ [] := by
  cases entries with
  | nil => exact List.cons_ne_nil _ _
  | cons entry entries =>
      rw [insert]
      split <;> exact List.cons_ne_nil _ _

theorem add_eq_ok_iff {s s' : RuleSet} {key : Text} {rule : ValueRule} :
    s.add key rule = .ok s' ↔ key ≠ [] ∧ ⟨insert key rule s.entries⟩ = s' := by
  rw [add]
  by_cases hkey : key = []
  · simp [hkey]
  · simp [hkey]

theorem add_eq_error_iff {s : RuleSet} {key : Text} {rule : ValueRule} {e : RuleError} :
    s.add key rule = .error e ↔ key = [] ∧ .emptyKey = e := by
  rw [add]
  by_cases hkey : key = []
  · simp [hkey]
  · simp [hkey]

/-- **A rule that is added comes last among those for its name**, and no other name is concerned. -/
theorem rules_add {s s' : RuleSet} {key : Text} {rule : ValueRule}
    (h : s.add key rule = .ok s') (key' : Text) :
    s'.rules key' = if key = key' then s.rules key' ++ [rule] else s.rules key' := by
  obtain ⟨-, rfl⟩ := add_eq_ok_iff.mp h
  exact rules_insert key rule s.entries key'

theorem accepts_iff {s : RuleSet} {key value : Text} {caseSensitive : Bool} :
    s.accepts key value caseSensitive = true ↔
      s.rules key = [] ∨ ∃ rule ∈ s.rules key, rule.accepts value caseSensitive = true := by
  rw [accepts, Bool.or_eq_true, List.isEmpty_iff, List.any_eq_true]

/-! ### Offers -/

/-- A rule that is offered for a name. -/
structure Offer where
  /-- The name. -/
  key : Text
  /-- The rule. -/
  rule : ValueRule

/-- The set after an offer, as before if the offer is refused. -/
def offer (s : RuleSet) (o : Offer) : RuleSet :=
  (s.add o.key o.rule).toOption.getD s

/-- The set after some offers, one after another. -/
def offerAll (s : RuleSet) (offers : List Offer) : RuleSet :=
  offers.foldl offer s

/-- Those of some offers that are not refused, in order. -/
def taken (s : RuleSet) : List Offer → List Offer
  | [] => []
  | o :: offers =>
    match s.add o.key o.rule with
    | .ok s' => o :: s'.taken offers
    | .error _ => s.taken offers

/-- The rules of some offers for a name, in order. -/
def rulesFor (offers : List Offer) (key : Text) : List ValueRule :=
  (offers.filter (·.key = key)).map (·.rule)

/-- Offers are refused for an empty name, whatever the set is. -/
theorem taken_eq (s : RuleSet) (offers : List Offer) :
    s.taken offers = offers.filter (·.key ≠ []) := by
  induction offers generalizing s with
  | nil => rfl
  | cons o offers ih =>
      rw [taken]
      cases hadd : s.add o.key o.rule with
      | ok s' =>
          have hkey := (add_eq_ok_iff.mp hadd).1
          simp [ih, hkey]
      | error e =>
          have hkey := (add_eq_error_iff.mp hadd).1
          simp [ih, hkey]

theorem rulesFor_cons (o : Offer) (offers : List Offer) (key : Text) :
    rulesFor (o :: offers) key =
      if o.key = key then o.rule :: rulesFor offers key else rulesFor offers key := by
  unfold rulesFor
  by_cases hkey : o.key = key
  · simp [hkey]
  · simp [hkey]

/-- **The rules for a name are those that were taken for it**, after those that were there. -/
theorem rules_offerAll (s : RuleSet) (offers : List Offer) (key : Text) :
    (s.offerAll offers).rules key = s.rules key ++ rulesFor (s.taken offers) key := by
  induction offers generalizing s with
  | nil => exact (List.append_nil _).symm
  | cons o offers ih =>
      rw [offerAll, List.foldl_cons, ← offerAll, offer, taken]
      cases hadd : s.add o.key o.rule with
      | ok s' =>
          show (s'.offerAll offers).rules key = s.rules key ++ rulesFor (o :: s'.taken offers) key
          rw [ih, rules_add hadd, rulesFor_cons]
          by_cases hkey : o.key = key
          · simp [hkey]
          · simp [hkey]
      | error e => exact ih s

/-- An offer that is refused leaves no entry behind. -/
theorem isEmpty_offerAll (s : RuleSet) (offers : List Offer) :
    (s.offerAll offers).isEmpty = (s.isEmpty && (s.taken offers).isEmpty) := by
  induction offers generalizing s with
  | nil => exact (Bool.and_true _).symm
  | cons o offers ih =>
      rw [offerAll, List.foldl_cons, ← offerAll, offer, taken]
      cases hadd : s.add o.key o.rule with
      | ok s' =>
          obtain ⟨-, rfl⟩ := add_eq_ok_iff.mp hadd
          have hne : isEmpty ⟨insert o.key o.rule s.entries⟩ = false := by
            simp [isEmpty, insert_ne_nil]
          refine (ih ⟨insert o.key o.rule s.entries⟩).trans ?_
          simp [hne]
      | error e => exact ih s

/-- What a set made of some offers answers. -/
structure Collects (s : RuleSet) (offers : List Offer) : Prop where
  /-- Every offer for a name that is not empty was taken, and no other. -/
  takes : taken {} offers = offers.filter (·.key ≠ [])
  /-- The rules for a name are those that were taken for it, in order and with repetitions. -/
  rules : ∀ key, s.rules key = rulesFor (taken {} offers) key
  /-- It is empty if no offer was taken. -/
  isEmpty : s.isEmpty = true ↔ taken {} offers = []
  /-- A value is accepted if no rule was taken for its name, or one of those that were accepts
  it. -/
  accepts : ∀ key value caseSensitive, s.accepts key value caseSensitive = true ↔
    rulesFor (taken {} offers) key = [] ∨
      ∃ rule ∈ rulesFor (taken {} offers) key, rule.accepts value caseSensitive = true
  /-- Neither the order of the offers makes a difference, nor those for other names. -/
  order : ∀ offers' key, (rulesFor offers key).Perm (rulesFor offers' key) →
    ∀ value caseSensitive,
      s.accepts key value caseSensitive = (offerAll {} offers').accepts key value caseSensitive
  /-- A rule more for a name that has one takes no value away. -/
  grows : ∀ key rule, s.rules key ≠ [] → ∃ s', s.add key rule = .ok s' ∧
    ∀ value caseSensitive, s.accepts key value caseSensitive = true →
      s'.accepts key value caseSensitive = true
  /-- The empty value is not accepted for a name that has a rule. -/
  empty : ∀ key caseSensitive, s.rules key ≠ [] → s.accepts key [] caseSensitive = false

theorem rules_offerAll_empty (offers : List Offer) (key : Text) :
    (offerAll {} offers).rules key = rulesFor (taken {} offers) key :=
  rules_offerAll {} offers key

/-- No offer for the empty name is taken, and every one for another name. -/
theorem rulesFor_taken (s : RuleSet) (offers : List Offer) (key : Text) :
    rulesFor (s.taken offers) key = if key = [] then [] else rulesFor offers key := by
  rw [taken_eq, rulesFor, rulesFor, List.filter_filter]
  by_cases hkey : key = []
  · subst hkey
    have hnone : ∀ o ∈ offers, ¬ (decide (o.key = []) && decide (o.key ≠ [])) = true := by
      simp
    rw [List.filter_eq_nil_iff.mpr hnone]
    rfl
  · have hsame : ∀ o ∈ offers, (decide (o.key = key) && decide (o.key ≠ [])) =
        decide (o.key = key) := by
      intro o _
      by_cases ho : o.key = key
      · simp [ho, hkey]
      · simp [ho]
    rw [List.filter_congr hsame, if_neg hkey]

/-- Rules in another order accept the same. -/
theorem accepts_congr {s s' : RuleSet} {key : Text} (h : (s.rules key).Perm (s'.rules key))
    (value : Text) (caseSensitive : Bool) :
    s.accepts key value caseSensitive = s'.accepts key value caseSensitive := by
  rw [Bool.eq_iff_iff, accepts_iff, accepts_iff]
  refine or_congr ?_ ?_
  · rw [← List.length_eq_zero_iff, h.length_eq, List.length_eq_zero_iff]
  · simp only [h.mem_iff]

/-- **What a set of rules makes of the offers for it**, however many of them are refused. -/
theorem collects_offerAll (offers : List Offer) : Collects (offerAll {} offers) offers where
  takes := taken_eq {} offers
  rules := rules_offerAll_empty offers
  isEmpty := by
    rw [isEmpty_offerAll]
    exact List.isEmpty_iff
  accepts := by
    intro key value caseSensitive
    rw [accepts_iff, rules_offerAll_empty]
  order := by
    intro offers' key hperm value caseSensitive
    refine accepts_congr ?_ value caseSensitive
    rw [rules_offerAll_empty, rules_offerAll_empty, rulesFor_taken, rulesFor_taken]
    split
    · exact .nil
    · exact hperm
  grows := by
    intro key rule hne
    have hkey : key ≠ [] := by
      rintro rfl
      rw [rules_offerAll_empty, rulesFor_taken, if_pos rfl] at hne
      exact hne rfl
    obtain ⟨s', hadd⟩ : ∃ s', (offerAll {} offers).add key rule = .ok s' :=
      ⟨_, add_eq_ok_iff.mpr ⟨hkey, rfl⟩⟩
    refine ⟨s', hadd, fun value caseSensitive haccepts => ?_⟩
    obtain ⟨other, hmem, hother⟩ := (accepts_iff.mp haccepts).resolve_left hne
    refine accepts_iff.mpr (.inr ⟨other, ?_, hother⟩)
    rw [rules_add hadd, if_pos rfl]
    exact List.mem_append_left _ hmem
  empty := by
    intro key caseSensitive hne
    rw [Bool.eq_false_iff]
    intro haccepts
    obtain ⟨rule, -, hrule⟩ := (accepts_iff.mp haccepts).resolve_left hne
    cases hrule

end UriRouting.RuleSet
