import Mathlib.Data.List.Forall2
import UriRouting.Proofs.Regex.Ways

/-!
# UriRouting.Proofs.Regex.Matches

What it means that an expression matches a piece of a text (`Regex.Matches`), said without
any matcher: a sequence splits the piece, an alternative chooses a branch, a repetition splits
the piece into rounds, and an assertion looks at the characters around it.

* `reaches_ways` — the ways of the matcher lead to the ends of such pieces, and to no others;
* `isMatch_iff` — an expression matches somewhere if some piece of the text is one that it
  matches;
* `isMatch_anchored_iff` — between the two anchors of the text it has to be the whole text.

The matcher takes no round of a loop that does not move on. Nothing is lost by that, since a
round on the empty text ends where it starts (`reaches_loopWays`).
-/

namespace UriRouting.Regex

open Unicode (CharSet)
open Way (stay chain)

/-! ### Pieces that are matched -/

/-- `n` pieces of a text in a row. What `step` says of a piece may depend on what is before and
after it. -/
def Rounds (step : Text → Text → Text → Prop) : Nat → Text → Text → Text → Prop
  | 0, _, t, _ => t = []
  | n + 1, s, t, u =>
    ∃ t₁ t₂, t = t₁ ++ t₂ ∧ step s t₁ (t₂ ++ u) ∧ Rounds step n (s ++ t₁) t₂ u

/-- The expression matches the piece `t` of a text, after `s` and before `u`. -/
def Matches : Regex → Text → Text → Text → Prop
  | chars sets, _, t, _ => List.Forall₂ (fun set c => set.contains c = true) sets t
  | assert condition, s, t, u => t = [] ∧ condition.holds s.getLast? u.head? = true
  | seq r r', s, t, u =>
    ∃ t₁ t₂, t = t₁ ++ t₂ ∧ r.Matches s t₁ (t₂ ++ u) ∧ r'.Matches (s ++ t₁) t₂ u
  | alt r r', s, t, u => r.Matches s t u ∨ r'.Matches s t u
  | rep r least most _, s, t, u =>
    ∃ n, least ≤ n ∧ (∀ m ∈ most, n ≤ max least m) ∧ Rounds r.Matches n s t u
  | group _ r, s, t, u => r.Matches s t u

/-- Rounds in a row. -/
theorem rounds_add {step : Text → Text → Text → Prop} (n m : Nat) {s t u : Text} :
    Rounds step (n + m) s t u ↔
      ∃ t₁ t₂, t = t₁ ++ t₂ ∧ Rounds step n s t₁ (t₂ ++ u) ∧ Rounds step m (s ++ t₁) t₂ u := by
  induction n generalizing s t with
  | zero =>
      rw [Nat.zero_add]
      constructor
      · intro h
        exact ⟨[], t, rfl, rfl, by rwa [List.append_nil]⟩
      · rintro ⟨t₁, t₂, rfl, rfl, h⟩
        rwa [List.append_nil] at h
  | succ n ih =>
      rw [Nat.succ_add]
      constructor
      · rintro ⟨t₁, t', rfl, hstep, h⟩
        obtain ⟨t₂, t₃, rfl, hn, hm⟩ := ih.mp h
        refine ⟨t₁ ++ t₂, t₃, by simp, ⟨t₁, t₂, rfl, ?_, hn⟩, ?_⟩
        · rwa [← List.append_assoc]
        · rwa [← List.append_assoc]
      · rintro ⟨t', t₃, rfl, ⟨t₁, t₂, rfl, hstep, hn⟩, hm⟩
        refine ⟨t₁, t₂ ++ t₃, by simp, ?_, ih.mpr ⟨t₂, t₃, rfl, hn, ?_⟩⟩
        · rwa [List.append_assoc]
        · rwa [List.append_assoc]

/-! ### Places that are reached -/

/-- The place between two parts of a text. -/
def Place.between (s u : Text) : Place :=
  ⟨s.length, s.getLast?, u⟩

open Place (between)

/-- Some way of a list leads to a place. -/
def Leads (ws : List Way) (q : Place) : Prop :=
  ∃ w ∈ ws, w.stop = q

@[simp] theorem leads_nil (q : Place) : ¬ Leads [] q := by
  simp [Leads]

@[simp] theorem leads_stay (p q : Place) : Leads [stay p] q ↔ p = q := by
  simp [Leads, stay]

theorem leads_append {ws ws' : List Way} {q : Place} :
    Leads (ws ++ ws') q ↔ Leads ws q ∨ Leads ws' q := by
  simp only [Leads, List.mem_append]
  constructor
  · rintro ⟨w, hw | hw, hq⟩
    · exact .inl ⟨w, hw, hq⟩
    · exact .inr ⟨w, hw, hq⟩
  · rintro (⟨w, hw, hq⟩ | ⟨w, hw, hq⟩)
    · exact ⟨w, .inl hw, hq⟩
    · exact ⟨w, .inr hw, hq⟩

theorem leads_preferWays {greedy : Bool} {more done : List Way} {q : Place} :
    Leads (preferWays greedy more done) q ↔ Leads more q ∨ Leads done q := by
  cases greedy
  · exact leads_append.trans or_comm
  · exact leads_append

/-- Going on leads where one gets from where one got. -/
theorem leads_chain {ws : List Way} {f : Place → List Way} {q : Place} :
    Leads (chain ws f) q ↔ ∃ p, Leads ws p ∧ Leads (f p) q := by
  simp only [Leads, chain, Way.andThen, List.mem_flatMap, List.mem_map]
  constructor
  · rintro ⟨_, ⟨w, hw, w', hw', rfl⟩, rfl⟩
    exact ⟨w.stop, ⟨w, hw, rfl⟩, w', hw', rfl⟩
  · rintro ⟨_, ⟨w, hw, rfl⟩, w', hw', rfl⟩
    exact ⟨_, ⟨w, hw, w', hw', rfl⟩, rfl⟩

/-- From each place of a text, `f` leads to the ends of the pieces that `step` allows. -/
def Reaches (f : Place → List Way) (step : Text → Text → Text → Prop) : Prop :=
  ∀ s v q, Leads (f (between s v)) q ↔
    ∃ t u, v = t ++ u ∧ q = between (s ++ t) u ∧ step s t u

namespace Reaches

variable {f g : Place → List Way} {step step' : Text → Text → Text → Prop}

theorem stay : Reaches (fun p => [stay p]) fun _ t _ => t = [] := by
  intro s v q
  rw [leads_stay]
  constructor
  · rintro rfl
    exact ⟨[], v, rfl, by rw [List.append_nil], rfl⟩
  · rintro ⟨_, u, rfl, rfl, rfl⟩
    rw [List.append_nil, List.nil_append]

theorem chain (hf : Reaches f step) (hg : Reaches g step') :
    Reaches (fun p => chain (f p) g) fun s t u =>
      ∃ t₁ t₂, t = t₁ ++ t₂ ∧ step s t₁ (t₂ ++ u) ∧ step' (s ++ t₁) t₂ u := by
  intro s v q
  rw [leads_chain]
  constructor
  · rintro ⟨p, hp, hq⟩
    obtain ⟨t₁, v', rfl, rfl, hstep⟩ := (hf s v p).mp hp
    obtain ⟨t₂, u, rfl, rfl, hstep'⟩ := (hg _ _ q).mp hq
    exact ⟨t₁ ++ t₂, u, by simp, by simp, t₁, t₂, rfl, hstep, hstep'⟩
  · rintro ⟨_, u, rfl, rfl, t₁, t₂, rfl, hstep, hstep'⟩
    refine ⟨between (s ++ t₁) (t₂ ++ u), (hf _ _ _).mpr ⟨t₁, t₂ ++ u, by simp, rfl, hstep⟩,
      (hg _ _ _).mpr ⟨t₂, u, rfl, by simp, hstep'⟩⟩

theorem prefer (hf : Reaches f step) (hg : Reaches g step') (greedy : Bool) :
    Reaches (fun p => preferWays greedy (f p) (g p)) fun s t u => step s t u ∨ step' s t u := by
  intro s v q
  rw [leads_preferWays, hf, hg]
  constructor
  · rintro (⟨t, u, hv, hq, h⟩ | ⟨t, u, hv, hq, h⟩)
    · exact ⟨t, u, hv, hq, .inl h⟩
    · exact ⟨t, u, hv, hq, .inr h⟩
  · rintro ⟨t, u, hv, hq, h | h⟩
    · exact .inl ⟨t, u, hv, hq, h⟩
    · exact .inr ⟨t, u, hv, hq, h⟩

theorem congr (hf : Reaches f step) (h : ∀ s t u, step s t u ↔ step' s t u) :
    Reaches f step' := by
  intro s v q
  rw [hf]
  simp only [h]

/-- Which pieces are allowed can be read off the places that are reached. -/
theorem unique (hf : Reaches f step) (hf' : Reaches f step') {s t u : Text} :
    step s t u ↔ step' s t u := by
  suffices hsub : ∀ {M N : Text → Text → Text → Prop}, Reaches f M → Reaches f N →
      M s t u → N s t u from ⟨hsub hf hf', hsub hf' hf⟩
  intro M N hM hN h
  obtain ⟨t', u', htext, hplace, h'⟩ := (hN s _ _).mp ((hM s (t ++ u) _).mpr ⟨t, u, rfl, rfl, h⟩)
  obtain rfl : u = u' := congrArg Place.rest hplace
  obtain rfl : t = t' := List.append_cancel_right htext
  exact h'

end Reaches

/-! ### Expressions -/

theorem reaches_charsWays (sets : List CharSet) :
    Reaches (charsWays sets) fun _ t _ =>
      List.Forall₂ (fun set c => set.contains c = true) sets t := by
  induction sets with
  | nil => exact Reaches.stay.congr fun _ _ _ => List.forall₂_nil_left_iff.symm
  | cons set sets ih =>
      intro s v q
      cases v with
      | nil =>
          rw [between, charsWays]
          simp
      | cons c v =>
          have hnext : (⟨s.length + 1, some c, v⟩ : Place) = between (s ++ [c]) v := by
            simp [between]
          rw [between, charsWays, hnext]
          by_cases hc : set.contains c = true
          · rw [if_pos hc, ih]
            constructor
            · rintro ⟨t, u, rfl, rfl, h⟩
              exact ⟨c :: t, u, rfl, by simp, .cons hc h⟩
            · rintro ⟨t, u, hv, rfl, h⟩
              obtain ⟨d, t, -, htail, rfl⟩ := List.forall₂_cons_left_iff.mp h
              obtain ⟨rfl, rfl⟩ := List.cons.inj hv
              exact ⟨t, u, rfl, by simp, htail⟩
          · rw [if_neg hc]
            refine iff_of_false (leads_nil q) ?_
            rintro ⟨t, u, hv, -, h⟩
            obtain ⟨d, t, hd, -, rfl⟩ := List.forall₂_cons_left_iff.mp h
            obtain ⟨rfl, -⟩ := List.cons.inj hv
            exact hc hd

variable {step : Place → List Way} {next : Place → List Way}
  {matched after : Text → Text → Text → Prop}

theorem reaches_roundWays (hstep : Reaches step matched) (hnext : Reaches next after) (n : Nat) :
    Reaches (roundWays step next n) fun s t u =>
      ∃ t₁ t₂, t = t₁ ++ t₂ ∧ Rounds matched n s t₁ (t₂ ++ u) ∧ after (s ++ t₁) t₂ u := by
  induction n with
  | zero =>
      refine hnext.congr fun s t u => ?_
      constructor
      · intro h
        exact ⟨[], t, rfl, rfl, by rwa [List.append_nil]⟩
      · rintro ⟨_, t₂, rfl, rfl, h⟩
        rwa [List.append_nil] at h
  | succ n ih =>
      refine (hstep.chain ih).congr fun s t u => ?_
      constructor
      · rintro ⟨t₁, _, rfl, h, t₂, t₃, rfl, hn, hafter⟩
        refine ⟨t₁ ++ t₂, t₃, by simp, ⟨t₁, t₂, rfl, ?_, hn⟩, ?_⟩
        · rwa [← List.append_assoc]
        · rwa [← List.append_assoc]
      · rintro ⟨_, t₃, rfl, ⟨t₁, t₂, rfl, h, hn⟩, hafter⟩
        refine ⟨t₁, t₂ ++ t₃, by simp, ?_, t₂, t₃, rfl, hn, ?_⟩
        · rwa [List.append_assoc]
        · rwa [List.append_assoc]

theorem reaches_upToWays (hstep : Reaches step matched) (greedy : Bool) (n : Nat) :
    Reaches (upToWays step greedy n) fun s t u => ∃ m ≤ n, Rounds matched m s t u := by
  induction n with
  | zero =>
      refine Reaches.stay.congr fun s t u => ?_
      simp [Rounds]
  | succ n ih =>
      refine ((hstep.chain ih).prefer .stay greedy).congr fun s t u => ?_
      constructor
      · rintro (⟨t₁, t₂, rfl, h, m, hm, hrounds⟩ | rfl)
        · exact ⟨m + 1, Nat.succ_le_succ hm, t₁, t₂, rfl, h, hrounds⟩
        · exact ⟨0, Nat.zero_le _, rfl⟩
      · rintro ⟨m, hm, hrounds⟩
        cases m with
        | zero => exact .inr hrounds
        | succ m =>
            obtain ⟨t₁, t₂, rfl, h, hrounds⟩ := hrounds
            exact .inl ⟨t₁, t₂, rfl, h, m, Nat.le_of_succ_le_succ hm, hrounds⟩

/-- A loop leads to where a round that moves on and then the loop lead, or stays. -/
theorem leads_loopWays {greedy : Bool} {p q : Place} :
    Leads (loopWays step greedy p) q ↔
      (∃ p', Leads (step p) p' ∧ p'.rest.length < p.rest.length ∧
        Leads (loopWays step greedy p') q) ∨ p = q := by
  rw [loopWays, leads_preferWays, leads_stay, leads_chain]
  constructor
  · rintro (⟨p', hp', h⟩ | h)
    · split at h
      · rename_i hlt
        exact .inl ⟨p', hp', hlt, h⟩
      · exact absurd h (leads_nil q)
    · exact .inr h
  · rintro (⟨p', hp', hlt, h⟩ | h)
    · exact .inl ⟨p', hp', by rwa [if_pos hlt]⟩
    · exact .inr h

/-- What a loop reaches is reached in some number of rounds, by induction on the text that is
left. -/
theorem exists_rounds_of_leads (hstep : Reaches step matched) (greedy : Bool) (s v : Text)
    {q : Place} (h : Leads (loopWays step greedy (between s v)) q) :
    ∃ t u, v = t ++ u ∧ q = between (s ++ t) u ∧ ∃ m, Rounds matched m s t u := by
  induction hlen : v.length using Nat.strongRecOn generalizing s v with
  | ind n ih =>
      rcases leads_loopWays.mp h with ⟨p', hp', hlt, h⟩ | rfl
      · obtain ⟨t₁, v', rfl, rfl, hmatched⟩ := (hstep _ _ _).mp hp'
        obtain ⟨t₂, u, rfl, rfl, m, hrounds⟩ := ih v'.length (hlen ▸ hlt) _ v' h rfl
        exact ⟨t₁ ++ t₂, u, by simp, by simp, m + 1, t₁, t₂, rfl, hmatched, hrounds⟩
      · exact ⟨[], v, rfl, by simp, 0, rfl⟩

/-- Any number of rounds is reached by a loop, by induction on the rounds. A round on the empty
text is left out. -/
theorem leads_of_rounds (hstep : Reaches step matched) (greedy : Bool) {m : Nat} {s t u : Text}
    (h : Rounds matched m s t u) :
    Leads (loopWays step greedy (between s (t ++ u))) (between (s ++ t) u) := by
  induction m generalizing s t with
  | zero =>
      obtain rfl : t = [] := h
      exact leads_loopWays.mpr (.inr (by simp))
  | succ m ih =>
      obtain ⟨t₁, t₂, rfl, hmatched, hrounds⟩ := h
      have hrest := ih hrounds
      cases t₁ with
      | nil => simpa using hrest
      | cons c t₁ =>
          refine leads_loopWays.mpr (.inl ⟨between (s ++ c :: t₁) (t₂ ++ u), ?_, ?_, ?_⟩)
          · exact (hstep _ _ _).mpr ⟨c :: t₁, t₂ ++ u, by simp, rfl, hmatched⟩
          · simp only [between, List.length_append, List.length_cons]
            omega
          · simpa using hrest

theorem reaches_loopWays (hstep : Reaches step matched) (greedy : Bool) :
    Reaches (loopWays step greedy) fun s t u => ∃ m, Rounds matched m s t u := by
  intro s v q
  constructor
  · exact exists_rounds_of_leads hstep greedy s v
  · rintro ⟨t, u, rfl, rfl, m, h⟩
    exact leads_of_rounds hstep greedy h

/-- **The matcher finds what is matched.** Its ways lead to the ends of the pieces that the
expression matches. -/
theorem reaches_ways (r : Regex) : Reaches r.ways r.Matches := by
  induction r with
  | chars sets => exact reaches_charsWays sets
  | assert condition =>
      intro s v q
      by_cases h : condition.holds s.getLast? v.head? = true
      · rw [ways, between, if_pos h]
        constructor
        · intro hq
          rw [leads_stay] at hq
          subst hq
          exact ⟨[], v, rfl, by simp [between], rfl, h⟩
        · rintro ⟨_, u, rfl, rfl, rfl, -⟩
          simp [between]
      · rw [ways, between, if_neg h]
        refine iff_of_false (leads_nil q) ?_
        rintro ⟨_, u, rfl, -, rfl, h'⟩
        exact h h'
  | seq r r' ih ih' => exact ih.chain ih'
  | alt r r' ih ih' => exact ih.prefer ih' true
  | rep r least most greedy ih =>
      cases most with
      | none =>
          refine (reaches_roundWays ih (reaches_loopWays ih greedy) least).congr fun s t u => ?_
          constructor
          · rintro ⟨t₁, t₂, rfl, hleast, m, hm⟩
            exact ⟨least + m, Nat.le_add_right .., by simp,
              (rounds_add least m).mpr ⟨t₁, t₂, rfl, hleast, hm⟩⟩
          · rintro ⟨n, hle, -, hrounds⟩
            obtain ⟨m, rfl⟩ := Nat.exists_eq_add_of_le hle
            obtain ⟨t₁, t₂, ht, hleast, hm⟩ := (rounds_add least m).mp hrounds
            exact ⟨t₁, t₂, ht, hleast, m, hm⟩
      | some most =>
          refine (reaches_roundWays ih (reaches_upToWays ih greedy (most - least)) least).congr
            fun s t u => ?_
          constructor
          · rintro ⟨t₁, t₂, rfl, hleast, m, hle, hm⟩
            refine ⟨least + m, Nat.le_add_right .., fun k hk => ?_,
              (rounds_add least m).mpr ⟨t₁, t₂, rfl, hleast, hm⟩⟩
            cases hk
            omega
          · rintro ⟨n, hle, hmost, hrounds⟩
            obtain ⟨m, rfl⟩ := Nat.exists_eq_add_of_le hle
            obtain ⟨t₁, t₂, ht, hleast, hm⟩ := (rounds_add least m).mp hrounds
            have := hmost most rfl
            exact ⟨t₁, t₂, ht, hleast, m, by omega, hm⟩
  | group name r ih =>
      intro s v q
      refine Iff.trans ?_ (ih s v q)
      simp [Leads, ways, Way.named]

/-! ### Searching -/

theorem mem_placesFrom_iff (s v : Text) {p : Place} :
    p ∈ placesFrom s.length s.getLast? v ↔ ∃ t u, v = t ++ u ∧ p = between (s ++ t) u := by
  induction v generalizing s with
  | nil =>
      rw [placesFrom, List.mem_singleton]
      constructor
      · rintro rfl
        exact ⟨[], [], rfl, by simp [between]⟩
      · rintro ⟨t, u, h, rfl⟩
        obtain ⟨rfl, rfl⟩ := List.append_eq_nil_iff.mp h.symm
        simp [between]
  | cons c v ih =>
      have hnext := ih (s ++ [c])
      rw [List.length_append, List.length_singleton, List.getLast?_concat] at hnext
      rw [placesFrom, List.mem_cons, hnext]
      constructor
      · rintro (rfl | ⟨t, u, rfl, rfl⟩)
        · exact ⟨[], c :: v, rfl, by simp [between]⟩
        · exact ⟨c :: t, u, rfl, by simp⟩
      · rintro ⟨t, u, hv, rfl⟩
        cases t with
        | nil =>
            left
            rw [List.nil_append] at hv
            simp [between, hv]
        | cons d t =>
            obtain ⟨rfl, rfl⟩ := List.cons.inj hv
            exact .inr ⟨t, u, rfl, by simp⟩

/-- **An expression matches in a text if it matches a piece of it.** -/
theorem isMatch_iff (r : Regex) (v : Text) :
    r.isMatch v = true ↔ ∃ s t u, v = s ++ t ++ u ∧ r.Matches s t u := by
  have hfirst (p : Place) : (Way.first (r.ways p) fun _ => some []).isSome = true ↔
      ∃ q, Leads (r.ways p) q := by
    cases hways : r.ways p with
    | nil => simp
    | cons w ws => simp [Way.first, Leads]
  rw [isMatch, search_eq, List.findSome?_isSome_iff]
  constructor
  · rintro ⟨p, hp, hsome⟩
    obtain ⟨s, v', rfl, rfl⟩ := (mem_placesFrom_iff [] v).mp hp
    obtain ⟨q, hq⟩ := (hfirst _).mp hsome
    obtain ⟨t, u, rfl, -, h⟩ := (r.reaches_ways _ _ q).mp hq
    exact ⟨s, t, u, by simp, h⟩
  · rintro ⟨s, t, u, rfl, h⟩
    refine ⟨between s (t ++ u), (mem_placesFrom_iff [] _).mpr ⟨s, t ++ u, by simp, by simp⟩, ?_⟩
    exact (hfirst _).mpr ⟨_, (r.reaches_ways _ _ _).mpr ⟨t, u, rfl, rfl, h⟩⟩

/-- Expressions in a row, joined or not, match what the first and the others match. -/
theorem matches_concat_cons {r : Regex} {rs : List Regex} {s t u : Text} :
    (concat (r :: rs)).Matches s t u ↔
      ∃ t₁ t₂, t = t₁ ++ t₂ ∧ r.Matches s t₁ (t₂ ++ u) ∧ (concat rs).Matches (s ++ t₁) t₂ u := by
  have hways : (concat (r :: rs)).ways = fun p => chain (r.ways p) (concat rs).ways := by
    funext p
    rw [ways_concat, funext (ways_concat rs), seqWays]
  have hjoined := (concat (r :: rs)).reaches_ways
  rw [hways] at hjoined
  exact hjoined.unique (r.reaches_ways.chain (concat rs).reaches_ways)

/-- An expression between the anchors of a text matches there if nothing is before or after. -/
theorem matches_anchored_iff {r : Regex} {s t u : Text} :
    (concat [assert .textStart, r, assert .textEnd]).Matches s t u ↔
      s = [] ∧ u = [] ∧ r.Matches [] t [] := by
  have hempty {s t u : Text} : (concat []).Matches s t u ↔ t = [] := List.forall₂_nil_left_iff
  rw [matches_concat_cons]
  simp only [matches_concat_cons, hempty]
  constructor
  · rintro ⟨_, _, rfl, ⟨rfl, hstart⟩, t, _, rfl, h, _, _, rfl, ⟨rfl, hend⟩, rfl⟩
    obtain rfl : s = [] := by simpa [Assertion.holds] using hstart
    obtain rfl : u = [] := by simpa [Assertion.holds] using hend
    exact ⟨rfl, rfl, by simpa using h⟩
  · rintro ⟨rfl, rfl, h⟩
    exact ⟨[], t, rfl, ⟨rfl, rfl⟩, t, [], by simp, by simpa using h, [], [], rfl,
      ⟨rfl, by simp [Assertion.holds]⟩, rfl⟩

/-- **Between the anchors of a text an expression has to match all of it.** -/
theorem isMatch_anchored_iff (r : Regex) (v : Text) :
    (concat [assert .textStart, r, assert .textEnd]).isMatch v = true ↔ r.Matches [] v [] := by
  simp only [isMatch_iff, matches_anchored_iff]
  constructor
  · rintro ⟨_, t, _, rfl, rfl, rfl, h⟩
    simpa using h
  · intro h
    exact ⟨[], v, [], by simp, rfl, rfl, h⟩

end UriRouting.Regex
