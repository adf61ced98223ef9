import UriRouting.Regex.Matching

/-!
# UriRouting.Proofs.Regex.Blind

Expressions that do not see what a map of characters changes (`Regex.Blind`). Each of their sets
has a character if it has the image, and each of their assertions holds between two characters
if it holds between the images.

* `run_map` — such an expression has the same row for the places of a text and for those of its
  image;
* `search_map` — so a search finds the same captures in both, at the same places.
-/

namespace UriRouting.Regex

open Unicode (CharSet)

variable {f : Char → Char}

/-- The place with the characters around it replaced by their images. -/
def Site.map (f : Char → Char) (s : Site) : Site :=
  ⟨s.offset, s.before.map f, s.after.map f⟩

theorem sitesFrom_map (offset : Nat) (before : Option Char) (t : Text) :
    sitesFrom offset (before.map f) (t.map f) = (sitesFrom offset before t).map (Site.map f) := by
  induction t generalizing offset before with
  | nil => rfl
  | cons c t ih =>
      have htail := ih (offset + 1) (some c)
      rw [Option.map_some] at htail
      rw [List.map_cons, sitesFrom, htail, sitesFrom, List.map_cons]
      rfl

theorem sites_map (t : Text) : sites (t.map f) = (sites t).map (Site.map f) :=
  sitesFrom_map 0 none t

/-- The expression does not see what the map changes. -/
def Blind (f : Char → Char) : Regex → Prop
  | chars sets => ∀ set ∈ sets, ∀ c, set.contains (f c) = set.contains c
  | assert condition => ∀ before after,
    condition.holds (before.map f) (after.map f) = condition.holds before after
  | seq r r' | alt r r' => r.Blind f ∧ r'.Blind f
  | rep r _ _ _ => r.Blind f
  | group _ r => r.Blind f

/-! ### Rows -/

theorem any_contains_map {set : CharSet} (hset : ∀ c, set.contains (f c) = set.contains c)
    (after : Option Char) : (after.map f).any set.contains = after.any set.contains := by
  cases after with
  | none => rfl
  | some c => exact hset c

theorem follow_map {sets : List CharSet}
    (hsets : ∀ set ∈ sets, ∀ c, set.contains (f c) = set.contains c) (ss : List Site)
    (ks : Row) : follow sets (ss.map (Site.map f)) ks = follow sets ss ks := by
  induction sets generalizing ss ks with
  | nil => simp [follow]
  | cons set sets ih =>
      cases ss with
      | nil => rfl
      | cons s ss =>
          cases ks with
          | nil => rfl
          | cons k ks =>
              have hset := any_contains_map (hsets set (List.mem_cons_self ..)) s.after
              have htail := ih (fun set hmem => hsets set (List.mem_cons_of_mem _ hmem)) ss ks
              rw [List.map_cons, follow, follow, htail, Site.map, hset]

theorem followRow_map {sets : List CharSet}
    (hsets : ∀ set ∈ sets, ∀ c, set.contains (f c) = set.contains c) (ss : List Site)
    (ks : Row) : followRow sets (ss.map (Site.map f)) ks = followRow sets ss ks := by
  induction ss generalizing ks with
  | nil => rfl
  | cons s ss ih =>
      cases ks with
      | nil => rfl
      | cons k ks =>
          have hhead := follow_map hsets (s :: ss) (k :: ks)
          rw [List.map_cons] at hhead
          rw [List.map_cons, followRow, followRow, hhead, ih]

theorem loopRow_map {greedy : Bool} {step : List Site → Row → Option Captures}
    (hstep : ∀ ss ks, step (ss.map (Site.map f)) ks = step ss ks) (ss : List Site) (ks : Row) :
    loopRow greedy step (ss.map (Site.map f)) ks = loopRow greedy step ss ks := by
  induction ss generalizing ks with
  | nil => rfl
  | cons s ss ih =>
      cases ks with
      | nil => rfl
      | cons k ks =>
          have hhead := hstep (s :: ss) (none :: loopRow greedy step ss ks)
          rw [List.map_cons] at hhead
          simp only [List.map_cons, loopRow, ih, hhead]

/-- What is read off the offset of each place is read off its image. -/
theorem zipWith_site_map {g g' : Site → Option Captures → Option Captures}
    (h : ∀ s k, g (s.map f) k = g' s k) (ss : List Site) (ks : Row) :
    List.zipWith g (ss.map (Site.map f)) ks = List.zipWith g' ss ks := by
  rw [List.zipWith_map_left]
  congr 1
  funext s k
  exact h s k

/-- **An expression has the same row for a text and for its image** if it does not see the
difference. -/
theorem run_map {r : Regex} (hr : r.Blind f) (ss : List Site) (ks : Row) :
    r.run (ss.map (Site.map f)) ks = r.run ss ks := by
  induction r generalizing ss ks with
  | chars sets => exact followRow_map hr ss ks
  | assert condition =>
      refine zipWith_site_map (fun s k => ?_) ss ks
      rw [Site.map, hr]
  | seq r r' ih ih' => rw [run, run, ih hr.1, ih' hr.2]
  | alt r r' ih ih' => rw [run, run, ih hr.1, ih' hr.2]
  | rep r least most greedy ih =>
      have hrun : r.run (ss.map (Site.map f)) = r.run ss := funext (ih hr ss)
      cases most with
      | none =>
          refine (congrArg (rounds _ least) (loopRow_map ?step ss ks)).trans ?_
          case step =>
            intro ss ks
            -- a body that is a row of characters is followed, any other one is run
            split
            · exact follow_map hr ss ks
            · exact congrArg (fun row : Row => row.head?.join) (ih hr ss ks)
          rw [hrun]
          rfl
      | some most => rw [run, run, hrun]
  | group name r ih =>
      have hzip (g : Nat → Option Captures → Option Captures) (ks : Row) :
          List.zipWith (fun s k => g s.offset k) (ss.map (Site.map f)) ks =
            List.zipWith (fun s k => g s.offset k) ss ks :=
        zipWith_site_map (fun _ _ => rfl) ss ks
      rw [run, run, hzip fun offset k => k.map (Captures.stopAt name offset), ih hr,
        hzip fun offset k => k.map (Captures.startAt name offset)]

/-- **A search finds the same captures in a text and in its image.** -/
theorem search_map {r : Regex} (hr : r.Blind f) (t : Text) : r.search (t.map f) = r.search t := by
  rw [search, sites_map, run_map hr, accepting, List.length_map]
  rfl

/-! ### Building expressions -/

theorem blind_append {r r' : Regex} (hr : r.Blind f) (hr' : r'.Blind f) :
    (r.append r').Blind f := by
  unfold append
  split
  · exact hr'
  · exact List.forall_mem_append.mpr ⟨hr, hr'⟩
  · exact ⟨List.forall_mem_append.mpr ⟨hr, hr'.1⟩, hr'.2⟩
  · exact hr
  · exact ⟨hr, hr'⟩

theorem blind_concat {rs : List Regex} (h : ∀ r ∈ rs, r.Blind f) : (concat rs).Blind f := by
  induction rs with
  | nil => exact fun set hset => by cases hset
  | cons r rs ih =>
      rw [List.forall_mem_cons] at h
      exact blind_append h.1 (ih h.2)

theorem blind_repeated {r : Regex} (hr : r.Blind f) (least : Nat) (most : Option Nat)
    (greedy : Bool) : (repeated r least most greedy).Blind f := by
  unfold repeated
  split
  · exact fun set hset => by cases hset
  · split
    · exact hr
    · exact hr

end UriRouting.Regex
