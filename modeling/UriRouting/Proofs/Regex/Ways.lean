import UriRouting.Regex.Matching

/-!
# UriRouting.Proofs.Regex.Ways

The matcher `Regex.run` fills in a row for all places of a text at once. This module says
what the rows mean, one place at a time, without rows:

* `Regex.ways` lists the ways in which an expression matches from a place, the preferred
  one first. It is the textbook backtracking matcher as a list of successes;
* `run_eq_rowFrom` — the entry of a row is the first of these ways that leads on to a match;
* `search_eq` — a search takes the first way from the first place that has one.

The list of ways keeps what the row throws away. That a match exists, and which of
several is taken, are both read off it: the first by membership, the second by the order.
-/

namespace UriRouting.Regex

open Unicode (CharSet)

/-! ### Places -/

/-- A place in a text that is gone through from left to right. -/
structure Place where
  /-- The number of characters before the place. -/
  offset : Nat
  /-- The character before the place. -/
  before : Option Char
  /-- The text after the place. -/
  rest : Text
  deriving DecidableEq

/-- What an expression sees of a place. -/
def Place.site (p : Place) : Site :=
  ⟨p.offset, p.before, p.rest.head?⟩

/-- The places of a text that follows `before`, counted from `offset`. -/
def placesFrom (offset : Nat) (before : Option Char) : Text → List Place
  | [] => [⟨offset, before, []⟩]
  | c :: t => ⟨offset, before, c :: t⟩ :: placesFrom (offset + 1) (some c) t

theorem sitesFrom_eq_map (offset : Nat) (before : Option Char) (t : Text) :
    sitesFrom offset before t = (placesFrom offset before t).map Place.site := by
  induction t generalizing offset before with
  | nil => rfl
  | cons c t ih => simp [sitesFrom, placesFrom, Place.site, ih]

/-- The first of the places of a text is the one at its start. -/
theorem placesFrom_eq_cons (offset : Nat) (before : Option Char) (t : Text) :
    ∃ places, placesFrom offset before t = ⟨offset, before, t⟩ :: places := by
  cases t with
  | nil => exact ⟨[], rfl⟩
  | cons c t => exact ⟨placesFrom (offset + 1) (some c) t, rfl⟩

/-- The places of a text are followed by parts of it only. -/
theorem length_rest_of_mem_placesFrom {offset : Nat} {before : Option Char} {t : Text}
    {p : Place} (h : p ∈ placesFrom offset before t) : p.rest.length ≤ t.length := by
  induction t generalizing offset before with
  | nil =>
      rw [placesFrom, List.mem_singleton] at h
      subst h
      exact Nat.le_refl _
  | cons c t ih =>
      rw [placesFrom, List.mem_cons] at h
      rcases h with rfl | h
      · exact Nat.le_refl _
      · exact Nat.le_succ_of_le (ih h)

/-! ### Ways of matching -/

/-- A way in which an expression matches from some place: where it leads, and what it
does to the captures of what comes after. -/
structure Way where
  /-- The place where the match ends. -/
  stop : Place
  /-- What the groups of the expression add. -/
  record : Captures → Captures

namespace Way

/-- The way that matches the empty text. -/
def stay (p : Place) : Way :=
  ⟨p, id⟩

/-- A way followed by each of those from its end. -/
def andThen (w : Way) (ws : List Way) : List Way :=
  ws.map fun w' => ⟨w'.stop, w.record ∘ w'.record⟩

/-- The ways of a list, each followed by those that `f` gives from its end. -/
def chain (ws : List Way) (f : Place → List Way) : List Way :=
  ws.flatMap fun w => w.andThen (f w.stop)

theorem chain_cons (w : Way) (ws : List Way) (f : Place → List Way) :
    chain (w :: ws) f = w.andThen (f w.stop) ++ chain ws f := rfl

@[simp] theorem chain_stay (p : Place) (f : Place → List Way) : chain [stay p] f = f p := by
  simp [chain, andThen, stay]

theorem chain_stay_right (ws : List Way) : chain ws (fun p => [stay p]) = ws := by
  simp [chain, andThen, stay]

/-- It does not matter which of two continuations is taken first. -/
theorem chain_assoc (ws : List Way) (f g : Place → List Way) :
    chain (chain ws f) g = chain ws fun p => chain (f p) g := by
  simp [chain, andThen, List.flatMap_assoc, List.flatMap_map, List.map_flatMap,
    Function.comp_def]

/-- What the first way that leads on to a match records. -/
def first (ws : List Way) (k : Place → Option Captures) : Option Captures :=
  ws.findSome? fun w => (k w.stop).map w.record

@[simp] theorem first_nil (k : Place → Option Captures) : first [] k = none := rfl

@[simp] theorem first_stay (p : Place) (k : Place → Option Captures) :
    first [stay p] k = k p := by
  simp [first, stay]

theorem first_append (as bs : List Way) (k : Place → Option Captures) :
    first (as ++ bs) k = (first as k <|> first bs k) := by
  simp [first, Option.orElse_eq_or]

/-- What a way records comes on top of what is recorded after it. -/
theorem first_andThen (w : Way) (ws : List Way) (k : Place → Option Captures) :
    first (w.andThen ws) k = (first ws k).map w.record := by
  simp only [first, andThen, List.findSome?_map, List.map_findSome?]
  congr 1
  funext w'
  simp [Function.comp_def]

/-- Going on from a list of ways is going on from the first of them that leads on. -/
theorem first_chain (ws : List Way) (f : Place → List Way) (k : Place → Option Captures) :
    first (chain ws f) k = first ws fun p => first (f p) k := by
  induction ws with
  | nil => rfl
  | cons w ws ih =>
      rw [chain_cons, first_append, ih, first_andThen]
      simp only [first, List.findSome?_cons]
      cases ((f w.stop).findSome? fun w => (k w.stop).map w.record).map w.record <;> rfl

end Way

open Way (stay chain first)

/-- Both lists of ways, in the order that `greedy` asks for. -/
def preferWays (greedy : Bool) (more done : List Way) : List Way :=
  if greedy then more ++ done else done ++ more

/-- The ways to pass a row of characters. -/
def charsWays : List CharSet → Place → List Way
  | [], p => [stay p]
  | set :: sets, ⟨offset, _, c :: t⟩ =>
    if set.contains c then charsWays sets ⟨offset + 1, some c, t⟩ else []
  | _ :: _, ⟨_, _, []⟩ => []

/-- The ways to take any number of rounds, each of which moves on. -/
def loopWays (step : Place → List Way) (greedy : Bool) (p : Place) : List Way :=
  let more := chain (step p) fun q =>
    if q.rest.length < p.rest.length then loopWays step greedy q else []
  preferWays greedy more [stay p]
termination_by p.rest.length

/-- The ways to take `n` rounds and to go on from there. -/
def roundWays (step next : Place → List Way) : Nat → Place → List Way
  | 0, p => next p
  | n + 1, p => chain (step p) (roundWays step next n)

/-- The ways to take at most `n` rounds. -/
def upToWays (step : Place → List Way) (greedy : Bool) : Nat → Place → List Way
  | 0, p => [stay p]
  | n + 1, p =>
    preferWays greedy (chain (step p) (upToWays step greedy n)) [stay p]

/-- A way under a name: the place where it starts and the place where it ends are kept. -/
def Way.named (name : Text) (start : Nat) (w : Way) : Way :=
  ⟨w.stop, fun caps =>
    Captures.startAt name start (w.record (Captures.stopAt name w.stop.offset caps))⟩

/-- The ways in which an expression matches from a place, the preferred one first. -/
def ways : Regex → Place → List Way
  | chars sets, p => charsWays sets p
  | assert condition, p => if condition.holds p.before p.rest.head? then [stay p] else []
  | seq r r', p => chain (r.ways p) r'.ways
  | alt r r', p => r.ways p ++ r'.ways p
  | rep r least none greedy, p => roundWays r.ways (loopWays r.ways greedy) least p
  | rep r least (some most) greedy, p =>
    roundWays r.ways (upToWays r.ways greedy (most - least)) least p
  | group name r, p => (r.ways p).map (Way.named name p.offset)

/-! ### Rows and ways -/

/-- The row of what `k` says at each place of a text. -/
def rowFrom (offset : Nat) (before : Option Char) (t : Text) (k : Place → Option Captures) :
    Row :=
  (placesFrom offset before t).map k

theorem rowFrom_cons (offset : Nat) (before : Option Char) (c : Char) (t : Text)
    (k : Place → Option Captures) :
    rowFrom offset before (c :: t) k =
      k ⟨offset, before, c :: t⟩ :: rowFrom (offset + 1) (some c) t k := rfl

theorem head?_rowFrom (offset : Nat) (before : Option Char) (t : Text)
    (k : Place → Option Captures) :
    (rowFrom offset before t k).head?.join = k ⟨offset, before, t⟩ := by
  obtain ⟨places, h⟩ := placesFrom_eq_cons offset before t
  simp [rowFrom, h]

/-- Rows are joined place by place. -/
theorem zipWith_rowFrom (f : Option Captures → Option Captures → Option Captures)
    (offset : Nat) (before : Option Char) (t : Text) (k k' : Place → Option Captures) :
    List.zipWith f (rowFrom offset before t k) (rowFrom offset before t k') =
      rowFrom offset before t fun p => f (k p) (k' p) := by
  simp [rowFrom, List.zipWith_map, List.zipWith_self]

theorem zipWith_sitesFrom (f : Site → Option Captures → Option Captures)
    (offset : Nat) (before : Option Char) (t : Text) (k : Place → Option Captures) :
    List.zipWith f (sitesFrom offset before t) (rowFrom offset before t k) =
      rowFrom offset before t fun p => f p.site (k p) := by
  simp [rowFrom, sitesFrom_eq_map, List.zipWith_map, List.zipWith_self]

/-- The preferred one of two outcomes is the first of the ways to both. -/
theorem prefer_first (greedy : Bool) (more done : List Way) (k : Place → Option Captures) :
    prefer greedy (first more k) (first done k) = first (preferWays greedy more done) k := by
  cases greedy <;> simp [prefer, preferWays, Way.first_append]

theorem follow_eq_first (sets : List CharSet) (offset : Nat) (before : Option Char) (t : Text)
    (k : Place → Option Captures) :
    follow sets (sitesFrom offset before t) (rowFrom offset before t k) =
      first (charsWays sets ⟨offset, before, t⟩) k := by
  induction sets generalizing offset before t with
  | nil => simp [follow, head?_rowFrom, charsWays]
  | cons set sets ih =>
      cases t with
      | nil => simp [sitesFrom, rowFrom, placesFrom, follow, charsWays]
      | cons c t =>
          rw [sitesFrom, rowFrom_cons, follow, ih, charsWays]
          by_cases h : set.contains c <;> simp [h]

theorem followRow_eq_rowFrom (sets : List CharSet) (offset : Nat) (before : Option Char)
    (t : Text) (k : Place → Option Captures) :
    followRow sets (sitesFrom offset before t) (rowFrom offset before t k) =
      rowFrom offset before t fun p => first (charsWays sets p) k := by
  induction t generalizing offset before with
  | nil =>
      have h := follow_eq_first sets offset before [] k
      simp only [sitesFrom, rowFrom, placesFrom, List.map_cons, List.map_nil] at h ⊢
      rw [followRow, h, followRow]
      -- there is no later place, so the equation for two places does not apply
      intro _ _ _ _ h _
      exact absurd h (by simp)
  | cons c t ih =>
      have h := follow_eq_first sets offset before (c :: t) k
      rw [sitesFrom, rowFrom_cons] at h ⊢
      rw [followRow, h, ih, rowFrom_cons]

/-- The step of a loop at its first place: what is left to the loop is the row of later
places, so a round that does not move on leads nowhere. -/
theorem prefer_step {step : List Site → Row → Option Captures} {ways : Place → List Way}
    (hstep : ∀ offset before t k, step (sitesFrom offset before t) (rowFrom offset before t k) =
      first (ways ⟨offset, before, t⟩) k)
    (greedy : Bool) (offset : Nat) (before : Option Char) (t : Text)
    (k : Place → Option Captures) {row : Row}
    (hrow : none :: row = rowFrom offset before t fun q =>
      if q.rest.length < t.length then first (loopWays ways greedy q) k else none) :
    prefer greedy (step (sitesFrom offset before t) (none :: row)) (k ⟨offset, before, t⟩) =
      first (loopWays ways greedy ⟨offset, before, t⟩) k := by
  have hnext : (fun q : Place =>
      if q.rest.length < t.length then first (loopWays ways greedy q) k else none) =
      fun q => first (if q.rest.length < t.length then loopWays ways greedy q else []) k := by
    funext q
    split <;> rfl
  rw [hrow, hstep, hnext, ← Way.first_chain, ← Way.first_stay ⟨offset, before, t⟩ k,
    prefer_first, loopWays]

/-- `loopRow` is a loop at each place. -/
theorem loopRow_eq_rowFrom {step : List Site → Row → Option Captures}
    {ways : Place → List Way}
    (hstep : ∀ offset before t k, step (sitesFrom offset before t) (rowFrom offset before t k) =
      first (ways ⟨offset, before, t⟩) k)
    (greedy : Bool) (offset : Nat) (before : Option Char) (t : Text)
    (k : Place → Option Captures) :
    loopRow greedy step (sitesFrom offset before t) (rowFrom offset before t k) =
      rowFrom offset before t fun p => first (loopWays ways greedy p) k := by
  induction t generalizing offset before with
  | nil =>
      have hrow : ([none] : Row) = rowFrom offset before [] fun q =>
          if q.rest.length < 0 then first (loopWays ways greedy q) k else none := rfl
      have h := prefer_step hstep greedy offset before [] k hrow
      simp only [sitesFrom, rowFrom, placesFrom, List.map_cons, List.map_nil] at h ⊢
      rw [loopRow, loopRow, h]
      all_goals intro _ _ _ _ h _; exact absurd h (by simp)
  | cons c t ih =>
      have hrow : (none :: rowFrom (offset + 1) (some c) t fun q =>
          first (loopWays ways greedy q) k) = rowFrom offset before (c :: t) fun q =>
            if q.rest.length < (c :: t).length then first (loopWays ways greedy q) k
            else none := by
        -- the loop may be at any place but the first, which has all of the text before it
        rw [rowFrom_cons, if_neg (Nat.lt_irrefl _)]
        congr 1
        apply List.map_congr_left
        intro q hq
        exact (if_pos (Nat.lt_succ_of_le (length_rest_of_mem_placesFrom hq))).symm
      have h := prefer_step hstep greedy offset before (c :: t) k hrow
      rw [sitesFrom] at h ⊢
      rw [rowFrom_cons, loopRow, ih, h, rowFrom_cons]

/-- Rounds on rows are rounds at each place. -/
theorem rounds_eq_rowFrom {step : Row → Row} {ways next : Place → List Way}
    {offset : Nat} {before : Option Char} {t : Text}
    (hstep : ∀ k, step (rowFrom offset before t k) =
      rowFrom offset before t fun p => first (ways p) k)
    (k : Place → Option Captures) (n : Nat) :
    rounds step n (rowFrom offset before t fun p => first (next p) k) =
      rowFrom offset before t fun p => first (roundWays ways next n p) k := by
  induction n with
  | zero => rfl
  | succ n ih =>
      simp only [rounds, ih, hstep, roundWays, Way.first_chain]

/-- At most `n` rounds on rows are at most `n` rounds at each place. -/
theorem rounds_eq_upToWays {run : Row → Row} {ways : Place → List Way}
    {offset : Nat} {before : Option Char} {t : Text}
    (hrun : ∀ k, run (rowFrom offset before t k) =
      rowFrom offset before t fun p => first (ways p) k)
    (greedy : Bool) (k : Place → Option Captures) (n : Nat) :
    rounds (fun row => List.zipWith (prefer greedy) (run row) (rowFrom offset before t k)) n
        (rowFrom offset before t k) =
      rowFrom offset before t fun p => first (upToWays ways greedy n p) k := by
  induction n with
  | zero => simp [rounds, upToWays]
  | succ n ih =>
      rw [rounds, ih, hrun, zipWith_rowFrom]
      congr 1
      funext p
      rw [upToWays, ← prefer_first, Way.first_chain, Way.first_stay]

/-- **The matcher takes the first way.** The entry of a row is what the first way from its
place, of those that lead on, records. The induction is on the expression, for all rows;
a loop needs its body at the rows that the loop itself makes. -/
theorem run_eq_rowFrom (r : Regex) (offset : Nat) (before : Option Char) (t : Text)
    (k : Place → Option Captures) :
    r.run (sitesFrom offset before t) (rowFrom offset before t k) =
      rowFrom offset before t fun p => first (r.ways p) k := by
  induction r generalizing offset before t k with
  | chars sets => exact followRow_eq_rowFrom sets offset before t k
  | assert condition =>
      rw [run, zipWith_sitesFrom]
      congr 1
      funext p
      by_cases h : condition.holds p.before p.rest.head? <;> simp [Place.site, ways, h]
  | seq r r' ih ih' => simp only [run, ih', ih, ways, Way.first_chain]
  | alt r r' ih ih' =>
      rw [run, ih, ih', zipWith_rowFrom]
      simp only [prefer_first]
      rfl
  | rep r least most greedy ih =>
      cases most with
      | none =>
          refine (congrArg (rounds (r.run _) least)
            (@loopRow_eq_rowFrom _ r.ways ?step greedy offset before t k)).trans ?_
          case step =>
            intro offset before t k
            -- a body that is a row of characters is followed, any other one is run
            split
            · exact follow_eq_first _ offset before t k
            · exact (congrArg (fun row : Row => row.head?.join) (ih offset before t k)).trans
                (head?_rowFrom offset before t _)
          rw [rounds_eq_rowFrom (ih offset before t)]
          rfl
      | some most =>
          rw [run, rounds_eq_upToWays (ih offset before t),
            rounds_eq_rowFrom (ih offset before t)]
          rfl
  | group name r ih =>
      rw [run, zipWith_sitesFrom, ih, zipWith_sitesFrom]
      congr 1
      funext p
      simp [ways, first, Way.named, List.findSome?_map, List.map_findSome?, Function.comp_def,
        Place.site]

/-- **A search takes the first way** from the first place that has one. -/
theorem search_eq (r : Regex) (t : Text) :
    r.search t = (placesFrom 0 none t).findSome? fun p => first (r.ways p) fun _ => some [] := by
  have hall : accepting t = rowFrom 0 none t fun _ => some [] := by
    rw [accepting, rowFrom, List.map_const', ← length_sites t, sites, sitesFrom_eq_map,
      List.length_map]
  rw [search, hall, sites, run_eq_rowFrom, rowFrom, List.findSome?_map]
  rfl

/-! ### Expressions in a row -/

/-- The ways to match expressions in a row. -/
def seqWays : List Regex → Place → List Way
  | [], p => [stay p]
  | r :: rs, p => chain (r.ways p) (seqWays rs)

theorem seqWays_append (rs rs' : List Regex) (p : Place) :
    seqWays (rs ++ rs') p = chain (seqWays rs p) (seqWays rs') := by
  induction rs generalizing p with
  | nil => simp [seqWays]
  | cons r rs ih =>
      rw [List.cons_append, seqWays, seqWays, Way.chain_assoc]
      congr 1
      funext q
      exact ih q

theorem charsWays_append (sets sets' : List CharSet) (p : Place) :
    charsWays (sets ++ sets') p = chain (charsWays sets p) (charsWays sets') := by
  induction sets generalizing p with
  | nil => simp [charsWays]
  | cons set sets ih =>
      obtain ⟨offset, before, t⟩ := p
      cases t with
      | nil => rfl
      | cons c t =>
          rw [List.cons_append, charsWays, charsWays]
          split
          · exact ih _
          · rfl

/-- Joining rows of characters changes no way of matching. -/
theorem ways_append (r r' : Regex) (p : Place) :
    (r.append r').ways p = chain (r.ways p) r'.ways := by
  unfold append
  split
  · simp [ways, charsWays]
  · exact charsWays_append _ _ p
  · simp only [ways, charsWays_append, Way.chain_assoc]
  · exact (Way.chain_stay_right _).symm
  · rfl

theorem ways_concat (rs : List Regex) (p : Place) : (concat rs).ways p = seqWays rs p := by
  induction rs generalizing p with
  | nil => rfl
  | cons r rs ih =>
      rw [concat, List.foldr_cons, ways_append, seqWays]
      congr 1
      funext q
      exact ih q

/-- A part that may be left out is taken if possible. -/
theorem ways_optional (r : Regex) (p : Place) :
    (rep r 0 (some 1) true).ways p = r.ways p ++ [stay p] := by
  simp [ways, roundWays, upToWays, preferWays, Way.chain_stay_right]

end UriRouting.Regex
