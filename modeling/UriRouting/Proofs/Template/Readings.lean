import UriRouting.Proofs.Template.Expression
import UriRouting.Proofs.Template.Split

/-!
# UriRouting.Proofs.Template.Readings

The splits of a subject as a list. `splits` is computed token by token, from the ways to
read a start of a text as a piece (`Reading`), and the greatest split comes first:

* `mem_splits` — the list has every split and nothing else;
* `pairwise_splits` — it is in order;
* `head?_splits_eq_some_iff` — its head is the greatest split.

A text is read in the same order as an expression prefers its ways of matching, so this is
what a search through the expression of a template is compared with.
-/

namespace UriRouting.Template

/-! ### Cutting off values -/

/-- The ways to cut off a start of a text with characters of one kind only, the longest
first, each with what it leaves. -/
def initials (allowed : Char → Bool) : Text → List (Text × Text)
  | [] => [([], [])]
  | c :: t =>
    (if allowed c then (initials allowed t).map fun cut => (c :: cut.1, cut.2) else []) ++
      [([], c :: t)]

theorem mem_initials {allowed : Char → Bool} {t value rest : Text} :
    (value, rest) ∈ initials allowed t ↔
      t = value ++ rest ∧ ∀ c ∈ value, allowed c = true := by
  induction t generalizing value with
  | nil =>
      rw [initials, List.mem_singleton, Prod.mk.injEq, List.nil_eq, List.append_eq_nil_iff]
      constructor
      · intro h
        obtain ⟨rfl, rfl⟩ := h
        exact ⟨⟨rfl, rfl⟩, by simp⟩
      · exact fun h => h.1
  | cons c t ih =>
      rw [initials, List.mem_append, List.mem_singleton]
      cases value with
      | nil =>
          have hnot : ([], rest) ∉ (initials allowed t).map fun cut => (c :: cut.1, cut.2) := by
            simp
          by_cases hc : allowed c = true <;> simp [hc, hnot, eq_comm (a := rest)]
      | cons d value =>
          by_cases hc : allowed c = true
          · rw [if_pos hc, List.mem_map]
            constructor
            · intro h
              rcases h with ⟨⟨value', rest'⟩, hmem, heq⟩ | heq
              · cases heq
                obtain ⟨rfl, hall⟩ := ih.mp hmem
                exact ⟨rfl, List.forall_mem_cons.mpr ⟨hc, hall⟩⟩
              · cases heq
            · intro h
              obtain ⟨heq, hall⟩ := h
              cases heq
              exact .inl ⟨(value, rest), ih.mpr ⟨rfl, (List.forall_mem_cons.mp hall).2⟩, rfl⟩
          · rw [if_neg hc]
            simp only [List.not_mem_nil, Prod.mk.injEq, reduceCtorEq, false_and, or_false,
              List.cons_append, List.cons.injEq, List.forall_mem_cons, false_iff, not_and]
            rintro ⟨rfl, -⟩ hd
            exact absurd hd hc

/-- The cuts come with the longest first. -/
theorem pairwise_initials (allowed : Char → Bool) (t : Text) :
    (initials allowed t).Pairwise fun a b => b.1.length < a.1.length := by
  induction t with
  | nil => exact List.pairwise_singleton _ _
  | cons c t ih =>
      rw [initials, List.pairwise_append]
      refine ⟨?_, List.pairwise_singleton _ _, ?_⟩
      · split
        · exact List.pairwise_map.mpr (ih.imp Nat.succ_lt_succ)
        · exact .nil
      · intro a ha b hb
        rw [List.mem_singleton] at hb
        subst hb
        split at ha
        · obtain ⟨cut, -, rfl⟩ := List.mem_map.mp ha
          exact Nat.succ_pos _
        · cases ha

/-- The ways to cut off a value of a class, the longest first. -/
def ValueClass.cuts : ValueClass → Text → List (Text × Text)
  | anything, t => initials (fun _ => true) t
  | segment excluded, t =>
    (initials (fun c => c != '/' && excluded != some c) t).filter fun cut => !cut.1.isEmpty

theorem ValueClass.mem_cuts {kind : ValueClass} {t value rest : Text} :
    (value, rest) ∈ kind.cuts t ↔ t = value ++ rest ∧ kind.Admits value := by
  cases kind with
  | anything => simp [cuts, mem_initials, Admits]
  | segment excluded =>
      have hallowed : (∀ c ∈ value, (c != '/' && excluded != some c) = true) ↔
          '/' ∉ value ∧ ∀ c ∈ excluded, c ∉ value := by
        simp only [Bool.and_eq_true, bne_iff_ne, Option.mem_def]
        constructor
        · intro h
          exact ⟨fun hmem => (h _ hmem).1 rfl, fun c hc hmem => (h c hmem).2 hc⟩
        · rintro ⟨hslash, hexcluded⟩ c hc
          exact ⟨fun heq => hslash (heq ▸ hc), fun heq => hexcluded c heq hc⟩
      rw [cuts, List.mem_filter, mem_initials, hallowed, Admits]
      simp only [Bool.not_eq_true', List.isEmpty_eq_false_iff]
      constructor
      · intro h
        exact ⟨h.1.1, h.2, h.1.2⟩
      · intro h
        exact ⟨⟨h.1, h.2.2⟩, h.2.1⟩

theorem ValueClass.pairwise_cuts (kind : ValueClass) (t : Text) :
    (kind.cuts t).Pairwise fun a b => b.1.length < a.1.length := by
  cases kind with
  | anything => exact pairwise_initials _ t
  | segment excluded => exact (pairwise_initials _ t).filter _

/-! ### Readings -/

/-- A way to read a start of a text as pieces for some tokens: the values that the
variables get, and the text that is left. -/
structure Reading where
  /-- The values of the variables. -/
  values : List (Option Text)
  /-- The text that is left. -/
  rest : Text
  deriving DecidableEq, Repr

/-- The readings of a list, each followed by those that `f` gives of what it leaves. -/
def Reading.chain (rs : List Reading) (f : Text → List Reading) : List Reading :=
  rs.flatMap fun r => (f r.rest).map fun r' => ⟨r.values ++ r'.values, r'.rest⟩

open Reading (chain)

/-- What a text leaves after a literal that it starts with. -/
def dropLiteral (caseSensitive : Bool) : Text → Text → Option Text
  | [], t => some t
  | c :: literal, d :: t =>
    if sameChar caseSensitive c d then dropLiteral caseSensitive literal t else none
  | _ :: _, [] => none

/-- The readings of a text as a value. -/
def Variable.valueReadings (v : Variable) (t : Text) : List Reading :=
  (v.value.cuts t).map fun cut => ⟨[some cut.1], cut.2⟩

/-- The readings of a text as the separator of a variable. -/
def Variable.separatorReadings (v : Variable) (t : Text) : List Reading :=
  (dropLiteral true v.separator.toList t).toList.map fun rest => ⟨[], rest⟩

/-- The readings of a text as a piece for a token. -/
def Token.readings (caseSensitive : Bool) : Token → Text → List Reading
  | literal text, t => (dropLiteral caseSensitive text t).toList.map fun rest => ⟨[], rest⟩
  | var v, t => chain (v.separatorReadings t) v.valueReadings

/-- The readings of a text as pieces for all of some tokens. -/
def tokensReadings (caseSensitive : Bool) : List Token → Text → List Reading
  | [], t => [⟨[], t⟩]
  | token :: ts, t => chain (token.readings caseSensitive t) (tokensReadings caseSensitive ts)

/-- The readings of a text as pieces for tokens of which any number at the end may be left
out. -/
def optionalReadings (caseSensitive : Bool) : List Token → Text → List Reading
  | [], t => [⟨[], t⟩]
  | token :: ts, t =>
    chain (token.readings caseSensitive t) (optionalReadings caseSensitive ts) ++
      [⟨leftOut (token :: ts), t⟩]

/-- The readings of a text as a value, and as no value at all. -/
def Variable.maybeReadings (v : Variable) (t : Text) : List Reading :=
  v.valueReadings t ++ [⟨[none], t⟩]

/-- The readings of a text as pieces for a template. -/
def templateReadings (caseSensitive : Bool) (ts : List Token) (t : Text) : List Reading :=
  match leadingOptional? ts with
  | some (v, rest) =>
    chain (v.separatorReadings t) fun t =>
      chain (v.maybeReadings t) (optionalReadings caseSensitive rest)
  | none =>
    chain (tokensReadings caseSensitive (ts.take (firstOptional ts)) t)
      (optionalReadings caseSensitive (ts.drop (firstOptional ts)))

/-- The splits of a subject, the greatest one first. -/
def splits (caseSensitive : Bool) (ts : List Token) (subject : Text) :
    List (List (Option Text)) :=
  ((templateReadings caseSensitive ts subject).filter (·.rest.isEmpty)).map (·.values)

/-! ### Readings are splits -/

/-- A text and its values are put together from two texts and theirs. -/
def Joined (P Q : Text → List (Option Text) → Prop) (text : Text)
    (values : List (Option Text)) : Prop :=
  ∃ x y vs ws, text = x ++ y ∧ values = vs ++ ws ∧ P x vs ∧ Q y ws

/-- The readings in `rs` are those where `P` holds of the text that is taken from `t` and
its values. -/
def AreReadings (P : Text → List (Option Text) → Prop) (t : Text) (rs : List Reading) : Prop :=
  ∀ values rest, ⟨values, rest⟩ ∈ rs ↔ ∃ text, t = text ++ rest ∧ P text values

theorem AreReadings.congr {P Q : Text → List (Option Text) → Prop} {t : Text}
    {rs : List Reading} (h : AreReadings P t rs)
    (hPQ : ∀ text values, P text values ↔ Q text values) : AreReadings Q t rs := by
  intro values rest
  rw [h values rest]
  simp only [hPQ]

theorem areReadings_chain {P Q : Text → List (Option Text) → Prop} {t : Text}
    {rs : List Reading} {f : Text → List Reading} (h : AreReadings P t rs)
    (hf : ∀ t, AreReadings Q t (f t)) : AreReadings (Joined P Q) t (chain rs f) := by
  intro values rest
  rw [chain, List.mem_flatMap]
  constructor
  · intro hread
    obtain ⟨⟨vs, t'⟩, hmem, hmem'⟩ := hread
    obtain ⟨⟨ws, rest'⟩, hmem', heq⟩ := List.mem_map.mp hmem'
    obtain ⟨x, rfl, hP⟩ := (h vs t').mp hmem
    obtain ⟨y, hy, hQ⟩ := (hf t' ws rest').mp hmem'
    cases heq
    exact ⟨x ++ y, by rw [hy, List.append_assoc], x, y, vs, ws, rfl, rfl, hP, hQ⟩
  · intro hjoined
    obtain ⟨-, rfl, x, y, vs, ws, rfl, rfl, hP, hQ⟩ := hjoined
    refine ⟨⟨vs, y ++ rest⟩, (h _ _).mpr ⟨x, List.append_assoc _ _ _, hP⟩, List.mem_map.mpr ?_⟩
    exact ⟨⟨ws, rest⟩, (hf _ _ _).mpr ⟨y, rfl, hQ⟩, rfl⟩

theorem areReadings_append {P Q : Text → List (Option Text) → Prop} {t : Text}
    {rs rs' : List Reading} (h : AreReadings P t rs) (h' : AreReadings Q t rs') :
    AreReadings (fun text values => P text values ∨ Q text values) t (rs ++ rs') := by
  intro values rest
  rw [List.mem_append, h values rest, h' values rest, ← exists_or]
  simp only [and_or_left]

/-- The reading that takes nothing. -/
theorem areReadings_singleton (values : List (Option Text)) (t : Text) :
    AreReadings (fun text vs => text = [] ∧ vs = values) t [⟨values, t⟩] := by
  intro vs rest
  rw [List.mem_singleton, Reading.mk.injEq]
  constructor
  · intro h
    obtain ⟨rfl, rfl⟩ := h
    exact ⟨[], rfl, rfl, rfl⟩
  · intro h
    obtain ⟨-, rfl, rfl, rfl⟩ := h
    exact ⟨rfl, rfl⟩

theorem dropLiteral_eq_some {caseSensitive : Bool} {literal t rest : Text} :
    dropLiteral caseSensitive literal t = some rest ↔
      ∃ piece, t = piece ++ rest ∧ Spells caseSensitive literal piece := by
  induction literal generalizing t with
  | nil =>
      simp only [dropLiteral, Option.some.injEq, Spells, List.forall₂_nil_left_iff]
      constructor
      · rintro rfl
        exact ⟨[], rfl, rfl⟩
      · intro h
        obtain ⟨-, rfl, rfl⟩ := h
        rfl
  | cons c literal ih =>
      simp only [Spells, List.forall₂_cons_left_iff]
      cases t with
      | nil => simp [dropLiteral]
      | cons d t =>
          rw [dropLiteral, Option.ite_none_right_eq_some, ih]
          constructor
          · intro h
            obtain ⟨hsame, piece, rfl, hpiece⟩ := h
            exact ⟨d :: piece, rfl, d, piece, hsame, hpiece, rfl⟩
          · intro h
            obtain ⟨-, heq, d', piece, hsame, hpiece, rfl⟩ := h
            cases heq
            exact ⟨hsame, piece, rfl, hpiece⟩

theorem areReadings_dropLiteral (caseSensitive : Bool) (literal t : Text) :
    AreReadings (fun text values => Spells caseSensitive literal text ∧ values = []) t
      ((dropLiteral caseSensitive literal t).toList.map fun rest => ⟨[], rest⟩) := by
  intro values rest
  simp only [List.mem_map, Option.mem_toList, Reading.mk.injEq]
  constructor
  · intro h
    obtain ⟨_, hdrop, rfl, rfl⟩ := h
    obtain ⟨piece, rfl, hpiece⟩ := dropLiteral_eq_some.mp hdrop
    exact ⟨piece, rfl, hpiece, rfl⟩
  · intro h
    obtain ⟨piece, rfl, hpiece, rfl⟩ := h
    exact ⟨rest, dropLiteral_eq_some.mpr ⟨piece, rfl, hpiece⟩, rfl, rfl⟩

theorem spells_true_iff {literal text : Text} : Spells true literal text ↔ text = literal := by
  have hsame : (fun c d => sameChar true c d = true) = Eq := by
    funext c d
    simp [sameChar]
  rw [Spells, hsame, List.forall₂_eq_eq_eq, eq_comm]

theorem areReadings_separator (v : Variable) (t : Text) :
    AreReadings (fun text values => text = v.separator.toList ∧ values = []) t
      (v.separatorReadings t) :=
  (areReadings_dropLiteral true v.separator.toList t).congr fun _ _ => by rw [spells_true_iff]

theorem areReadings_value (v : Variable) (t : Text) :
    AreReadings (fun text values => v.value.Admits text ∧ values = [some text]) t
      (v.valueReadings t) := by
  intro values rest
  simp only [Variable.valueReadings, List.mem_map, Prod.exists, Reading.mk.injEq,
    ValueClass.mem_cuts]
  constructor
  · intro h
    obtain ⟨value, -, ⟨rfl, hvalue⟩, rfl, rfl⟩ := h
    exact ⟨value, rfl, hvalue, rfl⟩
  · intro h
    obtain ⟨value, rfl, hvalue, rfl⟩ := h
    exact ⟨value, rest, ⟨rfl, hvalue⟩, rfl, rfl⟩

theorem areReadings_maybe (v : Variable) (t : Text) :
    AreReadings (fun text values =>
        ∃ first, (∀ value ∈ first, v.value.Admits value) ∧ text = first.getD [] ∧
          values = [first]) t
      (v.maybeReadings t) := by
  refine (areReadings_append (areReadings_value v t) (areReadings_singleton [none] t)).congr ?_
  intro text values
  constructor
  · intro h
    rcases h with ⟨hvalue, rfl⟩ | ⟨rfl, rfl⟩
    · exact ⟨some text, by simpa using hvalue, rfl, rfl⟩
    · exact ⟨none, by simp, rfl, rfl⟩
  · intro h
    obtain ⟨first, hfirst, rfl, rfl⟩ := h
    cases first with
    | none => exact .inr ⟨rfl, rfl⟩
    | some value => exact .inl ⟨hfirst value rfl, rfl⟩

/-- Tokens are covered part by part. -/
theorem covers_append_iff {caseSensitive : Bool} {ts ts' : List Token} {text : Text}
    {values : List (Option Text)} :
    Joined (Covers caseSensitive ts) (Covers caseSensitive ts') text values ↔
      Covers caseSensitive (ts ++ ts') text values := by
  constructor
  · intro h
    obtain ⟨x, y, vs, ws, rfl, rfl, hx, hy⟩ := h
    induction hx with
    | nil => exact hy
    | literal hpiece _ ih =>
        rw [List.append_assoc]
        exact .literal hpiece ih
    | var hvalue _ ih =>
        rw [List.append_assoc]
        exact .var hvalue ih
  · intro h
    induction ts generalizing text values with
    | nil => exact ⟨[], text, [], values, rfl, rfl, .nil, h⟩
    | cons token ts ih =>
        cases h with
        | literal hpiece h =>
            obtain ⟨x, y, vs, ws, rfl, rfl, hx, hy⟩ := ih h
            exact ⟨_, y, vs, ws, (List.append_assoc ..).symm, rfl, .literal hpiece hx, hy⟩
        | var hvalue h =>
            obtain ⟨x, y, vs, ws, rfl, rfl, hx, hy⟩ := ih h
            exact ⟨_, y, _ :: vs, ws, (List.append_assoc ..).symm, rfl, .var hvalue hx, hy⟩

theorem areReadings_token (caseSensitive : Bool) (token : Token) (t : Text) :
    AreReadings (Covers caseSensitive [token]) t (token.readings caseSensitive t) := by
  cases token with
  | literal literal =>
      refine (areReadings_dropLiteral caseSensitive literal t).congr fun text values => ?_
      constructor
      · intro h
        obtain ⟨hpiece, rfl⟩ := h
        rw [← List.append_nil text]
        exact .literal hpiece .nil
      · intro h
        cases h with
        | literal hpiece h =>
            obtain ⟨rfl, rfl⟩ := covers_nil_iff.mp h
            rw [List.append_nil]
            exact ⟨hpiece, rfl⟩
  | var v =>
      refine (areReadings_chain (areReadings_separator v t) (areReadings_value v)).congr
        fun text values => ?_
      constructor
      · intro h
        obtain ⟨-, value, -, -, rfl, rfl, ⟨rfl, rfl⟩, hvalue, rfl⟩ := h
        rw [← List.append_nil (_ ++ value)]
        exact .var hvalue .nil
      · intro h
        cases h with
        | @var _ value _ _ _ hvalue h =>
            obtain ⟨rfl, rfl⟩ := covers_nil_iff.mp h
            rw [List.append_nil]
            exact ⟨_, value, [], [some value], rfl, rfl, ⟨rfl, rfl⟩, hvalue, rfl⟩

/-- **The readings of tokens** are the ways to cover them. -/
theorem areReadings_tokens (caseSensitive : Bool) (ts : List Token) (t : Text) :
    AreReadings (Covers caseSensitive ts) t (tokensReadings caseSensitive ts t) := by
  induction ts generalizing t with
  | nil =>
      exact (areReadings_singleton [] t).congr fun _ _ => covers_nil_iff.symm
  | cons token ts ih =>
      refine (areReadings_chain (areReadings_token caseSensitive token t) ih).congr
        fun text values => ?_
      rw [covers_append_iff, List.singleton_append]

theorem areReadings_optional (caseSensitive : Bool) (ts : List Token) (t : Text) :
    AreReadings (CoversFirst caseSensitive ts) t (optionalReadings caseSensitive ts t) := by
  induction ts generalizing t with
  | nil =>
      refine (areReadings_singleton [] t).congr fun text values => ?_
      constructor
      · intro h
        obtain ⟨rfl, rfl⟩ := h
        exact ⟨0, [], Nat.le_refl _, .nil, rfl⟩
      · intro h
        obtain ⟨m, vs, -, h, rfl⟩ := h
        rw [List.take_nil, covers_nil_iff] at h
        obtain ⟨rfl, rfl⟩ := h
        exact ⟨rfl, by simp [leftOut]⟩
  | cons token ts ih =>
      refine (areReadings_append
        (areReadings_chain (areReadings_token caseSensitive token t) ih)
        (areReadings_singleton (leftOut (token :: ts)) t)).congr fun text values => ?_
      constructor
      · intro h
        rcases h with ⟨x, y, vs, -, rfl, rfl, hx, m, ws, hm, hy, rfl⟩ | ⟨rfl, rfl⟩
        · refine ⟨m + 1, vs ++ ws, Nat.succ_le_succ hm, ?_, (List.append_assoc ..).symm⟩
          exact covers_append_iff.mp ⟨x, y, vs, ws, rfl, rfl, hx, hy⟩
        · exact ⟨0, [], Nat.zero_le _, .nil, rfl⟩
      · intro h
        obtain ⟨m, vs, hm, h, rfl⟩ := h
        cases m with
        | zero =>
            obtain ⟨rfl, rfl⟩ := covers_nil_iff.mp h
            exact .inr ⟨rfl, rfl⟩
        | succ m =>
            rw [List.take_succ_cons, ← List.singleton_append] at h
            obtain ⟨x, y, vs, ws, rfl, rfl, hx, hy⟩ := covers_append_iff.mpr h
            refine .inl ⟨x, y, vs, ws ++ leftOut (ts.drop m), rfl, List.append_assoc .., hx, ?_⟩
            exact ⟨m, ws, Nat.le_of_succ_le_succ hm, hy, rfl⟩

/-- The first tokens, and then some of those after them. -/
theorem joined_coversFirst_iff {caseSensitive : Bool} {ts : List Token} {n : Nat}
    (hn : n ≤ ts.length) {text : Text} {values : List (Option Text)} :
    Joined (Covers caseSensitive (ts.take n)) (CoversFirst caseSensitive (ts.drop n)) text values ↔
      ∃ m vs, n ≤ m ∧ m ≤ ts.length ∧ Covers caseSensitive (ts.take m) text vs ∧
        values = vs ++ leftOut (ts.drop m) := by
  constructor
  · intro h
    obtain ⟨x, y, vs, -, rfl, rfl, hx, m, ws, hm, hy, rfl⟩ := h
    rw [List.length_drop] at hm
    refine ⟨n + m, vs ++ ws, Nat.le_add_right .., by omega, ?_, ?_⟩
    · rw [List.take_add]
      exact covers_append_iff.mp ⟨x, y, vs, ws, rfl, rfl, hx, hy⟩
    · rw [List.drop_drop, List.append_assoc]
  · intro h
    obtain ⟨m, vs, hnm, hm, h, rfl⟩ := h
    obtain ⟨k, rfl⟩ := Nat.exists_eq_add_of_le hnm
    rw [List.take_add] at h
    obtain ⟨x, y, vs, ws, rfl, rfl, hx, hy⟩ := covers_append_iff.mpr h
    refine ⟨x, y, vs, ws ++ leftOut (ts.drop (n + k)), rfl, List.append_assoc .., hx, k, ws, ?_,
      hy, by rw [List.drop_drop]⟩
    rw [List.length_drop]
    omega

theorem firstOptional_literal_pos (text : Text) (ts : List Token) :
    0 < firstOptional (.literal text :: ts) := by
  refine Nat.pos_of_ne_zero fun hzero => ?_
  have hmem : Token.literal text ∈
      (Token.literal text :: ts).drop (firstOptional (.literal text :: ts)) := by
    rw [hzero]
    exact List.mem_cons_self ..
  cases isOptional_of_mem_drop hmem

/-- A template whose first token is to be left out starts with a variable. -/
theorem leadingOptional?_eq_none {ts : List Token} (hts : ts ≠ []) :
    leadingOptional? ts = none ↔ 0 < firstOptional ts := by
  cases ts with
  | nil => exact absurd rfl hts
  | cons token ts =>
      cases token with
      | literal text => exact iff_of_true rfl (firstOptional_literal_pos text ts)
      | var v =>
          simp only [leadingOptional?, ite_eq_right_iff, reduceCtorEq, imp_false]
          exact Nat.pos_iff_ne_zero.symm

/-- The splits of a template where not every token may be left out. -/
theorem split_iff_of_pos {caseSensitive : Bool} {ts : List Token} (hfirst : 0 < firstOptional ts) {subject : Text}
    {values : List (Option Text)} :
    Split caseSensitive ts subject values ↔
      Joined (Covers caseSensitive (ts.take (firstOptional ts)))
        (CoversFirst caseSensitive (ts.drop (firstOptional ts))) subject values := by
  rw [joined_coversFirst_iff (firstOptional_le ts)]
  constructor
  · intro h
    cases h with
    | kept m _ hleast hmost h => exact ⟨m, _, hleast, hmost, h, rfl⟩
    | leading _ _ hzero => exact absurd hzero (Nat.ne_of_gt hfirst)
  · rintro ⟨m, vs, hleast, hmost, h, rfl⟩
    exact .kept m hfirst hleast hmost h

/-- The splits of a template where every token may be left out. -/
theorem split_iff_of_zero {caseSensitive : Bool} {v : Variable} {rest : List Token}
    (hfirst : firstOptional (.var v :: rest) = 0) {subject : Text}
    {values : List (Option Text)} :
    Split caseSensitive (.var v :: rest) subject values ↔
      ∃ first text more, subject = v.separator.toList ++ (first.getD [] ++ text) ∧
        values = first :: more ∧ (∀ value ∈ first, v.value.Admits value) ∧
          CoversFirst caseSensitive rest text more := by
  constructor
  · intro h
    cases h with
    | kept _ hpos => exact absurd hfirst (Nat.ne_of_gt hpos)
    | leading m hts _ hmost hvalue h =>
        cases hts
        exact ⟨_, _, _, List.append_assoc .., rfl, hvalue, m, _, hmost, h, rfl⟩
  · rintro ⟨first, text, more, rfl, rfl, hvalue, m, vs, hm, h, rfl⟩
    rw [← List.append_assoc]
    exact .leading m rfl hfirst hm hvalue h

/-- **The list of splits is complete, and it lists nothing else.** -/
theorem mem_splits {caseSensitive : Bool} {ts : List Token} (hts : ts ≠ []) {subject : Text}
    {values : List (Option Text)} :
    values ∈ splits caseSensitive ts subject ↔ Split caseSensitive ts subject values := by
  have hmem : values ∈ splits caseSensitive ts subject ↔
      ⟨values, []⟩ ∈ templateReadings caseSensitive ts subject := by
    simp only [splits, List.mem_map, List.mem_filter, List.isEmpty_iff]
    constructor
    · intro h
      obtain ⟨⟨_, _⟩, ⟨hmem, rfl⟩, rfl⟩ := h
      exact hmem
    · exact fun hmem => ⟨_, ⟨hmem, rfl⟩, rfl⟩
  rw [hmem, templateReadings]
  cases hlead : leadingOptional? ts with
  | some p =>
      obtain ⟨v, rest⟩ := p
      obtain ⟨rfl, hfirst⟩ := leadingOptional?_eq_some.mp hlead
      -- the separator is there in any case; its value and the tokens after it may not be
      refine (areReadings_chain (areReadings_separator v subject) (fun t =>
        areReadings_chain (areReadings_maybe v t) (areReadings_optional caseSensitive rest))
        values []).trans ?_
      rw [split_iff_of_zero hfirst]
      constructor
      · intro h
        obtain ⟨-, rfl, -, -, -, -, rfl, rfl, ⟨rfl, rfl⟩, -, text, -, more, rfl, rfl,
          ⟨first, hvalue, rfl, rfl⟩, h⟩ := h
        exact ⟨first, text, more, List.append_nil _, rfl, hvalue, h⟩
      · rintro ⟨first, text, more, rfl, rfl, hvalue, h⟩
        exact ⟨_, (List.append_nil _).symm, v.separator.toList, first.getD [] ++ text, [],
          first :: more, rfl, rfl, ⟨rfl, rfl⟩, first.getD [], text, [first], more, rfl, rfl,
          ⟨first, hvalue, rfl, rfl⟩, h⟩
  | none =>
      have hfirst := (leadingOptional?_eq_none hts).mp hlead
      refine (areReadings_chain (areReadings_tokens caseSensitive _ subject)
        (areReadings_optional caseSensitive _) values []).trans ?_
      simp only [List.append_nil, exists_eq_left']
      exact (split_iff_of_pos hfirst).symm

/-! ### Readings come in order -/

/-- Readings with `n` values each, the greatest one first. -/
structure Descending (n : Nat) (rs : List Reading) : Prop where
  /-- Each of them has `n` values. -/
  length : ∀ r ∈ rs, r.values.length = n
  /-- Those that come later are less. -/
  order : rs.Pairwise fun a b => Lesser b.values a.values

theorem descending_chain {n n' : Nat} {rs : List Reading} {f : Text → List Reading}
    (h : Descending n rs) (hf : ∀ t, Descending n' (f t)) :
    Descending (n + n') (chain rs f) where
  length := by
    intro r hr
    obtain ⟨a, ha, hmem⟩ := List.mem_flatMap.mp hr
    obtain ⟨b, hb, rfl⟩ := List.mem_map.mp hmem
    rw [List.length_append, h.length a ha, (hf a.rest).length b hb]
  order := by
    rw [chain, List.pairwise_flatMap]
    refine ⟨fun a _ => ?_, ?_⟩
    · exact List.pairwise_map.mpr ((hf a.rest).order.imp fun hless => hless.append_left a.values)
    · refine h.order.imp_of_mem fun {a b} ha hb hless => ?_
      intro x hx y hy
      obtain ⟨x, -, rfl⟩ := List.mem_map.mp hx
      obtain ⟨y, -, rfl⟩ := List.mem_map.mp hy
      exact hless.append (by rw [h.length a ha, h.length b hb]) _ _

theorem descending_dropLiteral (caseSensitive : Bool) (literal t : Text) :
    Descending 0 ((dropLiteral caseSensitive literal t).toList.map fun rest => ⟨[], rest⟩) := by
  cases dropLiteral caseSensitive literal t with
  | none => exact ⟨by simp, .nil⟩
  | some rest => exact ⟨by simp, List.pairwise_singleton _ _⟩

theorem descending_value (v : Variable) (t : Text) : Descending 1 (v.valueReadings t) where
  length := by
    intro r hr
    obtain ⟨cut, -, rfl⟩ := List.mem_map.mp hr
    rfl
  order :=
    List.pairwise_map.mpr ((v.value.pairwise_cuts t).imp fun h => .rel (Nat.succ_lt_succ h))

/-- A reading that is less than all others comes last. -/
theorem Descending.concat {n : Nat} {rs : List Reading} (h : Descending n rs) {last : Reading}
    (hlength : last.values.length = n) (hleast : ∀ r ∈ rs, Lesser last.values r.values) :
    Descending n (rs ++ [last]) where
  length := by
    intro r hr
    rcases List.mem_append.mp hr with hr | hr
    · exact h.length r hr
    · rw [List.mem_singleton.mp hr]
      exact hlength
  order := by
    refine List.pairwise_append.mpr ⟨h.order, List.pairwise_singleton _ _, ?_⟩
    intro a ha b hb
    rw [List.mem_singleton.mp hb]
    exact hleast a ha

theorem descending_maybe (v : Variable) (t : Text) : Descending 1 (v.maybeReadings t) := by
  refine (descending_value v t).concat rfl fun r hr => ?_
  obtain ⟨cut, -, rfl⟩ := List.mem_map.mp hr
  exact .rel (Nat.succ_pos _)

theorem descending_token (caseSensitive : Bool) (token : Token) (t : Text) :
    Descending (variablesOf [token]).length (token.readings caseSensitive t) := by
  cases token with
  | literal text => exact descending_dropLiteral caseSensitive text t
  | var v => exact descending_chain (descending_dropLiteral true _ t) (descending_value v)

theorem length_variablesOf_cons (token : Token) (ts : List Token) :
    (variablesOf (token :: ts)).length =
      (variablesOf [token]).length + (variablesOf ts).length := by
  rw [← List.length_append, ← variablesOf_append, List.singleton_append]

theorem descending_tokens (caseSensitive : Bool) (ts : List Token) (t : Text) :
    Descending (variablesOf ts).length (tokensReadings caseSensitive ts t) := by
  induction ts generalizing t with
  | nil => exact ⟨by simp [tokensReadings], List.pairwise_singleton _ _⟩
  | cons token ts ih =>
      rw [length_variablesOf_cons]
      exact descending_chain (descending_token caseSensitive token t) ih

/-- To take a token is to prefer it: leaving it out comes last. -/
theorem descending_optional (caseSensitive : Bool) {ts : List Token}
    (hts : ∀ token ∈ ts, token.isOptional = true) (t : Text) :
    Descending (variablesOf ts).length (optionalReadings caseSensitive ts t) := by
  induction ts generalizing t with
  | nil => exact ⟨by simp [optionalReadings], List.pairwise_singleton _ _⟩
  | cons token ts ih =>
      obtain ⟨htoken, hts⟩ := List.forall_mem_cons.mp hts
      have htaken := descending_chain (descending_token caseSensitive token t) (ih hts)
      rw [← length_variablesOf_cons] at htaken
      refine htaken.concat (length_leftOut _) fun r hr => ?_
      -- a reading that takes the token starts with a value, since the token is a variable
      obtain ⟨-, -, x, y, vs, ws, -, hvalues, hcovers, -⟩ :=
        (areReadings_chain (areReadings_token caseSensitive token t)
          (areReadings_optional caseSensitive ts) r.values r.rest).mp hr
      rw [hvalues]
      cases hcovers with
      | literal _ _ => cases htoken
      | var _ _ => exact .rel (Nat.succ_pos _)

/-- **The splits are listed in order, the greatest one first.** -/
theorem pairwise_splits (caseSensitive : Bool) (ts : List Token) (subject : Text) :
    (splits caseSensitive ts subject).Pairwise fun a b => Lesser b a := by
  have horder : (templateReadings caseSensitive ts subject).Pairwise fun a b =>
      Lesser b.values a.values := by
    unfold templateReadings
    split
    · rename_i v rest h
      obtain ⟨rfl, hfirst⟩ := leadingOptional?_eq_some.mp h
      have hrest : ∀ token ∈ rest, token.isOptional = true := by
        intro token hmem
        refine @isOptional_of_mem_drop (.var v :: rest) token ?_
        rw [hfirst]
        exact List.mem_cons_of_mem _ hmem
      exact (descending_chain (descending_dropLiteral true _ subject) fun t =>
        descending_chain (descending_maybe v t) (descending_optional caseSensitive hrest)).order
    · exact (descending_chain (descending_tokens caseSensitive _ subject) fun t =>
        descending_optional caseSensitive (fun _ => isOptional_of_mem_drop) t).order
  exact List.pairwise_map.mpr (horder.filter _)

/-- **The greatest split is the head of the list.** -/
theorem head?_splits_eq_some_iff {caseSensitive : Bool} {ts : List Token} (hts : ts ≠ [])
    {subject : Text} {values : List (Option Text)} :
    (splits caseSensitive ts subject).head? = some values ↔
      GreatestSplit caseSensitive ts subject values := by
  have horder := pairwise_splits caseSensitive ts subject
  constructor
  · intro hhead
    obtain ⟨rest, hrest⟩ := List.head?_eq_some_iff.mp hhead
    rw [hrest, List.pairwise_cons] at horder
    refine ⟨(mem_splits hts).mp (hrest ▸ List.mem_cons_self ..), fun values' h => ?_⟩
    rw [← mem_splits hts, hrest] at h
    exact (List.mem_cons.mp h).imp_right (horder.1 values')
  · intro h
    obtain ⟨hsplit, hgreatest⟩ := h
    have hmem := (mem_splits hts).mpr hsplit
    cases hsplits : splits caseSensitive ts subject with
    | nil =>
        rw [hsplits] at hmem
        cases hmem
    | cons values' rest =>
        rw [hsplits] at hmem
        rw [hsplits, List.pairwise_cons] at horder
        rw [List.head?_cons, Option.some.injEq]
        have hsplit' : Split caseSensitive ts subject values' := by
          rw [← mem_splits hts, hsplits]
          exact List.mem_cons_self ..
        rcases List.mem_cons.mp hmem with heq | hlater
        · exact heq.symm
        · exact (hgreatest values' hsplit').resolve_right (horder.1 values hlater).asymm

end UriRouting.Template
