import UriRouting.Proofs.Regex.Rounds

/-!
# UriRouting.Proofs.Regex.Closing

Reading parts of an expression that has an ending behind it (`endings`): the right anchor, or the
bracket of a group around the expression and the anchor. What is read of the expression by itself
is read of it there as well: there is one lemma for each function of the reader (`Carries`).

Where blanks are skipped, a comment at the end of the expression takes the ending in. Then
the reader is at the end of the text, and a group around the expression stays open. This is
why each lemma has two cases.
-/

namespace UriRouting.Regex

open Unicode (CharSet)

/-- What is put behind an expression in a group between anchors. -/
def closing : Text :=
  [')', '$']

/-- The texts that are put behind expressions. -/
def endings : List Text :=
  [closing, ['$']]

theorem eq_of_mem_endings {tail : Text} (htail : tail ∈ endings) :
    tail = closing ∨ tail = ['$'] := by
  simpa [endings] using htail

theorem closing_mem_endings : closing ∈ endings := by
  decide

theorem dollar_mem_endings : ['$'] ∈ endings := by
  decide

/-- What is read of a text is read of it with the ending behind it, or the ending is taken in
as a part of the comment that the text ends with. -/
def Carries (tail : Text) {α : Type} (x y : Except ReadError (α × Text)) : Prop :=
  ∀ (a : α) (rest : Text), x = .ok (a, rest) →
    y = .ok (a, rest ++ tail) ∨ (rest = [] ∧ y = .ok (a, []))

variable {tail : Text}

/-! ### Blanks -/

@[simp] theorem skip_nil (verbose : Bool) : skip verbose [] = [] := by
  cases verbose <;> rfl

theorem skipBlanks_ending_self (htail : tail ∈ endings) (inComment : Bool) :
    skipBlanks inComment tail = if inComment then [] else tail := by
  revert tail inComment
  decide

theorem skip_ending_self (htail : tail ∈ endings) (verbose : Bool) : skip verbose tail = tail := by
  cases verbose with
  | false => rfl
  | true => exact skipBlanks_ending_self htail false

theorem skipBlanks_append (htail : tail ∈ endings) (inComment : Bool) (t : Text) :
    skipBlanks inComment (t ++ tail) = skipBlanks inComment t ++ tail ∨
      (skipBlanks inComment t = [] ∧ skipBlanks inComment (t ++ tail) = []) := by
  induction t generalizing inComment with
  | nil =>
      have hself := skipBlanks_ending_self htail inComment
      cases inComment with
      | false => exact .inl hself
      | true => exact .inr ⟨rfl, hself⟩
  | cons c t ih =>
      rw [List.cons_append, skipBlanks, skipBlanks]
      split
      · exact ih _
      · split
        · exact ih _
        · split
          · exact ih _
          · exact .inl rfl

theorem skip_append (htail : tail ∈ endings) (verbose : Bool) (t : Text) :
    skip verbose (t ++ tail) = skip verbose t ++ tail ∨
      (skip verbose t = [] ∧ skip verbose (t ++ tail) = []) := by
  cases verbose with
  | false => exact .inl rfl
  | true => exact skipBlanks_append htail false t

theorem skipBlanks_append_of_ne {inComment : Bool} {t : Text} (h : skipBlanks inComment t ≠ []) :
    skipBlanks inComment (t ++ tail) = skipBlanks inComment t ++ tail := by
  induction t generalizing inComment with
  | nil => exact absurd rfl h
  | cons c t ih =>
      rw [skipBlanks] at h
      rw [List.cons_append, skipBlanks, skipBlanks]
      split_ifs at h ⊢
      · exact ih h
      · exact ih h
      · exact ih h
      · rfl

/-- Where something is left, the ending is left behind it. -/
theorem skip_append_of_ne (tail : Text) {verbose : Bool} {t : Text} (h : skip verbose t ≠ []) :
    skip verbose (t ++ tail) = skip verbose t ++ tail := by
  cases verbose with
  | false => rfl
  | true => exact skipBlanks_append_of_ne h

theorem skip_append_of_cons (tail : Text) {verbose : Bool} {t t' : Text} {c : Char}
    (h : skip verbose t = c :: t') : skip verbose (t ++ tail) = c :: (t' ++ tail) := by
  rw [skip_append_of_ne tail (h ▸ List.cons_ne_nil c t'), h, List.cons_append]

/-- Blanks that end a part may take the tail in. -/
theorem carries_skip (htail : tail ∈ endings) {α : Type} (a : α) (verbose : Bool) (t : Text) :
    Carries tail (.ok (a, skip verbose t)) (.ok (a, skip verbose (t ++ tail))) := by
  intro b rest h
  cases h
  rcases skip_append htail verbose t with h | ⟨h, h'⟩
  · exact .inl (by rw [h])
  · exact .inr ⟨h, by rw [h']⟩

theorem carries_ok {α : Type} (a : α) (t : Text) :
    Carries tail (.ok (a, t)) (.ok (a, t ++ tail)) := by
  intro b rest h
  cases h
  exact .inl rfl

theorem carries_error {α : Type} (e : ReadError) (y : Except ReadError (α × Text)) :
    Carries tail (.error e) y := by
  intro b rest h
  cases h

theorem carries_map {α β : Type} (f : α → β) (x : Except ReadError α) (t : Text) :
    Carries tail (x.map fun a => (f a, t)) (x.map fun a => (f a, t ++ tail)) := by
  cases x with
  | error e => exact carries_error e _
  | ok a => exact carries_ok (f a) t

theorem spanLoose_append (tail : Text) {verbose inComment : Bool} {p : Char → Bool} {t : Text}
    (h : (spanLoose verbose p inComment t).2 ≠ []) :
    spanLoose verbose p inComment (t ++ tail) =
      ((spanLoose verbose p inComment t).1, (spanLoose verbose p inComment t).2 ++ tail) := by
  induction t generalizing inComment with
  | nil => exact absurd rfl h
  | cons c t ih =>
      rw [spanLoose] at h
      rw [List.cons_append, spanLoose, spanLoose]
      split_ifs at h ⊢
      · exact ih h
      · exact ih h
      · exact ih h
      · rw [ih h]
      · rfl

theorem takeLoose_append (htail : tail ∈ endings) {verbose : Bool} {n : Nat} {t taken rest : Text}
    (h : takeLoose verbose n t = some (taken, rest)) :
    takeLoose verbose n (t ++ tail) = some (taken, rest ++ tail) ∨
      (rest = [] ∧ takeLoose verbose n (t ++ tail) = some (taken, [])) := by
  induction n generalizing t taken with
  | zero =>
      cases h
      exact .inl rfl
  | succ n ih =>
      cases t with
      | nil => cases h
      | cons c t =>
          rw [takeLoose] at h
          obtain ⟨⟨taken', rest'⟩, htaken, heq⟩ := Option.map_eq_some_iff.mp h
          cases heq
          rw [List.cons_append, takeLoose]
          rcases skip_append htail verbose t with hskip | ⟨hnil, hskip⟩
          · rw [hskip]
            rcases ih htaken with h | ⟨hrest, h⟩
            · exact .inl (by rw [h]; rfl)
            · exact .inr ⟨hrest, by rw [h]; rfl⟩
          · -- no character is left, so none is asked for
            rw [hnil] at htaken
            rw [hskip, htaken]
            cases n with
            | zero =>
                cases htaken
                exact .inr ⟨rfl, rfl⟩
            | succ n => cases htaken

/-! ### Smallest parts -/

theorem carries_readCodePoint (htail : tail ∈ endings) (verbose : Bool) (digits : Nat) (t : Text) :
    Carries tail (readCodePoint verbose digits t) (readCodePoint verbose digits (t ++ tail)) := by
  intro p rest h
  rw [readCodePoint] at h
  split at h
  · rename_i t' hskip
    have hskip' := skip_append_of_cons tail hskip
    split at h
    · rename_i hex d rest' hspan
      have hspan' := spanLoose_append tail (t := t') (by rw [hspan]; simp)
      simp only [readCodePoint, hskip', hspan', hspan, List.cons_append]
      split at h
      · cases h
        exact carries_skip htail _ _ _ _ _ rfl
      · cases h
    · cases h
  · rename_i hbrace
    cases hskip : skip verbose t with
    | nil =>
        rw [hskip] at h
        cases digits <;> cases h
    | cons c t' =>
        have hc : c ≠ '{' := by
          rintro rfl
          exact hbrace t' hskip
        have hskip' := skip_append_of_cons tail hskip
        rw [hskip] at h
        split at h
        · rename_i hex rest' htaken
          split at h
          · rename_i d hd
            cases h
            rcases takeLoose_append htail htaken with htaken' | ⟨rfl, htaken'⟩
            · left
              rw [List.cons_append] at htaken'
              simp [readCodePoint, hskip', htaken', hd, hc]
            · right
              rw [List.cons_append] at htaken'
              simp [readCodePoint, hskip', htaken', hd, hc]
          · cases h
        · cases h

theorem carries_readProperty (htail : tail ∈ endings) (fs : Flags) (negated : Bool) (t : Text) :
    Carries tail (readProperty fs negated t) (readProperty fs negated (t ++ tail)) := by
  intro p rest h
  cases hskip : skip fs.verbose t with
  | nil => simp [readProperty, hskip] at h
  | cons c t' =>
      have hskip' := skip_append_of_cons tail hskip
      by_cases hc : c = '{'
      · subst hc
        simp only [readProperty, hskip] at h
        split at h
        · rename_i name d rest' hspan
          have hspan' := spanLoose_append tail (t := t') (by rw [hspan]; simp)
          simp only [readProperty, hskip', hspan', hspan, List.cons_append]
          split at h
          · cases h
            exact .inl rfl
          · cases h
        · cases h
      · simp only [readProperty, hskip] at h
        simp only [readProperty, hskip']
        split at h
        · cases h
          exact carries_skip htail _ _ _ _ _ rfl
        · cases h

theorem carries_readWordEdge (htail : tail ∈ endings) (fs : Flags) (t : Text) :
    Carries tail (readWordEdge fs t) (readWordEdge fs (t ++ tail)) := by
  intro p rest h
  cases t with
  | nil =>
      cases h
      rcases eq_of_mem_endings htail with rfl | rfl
      · exact .inl rfl
      · exact .inl rfl
  | cons c t =>
      by_cases hc : c = '{'
      · subst hc
        cases hskip : skip fs.verbose t with
        | nil => simp [readWordEdge, hskip] at h
        | cons d t' =>
            have hskip' := skip_append_of_cons tail hskip
            simp only [readWordEdge, hskip] at h
            simp only [readWordEdge, hskip', List.cons_append]
            split at h
            · rename_i hname
              rw [if_pos hname]
              split at h
              · rename_i name rest' hspan
                have hspan' := spanLoose_append tail (t := d :: t') (by rw [hspan]; simp)
                rw [List.cons_append] at hspan'
                simp only [hspan', hspan, List.cons_append]
                split at h
                · cases h
                  exact .inl rfl
                · cases h
              · cases h
            · rename_i hname
              rw [if_neg hname]
              exact carries_ok _ _ p rest h
      · have hplain (t : Text) : readWordEdge fs (c :: t) =
            .ok (.assertion (.word .boundary (!fs.unicode)), c :: t) := by
          simp [readWordEdge, hc]
        rw [hplain] at h
        rw [List.cons_append, hplain]
        exact carries_ok _ (c :: t) p rest h

theorem carries_readEscape (htail : tail ∈ endings) (fs : Flags) (t : Text) :
    Carries tail (readEscape fs t) (readEscape fs (t ++ tail)) := by
  cases t with
  | nil => exact carries_error _ _
  | cons c t =>
      by_cases hc : c ∈ escapeLetters
      · simp only [escapeLetters, List.mem_cons, List.not_mem_nil, or_false] at hc
        rcases hc with rfl | rfl | rfl | rfl | rfl | rfl | rfl | rfl | rfl | rfl | rfl | rfl | rfl |
          rfl | rfl | rfl | rfl
        · exact carries_readCodePoint htail _ _ t
        · exact carries_readCodePoint htail _ _ t
        · exact carries_readCodePoint htail _ _ t
        · exact carries_readProperty htail _ _ t
        · exact carries_readProperty htail _ _ t
        all_goals first | exact carries_readWordEdge htail fs t | exact carries_ok _ _
      · rw [List.cons_append, readEscape_of_not_mem fs hc, readEscape_of_not_mem fs hc]
        split
        · exact carries_ok _ _
        · split
          · exact carries_ok _ _
          · exact carries_error _ _

theorem carries_readPrimitive (htail : tail ∈ endings) (fs : Flags) (c : Char) (t : Text) :
    Carries tail (readPrimitive fs c t) (readPrimitive fs c (t ++ tail)) := by
  unfold readPrimitive
  split
  · exact carries_readEscape htail fs t
  · exact carries_ok _ _
  · exact carries_ok _ _
  · exact carries_ok _ _
  · exact carries_ok _ _

/-! ### Repetitions -/

theorem readGreed_append (htail : tail ∈ endings) (t : Text) :
    readGreed (t ++ tail) = ((readGreed t).1, (readGreed t).2 ++ tail) := by
  cases t with
  | nil => rcases eq_of_mem_endings htail with rfl | rfl <;> rfl
  | cons c t =>
      by_cases hc : c = '?'
      · subst hc
        rfl
      · simp [readGreed, hc]

theorem dropWhile_append (tail : Text) {p : Char → Bool} {t : Text} (h : t.dropWhile p ≠ []) :
    (t ++ tail).dropWhile p = t.dropWhile p ++ tail := by
  rw [List.dropWhile_append, if_neg]
  simpa using h

theorem span_append (tail : Text) {p : Char → Bool} {t : Text} (h : (t.span p).2 ≠ []) :
    (t ++ tail).span p = ((t.span p).1, (t.span p).2 ++ tail) := by
  rw [List.span_eq_takeWhile_dropWhile] at h ⊢
  rw [List.span_eq_takeWhile_dropWhile, dropWhile_append tail h, List.takeWhile_append, if_neg]
  -- what is left over does not belong to the characters taken
  intro hlen
  dsimp only at h
  have hsplit := congrArg List.length (List.takeWhile_append_dropWhile (p := p) (l := t))
  rw [List.length_append, hlen] at hsplit
  exact h (List.length_eq_zero_iff.mp (by omega))

theorem readDecimal_append (tail : Text) {verbose : Bool} {t : Text}
    (h : (readDecimal verbose t).2 ≠ []) :
    readDecimal verbose (t ++ tail) =
      ((readDecimal verbose t).1, (readDecimal verbose t).2 ++ tail) := by
  have hspan :
      (spanLoose verbose Char.isDigit false (t.dropWhile Unicode.isWhiteSpace)).2 ≠ [] := by
    intro hnil
    exact h (by rw [readDecimal, hnil]; rfl)
  have hdrop : t.dropWhile Unicode.isWhiteSpace ≠ [] := by
    intro hnil
    rw [hnil] at hspan
    exact hspan rfl
  rw [readDecimal, dropWhile_append tail hdrop, spanLoose_append tail hspan, readDecimal,
    dropWhile_append tail h]

theorem readBounds_append (htail : tail ∈ endings) {verbose : Bool} {t rest : Text} {least : Nat}
    {most : Option Nat} (h : readBounds verbose t = .ok (least, most, rest)) :
    readBounds verbose (t ++ tail) = .ok (least, most, rest ++ tail) ∨
      (rest = [] ∧ readBounds verbose (t ++ tail) = .ok (least, most, [])) := by
  -- the closing brace comes last, and blanks behind it
  have hend (least : Nat) (most : Option Nat) (t : Text) :
      (Except.ok (least, most, skip verbose (t ++ tail)) : Except ReadError _) =
          .ok (least, most, skip verbose t ++ tail) ∨
        (skip verbose t = [] ∧ (Except.ok (least, most, skip verbose (t ++ tail)) :
          Except ReadError _) = .ok (least, most, [])) :=
    (skip_append htail verbose t).imp (fun h => by rw [h]) (And.imp_right fun h => by rw [h])
  rw [readBounds] at h
  split at h
  rename_i low t₁ hlow
  have hne : t₁ ≠ [] := by
    rintro rfl
    cases hbound : bound? low <;> rw [hbound] at h <;> cases h
  have hskip : skip verbose t ≠ [] := by
    intro hnil
    rw [hnil] at hlow
    exact hne (congrArg Prod.snd hlow).symm
  have hlow' : readDecimal verbose (skip verbose t ++ tail) = (low, t₁ ++ tail) := by
    rw [readDecimal_append tail (by rw [hlow]; exact hne), hlow]
  rw [readBounds, skip_append_of_ne tail hskip, hlow']
  split at h
  · rename_i least t₂ hleast
    cases h
    simp only [hleast, List.cons_append]
    exact hend least (some least) t₂
  · rename_i least t₂ hleast
    simp only [hleast, List.cons_append]
    split at h
    · rename_i t₃ hbrace
      cases h
      simp only [skip_append_of_cons tail hbrace]
      exact hend least none t₃
    · rename_i hbrace
      split at h
      rename_i high t₃ hhigh
      split at h
      · rename_i most t₄ hmost
        cases h
        have hskip₂ : skip verbose t₂ ≠ [] := by
          intro hnil
          rw [hnil] at hhigh
          cases hhigh
        have hhigh' : readDecimal verbose (skip verbose t₂ ++ tail) =
            (high, ('}' :: t₄) ++ tail) := by
          rw [readDecimal_append tail (by rw [hhigh]; simp), hhigh]
        rw [skip_append_of_ne tail hskip₂]
        split
        · rename_i t₅ hbrace'
          cases hbrace₂ : skip verbose t₂ with
          | nil => exact absurd hbrace₂ hskip₂
          | cons c t₆ =>
              rw [hbrace₂] at hbrace'
              cases hbrace'
              exact absurd hbrace₂ (hbrace _)
        · rw [hhigh']
          simp only [hmost, List.cons_append]
          exact hend least (some most) t₄
      · cases h
  · cases h

/-! ### Classes -/

theorem namedClassFrom?_append (htail : tail ∈ endings) (negated : Bool) (t : Text) :
    namedClassFrom? negated (t ++ tail) =
      (namedClassFrom? negated t).map fun r => (r.1, r.2.1, r.2.2 ++ tail) := by
  cases hspan : t.span (· != ':') with
  | mk name t' =>
      cases t' with
      | nil =>
          -- there is no colon in the ending either
          have hdrop : t.dropWhile (· != ':') = [] := by
            rw [List.span_eq_takeWhile_dropWhile] at hspan
            exact congrArg Prod.snd hspan
          have hdrop' : (t ++ tail).dropWhile (· != ':') = [] := by
            rw [List.dropWhile_append, hdrop]
            rcases eq_of_mem_endings htail with rfl | rfl <;> decide
          simp only [namedClassFrom?, List.span_eq_takeWhile_dropWhile, hdrop, hdrop']
          rfl
      | cons c t' =>
          have hspan' := span_append tail (p := (· != ':')) (t := t) (by rw [hspan]; simp)
          rw [hspan] at hspan'
          simp only [namedClassFrom?, hspan, hspan']
          by_cases hc : c = ':'
          · subst hc
            cases t' with
            | nil => rcases eq_of_mem_endings htail with rfl | rfl <;> rfl
            | cons d t' =>
                by_cases hd : d = ']'
                · subst hd
                  simp only [List.cons_append, Option.map_map]
                  rfl
                · simp [hd]
          · simp [hc]

theorem readNamedClass?_append (htail : tail ∈ endings) (t : Text) :
    readNamedClass? (t ++ tail) =
      (readNamedClass? t).map fun r => (r.1, r.2.1, r.2.2 ++ tail) := by
  cases t with
  | nil => rcases eq_of_mem_endings htail with rfl | rfl <;> rfl
  | cons c t =>
      by_cases hc : c = ':'
      · subst hc
        cases t with
        | nil => rcases eq_of_mem_endings htail with rfl | rfl <;> rfl
        | cons d t =>
            by_cases hd : d = '^'
            · subst hd
              exact namedClassFrom?_append htail true t
            · rw [List.cons_append, readNamedClass?_plain (by simpa using hd),
                readNamedClass?_plain (by simpa using hd)]
              exact namedClassFrom?_append htail false (d :: t)
      · simp [readNamedClass?, hc]

theorem openClassFrom_append {verbose sign negated : Bool} {t rest : Text}
    {parts : List ClassPart} (h : openClassFrom verbose sign t = .ok (negated, parts, rest)) :
    openClassFrom verbose sign (t ++ tail) = .ok (negated, parts, rest ++ tail) := by
  have hne : (spanLoose verbose (· == '-') false t).2 ≠ [] := by
    intro hnil
    simp [openClassFrom, hnil] at h
  cases hspan : spanLoose verbose (· == '-') false t with
  | mk hyphens t' =>
      have hspan' := spanLoose_append tail hne
      rw [hspan] at hspan' hne
      simp only [openClassFrom, hspan] at h
      simp only [openClassFrom, hspan']
      cases t' with
      | nil => exact absurd rfl hne
      | cons c t' =>
          cases hyphens with
          | cons hyphen hyphens =>
              simp only [Except.ok.injEq, Prod.mk.injEq] at h
              obtain ⟨rfl, rfl, rfl⟩ := h
              simp only [List.cons_append]
          | nil =>
              by_cases hc : c = ']'
              · subst hc
                cases hskip : skip verbose t' with
                | nil => simp [hskip] at h
                | cons d t'' =>
                    have hskip' := skip_append_of_cons tail hskip
                    simp only [hskip] at h
                    cases h
                    simp only [List.cons_append, hskip']
              · simp only [List.cons.injEq, hc, false_and, imp_self, implies_true] at h
                cases h
                simp [hc]

theorem openClass_append (tail : Text) {verbose negated : Bool} {t rest : Text}
    {parts : List ClassPart} (h : openClass verbose t = .ok (negated, parts, rest)) :
    openClass verbose (t ++ tail) = .ok (negated, parts, rest ++ tail) := by
  have hskip : skip verbose t ≠ [] := by
    intro hnil
    rw [openClass_plain (by simp [hnil]), hnil] at h
    cases h
  have hskip' := skip_append_of_ne tail hskip
  by_cases hhead : (skip verbose t).head? = some '^'
  · obtain ⟨t', ht'⟩ := List.head?_eq_some_iff.mp hhead
    rw [openClass_negated ht'] at h
    have hne : skip verbose t' ≠ [] := by
      intro hnil
      rw [hnil] at h
      cases h
    rw [ht', List.cons_append] at hskip'
    rw [openClass_negated hskip', skip_append_of_ne tail hne]
    exact openClassFrom_append h
  · rw [openClass_plain hhead] at h
    rw [openClass_plain, hskip']
    · exact openClassFrom_append h
    · rwa [hskip', List.head?_append, Option.or_of_isSome (by simpa using hskip)]

/-- What follows a hyphen while blanks are skipped, if it is more than blanks. -/
def aheadOfBlanks (t : Text) : Option Char :=
  match t.dropWhile Unicode.isWhiteSpace with
  | '#' :: t' => (t'.dropWhile Unicode.isWhiteSpace).head?
  | t' => t'.head?

theorem lookAhead_true (t : Text) : lookAhead true t = (aheadOfBlanks t).or t.head? :=
  Option.orElse_eq_or

theorem aheadOfBlanks_append {t : Text} {c : Char} (h : aheadOfBlanks t = some c) :
    aheadOfBlanks (t ++ tail) = some c := by
  rw [aheadOfBlanks] at h
  cases hdrop : t.dropWhile Unicode.isWhiteSpace with
  | nil =>
      rw [hdrop] at h
      cases h
  | cons d t' =>
      rw [hdrop] at h
      rw [aheadOfBlanks, dropWhile_append tail (by simp [hdrop]), hdrop, List.cons_append]
      by_cases hd : d = '#'
      · subst hd
        have hne : t'.dropWhile Unicode.isWhiteSpace ≠ [] := by
          intro hnil
          simp only [hnil] at h
          cases h
        simp only [dropWhile_append tail hne]
        simp only [List.head?_append] at h ⊢
        rw [h]
        rfl
      · simp only [List.cons.injEq, hd, false_and, imp_self, implies_true] at h ⊢
        exact h

theorem skipBlanks_of_all {t : Text} (h : ∀ c ∈ t, Unicode.isWhiteSpace c = true)
    (inComment : Bool) : skipBlanks inComment t = [] := by
  induction t generalizing inComment with
  | nil => rfl
  | cons c t ih =>
      have htail := ih fun d hd => h d (List.mem_cons_of_mem c hd)
      have hc := h c (List.mem_cons_self ..)
      rw [skipBlanks]
      split_ifs
      · exact htail _
      · exact htail _
      · exact htail _

/-- White space at the start is skipped in any case. -/
theorem skipBlanks_dropWhile (t : Text) :
    skipBlanks false (t.dropWhile Unicode.isWhiteSpace) = skipBlanks false t := by
  induction t with
  | nil => rfl
  | cons c t ih =>
      by_cases hc : Unicode.isWhiteSpace c = true
      · have hne : c ≠ '#' := by
          rintro rfl
          exact absurd hc (by decide)
        rw [List.dropWhile_cons_of_pos hc, ih]
        simp [skipBlanks, hne, hc]
      · rw [List.dropWhile_cons_of_neg hc]

/-- Where nothing but blanks follows, nothing is left behind them. -/
theorem skip_of_aheadOfBlanks {t : Text} (h : aheadOfBlanks t = none) : skip true t = [] := by
  change skipBlanks false t = []
  rw [← skipBlanks_dropWhile]
  rw [aheadOfBlanks] at h
  cases hdrop : t.dropWhile Unicode.isWhiteSpace with
  | nil => rfl
  | cons c t' =>
      rw [hdrop] at h
      by_cases hc : c = '#'
      · subst hc
        have hall : ∀ d ∈ t', Unicode.isWhiteSpace d = true := by
          simpa [List.dropWhile_eq_nil_iff] using h
        exact skipBlanks_of_all hall true
      · simp [hc] at h

theorem lookAhead_append {verbose : Bool} {t : Text} (h : skip verbose t ≠ []) :
    lookAhead verbose (t ++ tail) = lookAhead verbose t := by
  cases verbose with
  | false =>
      cases t with
      | nil => exact absurd rfl h
      | cons c t => rfl
  | true =>
      cases hahead : aheadOfBlanks t with
      | none => exact absurd (skip_of_aheadOfBlanks hahead) h
      | some c =>
          rw [lookAhead_true, lookAhead_true, hahead, aheadOfBlanks_append hahead]
          rfl

/-- The look ahead for a closing bracket or a second hyphen. -/
theorem lookAhead_append_of_eq {verbose : Bool} {t : Text} {c : Char}
    (h : lookAhead verbose t = some c) (hc : Unicode.isWhiteSpace c = false) (hc' : c ≠ '#') :
    lookAhead verbose (t ++ tail) = some c := by
  cases verbose with
  | false =>
      cases t with
      | nil => cases h
      | cons d t => exact h
  | true =>
      cases hahead : aheadOfBlanks t with
      | some d =>
          rw [lookAhead_true, aheadOfBlanks_append hahead]
          rwa [lookAhead_true, hahead] at h
      | none =>
          -- a character that is no blank would be found
          exfalso
          rw [lookAhead_true, hahead, Option.none_or, List.head?_eq_some_iff] at h
          obtain ⟨t', rfl⟩ := h
          rw [aheadOfBlanks, List.dropWhile_cons_of_neg (by simp [hc])] at hahead
          simp [hc'] at hahead

theorem carries_readClassPrimitive (htail : tail ∈ endings) (fs : Flags) (t : Text) :
    Carries tail (readClassPrimitive fs t) (readClassPrimitive fs (t ++ tail)) := by
  cases t with
  | nil => exact carries_error _ _
  | cons c t =>
      by_cases hc : c = '\\'
      · subst hc
        exact carries_readEscape htail fs t
      · have hliteral (t : Text) : readClassPrimitive fs (c :: t) = .ok (.literal c false, t) := by
          simp [readClassPrimitive]
        rw [List.cons_append, hliteral, hliteral]
        exact carries_ok _ _

theorem carries_classRangeFrom (htail : tail ∈ endings) (fs : Flags) (first : Primitive)
    {t : Text} (ht : t ≠ []) :
    Carries tail (classRangeFrom fs first t) (classRangeFrom fs first (t ++ tail)) := by
  intro part rest h
  cases t with
  | nil => exact absurd rfl ht
  | cons c t =>
      rw [List.cons_append, classRangeFrom]
      rw [classRangeFrom] at h
      by_cases hc : c = '-'
      · rw [if_pos hc] at h ⊢
        split at h
        · rename_i hnext
          have hnext' : lookAhead fs.verbose (t ++ tail) = some ']' ∨
              lookAhead fs.verbose (t ++ tail) = some '-' :=
            hnext.imp (lookAhead_append_of_eq · (by decide) (by decide))
              (lookAhead_append_of_eq · (by decide) (by decide))
          rw [if_pos hnext']
          exact carries_map id (classItem fs first) ('-' :: t) part rest h
        · rename_i hnext
          obtain ⟨⟨last, t₃⟩, hlast, h⟩ := bind_eq_ok.mp h
          obtain ⟨item, hitem, heq⟩ := bind_eq_ok.mp h
          cases heq
          have hskip : skip fs.verbose t ≠ [] := by
            intro hnil
            rw [hnil] at hlast
            cases hlast
          rw [lookAhead_append hskip, if_neg hnext, skip_append_of_ne tail hskip]
          rcases carries_readClassPrimitive htail fs _ last rest hlast with hlast' | ⟨hnil, hlast'⟩
          · exact .inl (bind_eq_ok.mpr ⟨_, hlast', bind_eq_ok.mpr ⟨_, hitem, rfl⟩⟩)
          · exact .inr ⟨hnil, bind_eq_ok.mpr ⟨_, hlast', bind_eq_ok.mpr ⟨_, hitem, rfl⟩⟩⟩
      · rw [if_neg hc] at h ⊢
        exact carries_map id (classItem fs first) (c :: t) part rest h

theorem carries_readClassRange (htail : tail ∈ endings) (fs : Flags) (t : Text) :
    Carries tail (readClassRange fs t) (readClassRange fs (t ++ tail)) := by
  intro part rest h
  rw [readClassRange_eq] at h ⊢
  obtain ⟨⟨first, t₁⟩, hfirst, h⟩ := bind_eq_ok.mp h
  dsimp only at h
  -- blanks alone would leave the class unclosed
  have hskip : skip fs.verbose t₁ ≠ [] := by
    intro hnil
    rw [hnil] at h
    cases h
  have hfirst' : readClassPrimitive fs (t ++ tail) = .ok (first, t₁ ++ tail) := by
    refine (carries_readClassPrimitive htail fs t first t₁ hfirst).resolve_right ?_
    rintro ⟨rfl, -⟩
    exact hskip (by cases fs.verbose <;> rfl)
  rw [hfirst']
  change classRangeFrom fs first (skip fs.verbose (t₁ ++ tail)) = _ ∨
    rest = [] ∧ classRangeFrom fs first (skip fs.verbose (t₁ ++ tail)) = _
  rw [skip_append_of_ne tail hskip]
  exact carries_classRangeFrom htail fs first hskip part rest h

theorem operation?_append (htail : tail ∈ endings) (c : Char) (t : Text) :
    operation? c (t ++ tail) = (operation? c t).map fun r => (r.1, r.2 ++ tail) := by
  cases t with
  | nil =>
      rcases eq_of_mem_endings htail with rfl | rfl
      · simp [operation?, closing]
      · simp [operation?]
  | cons d t =>
      by_cases hsame : c = d
      · subst hsame
        by_cases hc : c = '&' ∨ c = '-' ∨ c = '~'
        · rcases hc with rfl | rfl | rfl <;> rfl
        · simp only [not_or] at hc
          simp [operation?, hc]
      · have hnone (t : Text) : operation? c (d :: t) = none := by
          unfold operation?
          split
          case h_4 => rfl
          all_goals
            rename_i heq
            cases heq
            exact absurd rfl hsame
        rw [List.cons_append, hnone, hnone]
        rfl

theorem carries_classRound (htail : tail ∈ endings) (fs : Flags) (stack : List ClassFrame)
    (parts : List ClassPart) (c : Char) (t : Text) :
    Carries tail (classRound fs stack parts c t) (classRound fs stack parts c (t ++ tail)) := by
  unfold classRound
  split_ifs
  · rw [readNamedClass?_append htail]
    cases readNamedClass? t with
    | some named => exact carries_map _ (signedSet fs named.1 named.2.1) named.2.2
    | none =>
        intro progress rest h
        obtain ⟨r, hopen, heq⟩ := map_eq_ok.mp h
        cases heq
        exact .inl (map_eq_ok.mpr ⟨_, openClass_append tail hopen, rfl⟩)
  · split
    · exact carries_map _ _ t
    · exact carries_error _ _
  · rw [operation?_append htail]
    cases operation? c t with
    | some r => exact carries_ok _ r.2
    | none =>
        intro progress rest h
        obtain ⟨r, hrange, heq⟩ := map_eq_ok.mp h
        cases heq
        refine (carries_readClassRange htail fs _ _ _ hrange).imp ?_ (And.imp_right ?_)
        · intro hrange'
          exact map_eq_ok.mpr ⟨_, hrange', rfl⟩
        · intro hrange'
          exact map_eq_ok.mpr ⟨_, hrange', rfl⟩

theorem ReadsClass.append (htail : tail ∈ endings) {fs : Flags} {stack : List ClassFrame}
    {parts : List ClassPart} {t rest : Text} {part : ClassPart}
    (h : ReadsClass fs stack parts t part rest) :
    ReadsClass fs stack parts (t ++ tail) part (rest ++ tail) ∨
      (rest = [] ∧ ReadsClass fs stack parts (t ++ tail) part []) := by
  induction h with
  | done hskip hround =>
      have hskip' := skip_append_of_cons tail hskip
      rcases carries_classRound htail _ _ _ _ _ _ _ hround with h | ⟨hnil, h⟩
      · exact .inl (.done hskip' h)
      · exact .inr ⟨hnil, .done hskip' h⟩
  | more hskip hround hmore ih =>
      have hskip' := skip_append_of_cons tail hskip
      rcases carries_classRound htail _ _ _ _ _ _ _ hround with h | ⟨rfl, -⟩
      · exact ih.imp (.more hskip' h) (And.imp_right (.more hskip' h))
      · -- the class would be left unclosed
        cases hmore with
        | done hnil _ => simp at hnil
        | more hnil _ _ => simp at hnil

theorem carries_readClass (htail : tail ∈ endings) (fs : Flags) (t : Text) :
    Carries tail (readClass fs t) (readClass fs (t ++ tail)) := by
  intro part rest h
  obtain ⟨negated, parts, t', hopen, h⟩ := readClass_eq_ok_iff.mp h
  have hopen' := openClass_append tail hopen
  refine (h.append htail).imp ?_ (And.imp_right ?_)
  · intro h
    exact readClass_eq_ok_iff.mpr ⟨negated, parts, _, hopen', h⟩
  · intro h
    exact readClass_eq_ok_iff.mpr ⟨negated, parts, _, hopen', h⟩

/-! ### Actions -/

theorem carries_readGroupName (tail : Text) (taken : List Text) (t : Text) :
    Carries tail (readGroupName taken t) (readGroupName taken (t ++ tail)) := by
  intro name rest h
  refine .inl ?_
  unfold readGroupName at h
  split at h
  · rename_i c name' bracket rest' hspan
    rw [readGroupName, span_append tail (by rw [hspan]; exact List.cons_ne_nil _ _), hspan]
    dsimp only [List.cons_append]
    split_ifs at h ⊢
    cases h
    rfl
  · cases h

theorem readFlags_append (tail : Text) {seen changes : List (Flag × Bool)} {negated dangling : Bool}
    {t rest : Text} {stop : Char}
    (h : readFlags seen negated dangling t = .ok (changes, stop, rest)) :
    readFlags seen negated dangling (t ++ tail) = .ok (changes, stop, rest ++ tail) := by
  induction t generalizing seen negated dangling with
  | nil => cases h
  | cons c t ih =>
      rw [readFlags] at h
      rw [List.cons_append, readFlags]
      split_ifs at h ⊢
      · cases h
        rfl
      · exact ih h
      · split at h
        · cases h
        · split_ifs at h ⊢
          exact ih h

theorem nameFrom?_append (htail : tail ∈ endings) (t : Text) :
    nameFrom? (t ++ tail) = (nameFrom? t).map (· ++ tail) := by
  match t with
  | [] => rcases eq_of_mem_endings htail with rfl | rfl <;> rfl
  | [c] =>
      by_cases hc : c = '<'
      · subst hc
        rfl
      · rcases eq_of_mem_endings htail with rfl | rfl <;> simp [nameFrom?, closing, hc]
  | c :: d :: t =>
      by_cases hc : c = '<'
      · subst hc
        rfl
      · by_cases hd : d = '<'
        · by_cases hc' : c = 'P'
          · subst hd hc'
            rfl
          · simp [nameFrom?, hc, hc']
        · simp [nameFrom?, hc, hd]

theorem isLookAround_append (htail : tail ∈ endings) (t : Text) :
    isLookAround ('?' :: (t ++ tail)) = isLookAround ('?' :: t) := by
  cases t with
  | nil => rcases eq_of_mem_endings htail with rfl | rfl <;> rfl
  | cons c t =>
      by_cases hc : c = '=' ∨ c = '!'
      · rcases hc with rfl | rfl <;> rfl
      · rw [not_or] at hc
        by_cases hname : c = '<'
        · subst hname
          cases t with
          | nil => rcases eq_of_mem_endings htail with rfl | rfl <;> rfl
          | cons d t =>
              by_cases hd : d = '=' ∨ d = '!'
              · rcases hd with rfl | rfl <;> rfl
              · rw [not_or] at hd
                simp [isLookAround, hd]
        · simp [isLookAround, hc, hname]

theorem Carries.making {α β : Type} {x y : Except ReadError (α × Text)} (h : Carries tail x y)
    (f : α → Except ReadError β) : Carries tail (making x f) (making y f) := by
  intro b rest hb
  obtain ⟨a, hx, hf⟩ := making_eq_ok_iff.mp hb
  refine (h a rest hx).imp ?_ (And.imp_right ?_)
  · intro hy
    exact making_eq_ok_iff.mpr ⟨a, hy, hf⟩
  · intro hy
    exact making_eq_ok_iff.mpr ⟨a, hy, hf⟩

theorem carries_readSettings (tail : Text) (t : Text) :
    Carries tail (readSettings t) (readSettings (t ++ tail)) := by
  intro settings rest h
  obtain ⟨r, hread, heq⟩ := map_eq_ok.mp h
  cases heq
  exact .inl (map_eq_ok.mpr ⟨_, readFlags_append tail hread, rfl⟩)

theorem carries_readOpening (htail : tail ∈ endings) (fs : Flags) (names : List Text) (t : Text) :
    Carries tail (readOpening fs names t) (readOpening fs names (t ++ tail)) := by
  by_cases hhead : t.head? = some '?'
  · obtain ⟨u, rfl⟩ := List.head?_eq_some_iff.mp hhead
    rw [List.cons_append, readOpening_mark, readOpening_mark, isLookAround_append htail,
      nameFrom?_append htail]
    split_ifs
    · exact carries_error _ _
    · cases nameFrom? u with
      | some v => exact (carries_readGroupName tail names v).making _
      | none => exact (carries_readSettings tail u).making _
  · have hhead' : (t ++ tail).head? ≠ some '?' := by
      cases t with
      | nil => rcases eq_of_mem_endings htail with rfl | rfl <;> decide
      | cons c u => exact hhead
    rw [readOpening_plain fs names hhead, readOpening_plain fs names hhead']
    exact carries_ok _ t

/-- What a round does is read with the ending behind the text as it is without. -/
theorem carries_readAction (htail : tail ∈ endings) (fs : Flags) (names : List Text) (c : Char)
    (t : Text) : Carries tail (readAction fs names c t) (readAction fs names c (t ++ tail)) := by
  have hrepeat (least : Nat) (most : Option Nat) (t : Text) :
      repetition least most (t ++ tail) =
        ((repetition least most t).1, (repetition least most t).2 ++ tail) := by
    rw [repetition, readGreed_append htail]
    rfl
  have hmark (least : Nat) (most : Option Nat) : Carries tail (.ok (repetition least most t))
      (.ok (repetition least most (t ++ tail))) := by
    rw [hrepeat]
    exact carries_ok _ _
  cases hoperator : isOperator c with
  | false =>
      rw [readAction_smallest fs names hoperator, readAction_smallest fs names hoperator]
      exact (carries_readPrimitive htail fs c t).making _
  | true =>
      rcases isOperator_iff.mp hoperator with rfl | rfl | rfl | rfl | rfl | rfl | rfl | rfl
      · rcases skip_append htail fs.verbose t with hskip | ⟨hnil, hskip⟩
        · simp only [readAction, hskip]
          exact carries_readOpening htail fs names _
        · simp only [readAction, hskip, hnil]
          intro action rest h
          cases h
          exact .inr ⟨rfl, rfl⟩
      · exact carries_ok _ t
      · exact carries_ok _ t
      · exact (carries_readClass htail fs t).making classAction
      · exact hmark _ _
      · exact hmark _ _
      · exact hmark _ _
      · intro action rest h
        obtain ⟨⟨least, most, rest'⟩, hread, heq⟩ := map_eq_ok.mp h
        cases heq
        rcases readBounds_append htail hread with hread' | ⟨rfl, hread'⟩
        · exact .inl (map_eq_ok.mpr ⟨_, hread', hrepeat least most rest'⟩)
        · exact .inr ⟨rfl, map_eq_ok.mpr ⟨_, hread', rfl⟩⟩

end UriRouting.Regex
