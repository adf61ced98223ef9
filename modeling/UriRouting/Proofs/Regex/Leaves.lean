import Mathlib.Data.List.Infix
import Mathlib.Data.List.TakeWhile
import UriRouting.Proofs.Regex.Reading

/-!
# UriRouting.Proofs.Regex.Leaves

What the functions that read the parts of an expression leave of a text, which is an end of it
(`Leaves`), and classes as a row of rounds.

`classRound` is one round in a class. What is read with fuel above the length of the text is what
rounds lead to (`readClassFrom_eq_ok_iff`), since each round takes a character.
-/

namespace UriRouting.Regex

open Unicode (CharSet)

/-! ### What is left of a text -/

/-- What is left where something has been read is an end of the text. -/
def Leaves {α : Type} (t : Text) (x : Except ReadError (α × Text)) : Prop :=
  ∀ (a : α) (rest : Text), x = .ok (a, rest) → rest <:+ t

theorem leaves_ok {α : Type} {a : α} {t rest : Text} (h : rest <:+ t) :
    Leaves t (.ok (a, rest)) := by
  intro b rest' heq
  cases heq
  exact h

theorem leaves_error {α : Type} (t : Text) (e : ReadError) :
    @Leaves α t (.error e) := by
  intro a rest heq
  cases heq

theorem leaves_map {α β : Type} (f : α → β) (x : Except ReadError α) {t rest : Text}
    (h : rest <:+ t) : Leaves t (x.map fun a => (f a, rest)) := by
  cases x with
  | error e => exact leaves_error t e
  | ok a => exact leaves_ok h

theorem Leaves.mono {α : Type} {t t' : Text} {x : Except ReadError (α × Text)}
    (h : Leaves t x) (ht : t <:+ t') : Leaves t' x :=
  fun a rest heq => (h a rest heq).trans ht

theorem skipBlanks_suffix (inComment : Bool) (t : Text) : skipBlanks inComment t <:+ t := by
  induction t generalizing inComment with
  | nil => exact List.suffix_refl []
  | cons c t ih =>
      have htail (inComment : Bool) : skipBlanks inComment t <:+ c :: t :=
        (ih inComment).trans (List.suffix_cons c t)
      rw [skipBlanks]
      split_ifs
      · exact htail _
      · exact htail _
      · exact htail _
      · exact List.suffix_refl _

theorem skip_suffix (verbose : Bool) (t : Text) : skip verbose t <:+ t := by
  cases verbose with
  | false => exact List.suffix_refl t
  | true => exact skipBlanks_suffix false t

theorem suffix_of_skip {verbose : Bool} {t u : Text} {c : Char} (h : skip verbose t = c :: u) :
    u <:+ t := by
  have hskip := skip_suffix verbose t
  rw [h] at hskip
  exact (List.suffix_cons c u).trans hskip

theorem spanLoose_suffix (verbose inComment : Bool) (p : Char → Bool) (t : Text) :
    (spanLoose verbose p inComment t).2 <:+ t := by
  induction t generalizing inComment with
  | nil => exact List.suffix_refl []
  | cons c t ih =>
      have htail (inComment : Bool) : (spanLoose verbose p inComment t).2 <:+ c :: t :=
        (ih inComment).trans (List.suffix_cons c t)
      rw [spanLoose]
      split_ifs
      · exact htail _
      · exact htail _
      · exact htail _
      · exact htail _
      · exact List.suffix_refl _

theorem suffix_of_spanLoose {verbose : Bool} {p : Char → Bool} {t taken rest : Text} {c : Char}
    (h : spanLoose verbose p false t = (taken, c :: rest)) : rest <:+ t := by
  have hspan := spanLoose_suffix verbose false p t
  rw [h] at hspan
  exact (List.suffix_cons c rest).trans hspan

theorem takeLoose_suffix {verbose : Bool} {n : Nat} {t taken rest : Text}
    (h : takeLoose verbose n t = some (taken, rest)) : rest <:+ t := by
  induction n generalizing t taken with
  | zero =>
      cases h
      exact List.suffix_refl _
  | succ n ih =>
      cases t with
      | nil => cases h
      | cons c t =>
          rw [takeLoose] at h
          obtain ⟨⟨taken', rest'⟩, htaken, heq⟩ := Option.map_eq_some_iff.mp h
          cases heq
          exact ((ih htaken).trans (skip_suffix verbose t)).trans (List.suffix_cons c t)

/-! ### Smallest parts -/

theorem leaves_readCodePoint (verbose : Bool) (digits : Nat) (t : Text) :
    Leaves t (readCodePoint verbose digits t) := by
  rw [readCodePoint]
  split
  · rename_i t' hskip
    split
    · rename_i hspan
      split
      · exact leaves_ok (((skip_suffix _ _).trans (suffix_of_spanLoose hspan)).trans
          (suffix_of_skip hskip))
      · exact leaves_error _ _
    · exact leaves_error _ _
  · split
    · rename_i htaken
      split
      · exact leaves_ok ((takeLoose_suffix htaken).trans (skip_suffix verbose t))
      · exact leaves_error _ _
    · exact leaves_error _ _

theorem leaves_readProperty (fs : Flags) (negated : Bool) (t : Text) :
    Leaves t (readProperty fs negated t) := by
  unfold readProperty
  extract_lets found
  have hfound (name : Text) {rest : Text} (h : rest <:+ t) : Leaves t (found name rest) := by
    dsimp only [found]
    cases fs.properties.set? name with
    | none => exact leaves_error t _
    | some set => exact leaves_ok h
  split
  · exact leaves_error _ _
  · rename_i hskip
    split
    · rename_i hspan
      exact hfound _ ((suffix_of_spanLoose hspan).trans (suffix_of_skip hskip))
    · exact leaves_error _ _
  · rename_i hskip
    exact hfound _ ((skip_suffix _ _).trans (suffix_of_skip hskip))

theorem leaves_readWordEdge (fs : Flags) (t : Text) : Leaves t (readWordEdge fs t) := by
  unfold readWordEdge
  extract_lets plain inName
  split
  · rename_i t'
    split
    · exact leaves_error _ _
    · rename_i c t'' hskip
      split_ifs
      · split
        · rename_i hspan
          have hrest := (suffix_of_spanLoose hspan).trans (hskip ▸ skip_suffix fs.verbose t')
          split
          · exact leaves_ok (hrest.trans (List.suffix_cons _ _))
          · exact leaves_error _ _
        · exact leaves_error _ _
      · exact leaves_ok (List.suffix_refl _)
  · exact leaves_ok (List.suffix_refl _)

/-- The characters that stand for more than themselves behind a backslash, and are followed by
more in some cases. -/
def escapeLetters : Text :=
  ['x', 'u', 'U', 'p', 'P', 'd', 's', 'w', 'D', 'S', 'W', 'A', 'z', 'b', 'B', '<', '>']

theorem readEscape_of_not_mem (fs : Flags) {c : Char} (hc : c ∉ escapeLetters) (t : Text) :
    readEscape fs (c :: t) =
      if isEscapable c then .ok (.literal c false, t)
      else match controlChar? c with
        | some control => .ok (.literal control false, t)
        | none => .error .escape := by
  simp only [escapeLetters, List.mem_cons, List.not_mem_nil, or_false, not_or] at hc
  cases hcontrol : controlChar? c <;>
    simp only [readEscape, hc, hcontrol, imp_false, not_false_eq_true]

theorem leaves_readEscape (fs : Flags) (c : Char) (t : Text) :
    Leaves t (readEscape fs (c :: t)) := by
  by_cases hc : c ∈ escapeLetters
  · simp only [escapeLetters, List.mem_cons, List.not_mem_nil, or_false] at hc
    rcases hc with rfl | rfl | rfl | rfl | rfl | rfl | rfl | rfl | rfl | rfl | rfl | rfl | rfl |
      rfl | rfl | rfl | rfl
    · exact leaves_readCodePoint _ _ t
    · exact leaves_readCodePoint _ _ t
    · exact leaves_readCodePoint _ _ t
    · exact leaves_readProperty _ _ t
    · exact leaves_readProperty _ _ t
    all_goals first | exact leaves_readWordEdge fs t | exact leaves_ok (List.suffix_refl t)
  · rw [readEscape_of_not_mem fs hc]
    split
    · exact leaves_ok (List.suffix_refl t)
    · split
      · exact leaves_ok (List.suffix_refl t)
      · exact leaves_error t _

theorem leaves_readPrimitive (fs : Flags) (c : Char) (t : Text) :
    Leaves t (readPrimitive fs c t) := by
  unfold readPrimitive
  split
  · cases t with
    | nil => exact leaves_error _ _
    | cons d t => exact (leaves_readEscape fs d t).mono (List.suffix_cons d t)
  · exact leaves_ok (List.suffix_refl t)
  · exact leaves_ok (List.suffix_refl t)
  · exact leaves_ok (List.suffix_refl t)
  · exact leaves_ok (List.suffix_refl t)

/-! ### Repetitions -/

theorem readGreed_suffix (t : Text) : (readGreed t).2 <:+ t := by
  unfold readGreed
  split
  · exact List.suffix_cons _ _
  · exact List.suffix_refl _

theorem readDecimal_suffix (verbose : Bool) (t : Text) : (readDecimal verbose t).2 <:+ t :=
  ((List.dropWhile_suffix _).trans (spanLoose_suffix _ _ _ _)).trans (List.dropWhile_suffix _)

theorem readBounds_suffix {verbose : Bool} {t rest : Text} {least : Nat} {most : Option Nat}
    (h : readBounds verbose t = .ok (least, most, rest)) : rest <:+ t := by
  rw [readBounds] at h
  split at h
  rename_i low t₁ hlow
  have ht₁ : t₁ <:+ t := by
    have hdecimal := readDecimal_suffix verbose (skip verbose t)
    rw [hlow] at hdecimal
    exact hdecimal.trans (skip_suffix verbose t)
  split at h
  · cases h
    exact ((skip_suffix _ _).trans (List.suffix_cons _ _)).trans ht₁
  · rename_i least t₂ _
    have ht₂ : t₂ <:+ t := (List.suffix_cons _ _).trans ht₁
    split at h
    · rename_i hskip
      cases h
      exact ((skip_suffix _ _).trans (suffix_of_skip hskip)).trans ht₂
    · split at h
      rename_i high t₃ hhigh
      have ht₃ : t₃ <:+ t := by
        have hdecimal := readDecimal_suffix verbose (skip verbose t₂)
        rw [hhigh] at hdecimal
        exact (hdecimal.trans (skip_suffix verbose t₂)).trans ht₂
      split at h
      · cases h
        exact ((skip_suffix _ _).trans (List.suffix_cons _ _)).trans ht₃
      · cases h
  · cases h

/-! ### Classes -/

/-- The name of a class of ASCII, after the colon and the sign. -/
def namedClassFrom? (negated : Bool) (t : Text) : Option (CharSet × Bool × Text) :=
  match t.span (· != ':') with
  | (name, ':' :: ']' :: rest) => (namedClass? name).map (·, negated, rest)
  | _ => none

theorem readNamedClass?_plain {t : Text} (h : t.head? ≠ some '^') :
    readNamedClass? (':' :: t) = namedClassFrom? false t := by
  cases t with
  | nil => rfl
  | cons c t =>
      have hc : c ≠ '^' := by simpa using h
      simp only [readNamedClass?, List.cons.injEq, hc, false_and, imp_self, implies_true]
      rfl

/-- The start of a class, after the sign. -/
def openClassFrom (verbose negated : Bool) (t : Text) :
    Except ReadError (Bool × List ClassPart × Text) :=
  let (hyphens, t) := spanLoose verbose (· == '-') false t
  let parts : List ClassPart := hyphens.map fun c => ⟨.oneOf [c], 0⟩
  match hyphens, t with
  | _, [] => .error .unclosedClass
  | [], ']' :: t =>
    match skip verbose t with
    | [] => .error .unclosedClass
    | t => .ok (negated, [⟨.oneOf [']'], 0⟩], t)
  | _, t => .ok (negated, parts, t)

theorem openClass_negated {verbose : Bool} {t t' : Text} (h : skip verbose t = '^' :: t') :
    openClass verbose t = openClassFrom verbose true (skip verbose t') := by
  simp only [openClass, h]
  rfl

theorem openClass_plain {verbose : Bool} {t : Text} (h : (skip verbose t).head? ≠ some '^') :
    openClass verbose t = openClassFrom verbose false (skip verbose t) := by
  unfold openClass
  cases hskip : skip verbose t with
  | nil => rfl
  | cons c t' =>
      have hc : c ≠ '^' := by simpa [hskip] using h
      simp only [List.cons.injEq, hc, false_and, imp_self, implies_true]
      rfl

/-- The rest of a range or of a single part, after its first character or escape and the blanks
behind it. -/
def classRangeFrom (fs : Flags) (first : Primitive) :
    Text → Except ReadError (ClassPart × Text)
  | [] => .error .unclosedClass
  | c :: t =>
    if c = '-' then
      if lookAhead fs.verbose t = some ']' ∨ lookAhead fs.verbose t = some '-' then
        (classItem fs first).map (·, '-' :: t)
      else do
        let (last, rest) ← readClassPrimitive fs (skip fs.verbose t)
        return (← classRange fs first last, rest)
    else (classItem fs first).map (·, c :: t)

theorem readClassRange_eq (fs : Flags) (t : Text) :
    readClassRange fs t = (readClassPrimitive fs t).bind fun r =>
      classRangeFrom fs r.1 (skip fs.verbose r.2) := by
  rw [readClassRange]
  cases readClassPrimitive fs t with
  | error e => rfl
  | ok r =>
      change _ = classRangeFrom fs r.1 (skip fs.verbose r.2)
      simp only [bind, Except.bind]
      cases skip fs.verbose r.2 with
      | nil => rfl
      | cons c t =>
          by_cases hc : c = '-'
          · subst hc
            simp only [classRangeFrom, if_true, Bool.or_eq_true, beq_iff_eq]
            split_ifs
            · cases classItem fs r.1 <;> rfl
            · rfl
          · simp only [classRangeFrom, List.cons.injEq, hc, false_and, imp_self, implies_true,
              if_false]
            cases classItem fs r.1 <;> rfl

theorem namedClassFrom?_suffix {negated negated' : Bool} {t rest : Text} {set : CharSet}
    (h : namedClassFrom? negated t = some (set, negated', rest)) : rest <:+ t := by
  unfold namedClassFrom? at h
  split at h
  · rename_i name rest' hspan
    obtain ⟨set', -, heq⟩ := Option.map_eq_some_iff.mp h
    cases heq
    have hdrop : (t.span (· != ':')).2 <:+ t := by
      rw [List.span_eq_takeWhile_dropWhile]
      exact List.dropWhile_suffix _
    rw [hspan] at hdrop
    exact ((List.suffix_cons _ _).trans (List.suffix_cons _ _)).trans hdrop
  · cases h

theorem readNamedClass?_suffix {negated : Bool} {t rest : Text} {set : CharSet}
    (h : readNamedClass? t = some (set, negated, rest)) : rest <:+ t := by
  cases t with
  | nil => cases h
  | cons c t =>
      by_cases hc : c = ':'
      · subst hc
        by_cases hhead : t.head? = some '^'
        · obtain ⟨t', rfl⟩ := List.head?_eq_some_iff.mp hhead
          have hnamed : namedClassFrom? true t' = some (set, negated, rest) := h
          exact (namedClassFrom?_suffix hnamed).trans
            ((List.suffix_cons _ _).trans (List.suffix_cons _ _))
        · rw [readNamedClass?_plain hhead] at h
          exact (namedClassFrom?_suffix h).trans (List.suffix_cons _ _)
      · simp [readNamedClass?, hc] at h

theorem openClassFrom_suffix {verbose sign negated : Bool} {t rest : Text}
    {parts : List ClassPart} (h : openClassFrom verbose sign t = .ok (negated, parts, rest)) :
    rest <:+ t := by
  have hspan := spanLoose_suffix verbose false (· == '-') t
  unfold openClassFrom at h
  split at h
  rename_i hyphens t' heq
  rw [heq] at hspan
  dsimp only at h hspan
  split at h
  · cases h
  · rename_i t''
    split at h
    · cases h
    · cases h
      exact ((skip_suffix verbose t'').trans (List.suffix_cons _ _)).trans hspan
  · cases h
    exact hspan

theorem openClass_suffix {verbose negated : Bool} {t rest : Text} {parts : List ClassPart}
    (h : openClass verbose t = .ok (negated, parts, rest)) : rest <:+ t := by
  by_cases hhead : (skip verbose t).head? = some '^'
  · obtain ⟨t', ht'⟩ := List.head?_eq_some_iff.mp hhead
    rw [openClass_negated ht'] at h
    exact ((openClassFrom_suffix h).trans (skip_suffix verbose t')).trans (suffix_of_skip ht')
  · rw [openClass_plain hhead] at h
    exact (openClassFrom_suffix h).trans (skip_suffix verbose t)

theorem leaves_readClassPrimitive (fs : Flags) (c : Char) (t : Text) :
    Leaves t (readClassPrimitive fs (c :: t)) := by
  by_cases hc : c = '\\'
  · subst hc
    cases t with
    | nil => exact leaves_error _ _
    | cons d t => exact (leaves_readEscape fs d t).mono (List.suffix_cons d t)
  · have hliteral : readClassPrimitive fs (c :: t) = .ok (.literal c false, t) := by
      simp [readClassPrimitive]
    rw [hliteral]
    exact leaves_ok (List.suffix_refl t)

theorem leaves_classRangeFrom (fs : Flags) (first : Primitive) (t : Text) :
    Leaves t (classRangeFrom fs first t) := by
  cases t with
  | nil => exact leaves_error _ _
  | cons c t =>
      rw [classRangeFrom]
      by_cases hc : c = '-'
      · rw [if_pos hc, hc]
        split
        · exact leaves_map _ _ (List.suffix_refl _)
        · intro part rest h
          obtain ⟨⟨last, rest'⟩, hlast, h⟩ := bind_eq_ok.mp h
          obtain ⟨item, -, heq⟩ := bind_eq_ok.mp h
          cases heq
          cases hskip : skip fs.verbose t with
          | nil =>
              rw [hskip] at hlast
              cases hlast
          | cons d u =>
              rw [hskip] at hlast
              exact ((leaves_readClassPrimitive fs d u _ _ hlast).trans
                (suffix_of_skip hskip)).trans (List.suffix_cons _ _)
      · rw [if_neg hc]
        exact leaves_map _ _ (List.suffix_refl _)

theorem leaves_readClassRange (fs : Flags) (c : Char) (t : Text) :
    Leaves t (readClassRange fs (c :: t)) := by
  intro part rest h
  rw [readClassRange_eq] at h
  obtain ⟨⟨first, t₁⟩, hfirst, h⟩ := bind_eq_ok.mp h
  exact ((leaves_classRangeFrom fs first _ part rest h).trans (skip_suffix _ _)).trans
    (leaves_readClassPrimitive fs c t first t₁ hfirst)

/-! ### Rounds in a class -/

/-- The operation between the parts of a class that two characters stand for, and the rest. -/
def operation? : Char → Text → Option (SetOperation × Text)
  | '&', '&' :: t => some (.inter, t)
  | '-', '-' :: t => some (.diff, t)
  | '~', '~' :: t => some (.symmDiff, t)
  | _, _ => none

theorem operation?_suffix {c : Char} {t rest : Text} {operation : SetOperation}
    (h : operation? c t = some (operation, rest)) : rest <:+ t := by
  unfold operation? at h
  split at h
  · cases h
    exact List.suffix_cons _ _
  · cases h
    exact List.suffix_cons _ _
  · cases h
    exact List.suffix_cons _ _
  · cases h

/-- What a round in a class leads to. -/
inductive ClassProgress where
  /-- The class is read. -/
  | done (part : ClassPart)
  /-- The class goes on. -/
  | more (stack : List ClassFrame) (parts : List ClassPart)

/-- One round in a class, on a text that starts with `c`. -/
def classRound (fs : Flags) (stack : List ClassFrame) (parts : List ClassPart) (c : Char)
    (t : Text) : Except ReadError (ClassProgress × Text) :=
  if c = '[' then
    match readNamedClass? t with
    | some (set, negated, rest) =>
      (signedSet fs set negated).map fun set => (.more stack (⟨set, 0⟩ :: parts), rest)
    | none =>
      (openClass fs.verbose t).map fun r => (.more (.opened parts r.1 :: stack) r.2.1, r.2.2)
  else if c = ']' then
    match closePending fs (unionOfParts parts) stack with
    | (part, .opened outer negated :: stack) =>
      (signedSet fs part.set negated).map fun set =>
        (if stack.isEmpty then .done ⟨set, part.depth + 1⟩
          else .more stack (⟨set, part.depth + 1⟩ :: outer), t)
    | _ => .error .unclosedClass
  else match operation? c t with
    | some (operation, rest) =>
      let (part, stack) := closePending fs (unionOfParts parts) stack
      .ok (.more (.pending operation part :: stack) [], rest)
    | none => (readClassRange fs (c :: t)).map fun r => (.more stack (r.1 :: parts), r.2)

/-- What comes after a round in a class. -/
def afterClassRound (fs : Flags) (fuel : Nat) :
    ClassProgress × Text → Except ReadError (ClassPart × Text)
  | (.done part, rest) => .ok (part, rest)
  | (.more stack parts, rest) => readClassFrom fs fuel stack parts rest

theorem readClassFrom_of_skip {fs : Flags} {t u : Text} {c : Char}
    (hskip : skip fs.verbose t = c :: u) (fuel : Nat) (stack : List ClassFrame)
    (parts : List ClassPart) :
    readClassFrom fs (fuel + 1) stack parts t =
      (classRound fs stack parts c u).bind (afterClassRound fs fuel) := by
  unfold classRound
  by_cases hopen : c = '['
  · subst hopen
    simp only [readClassFrom, hskip, if_true]
    cases readNamedClass? u with
    | some named =>
        obtain ⟨set, negated, rest⟩ := named
        cases hset : signedSet fs set negated <;> simp [hset] <;> rfl
    | none =>
        cases openClass fs.verbose u <;> rfl
  · by_cases hclose : c = ']'
    · subst hclose
      simp only [readClassFrom, hskip]
      cases closePending fs (unionOfParts parts) stack with
      | mk part stack' =>
          cases stack' with
          | nil => rfl
          | cons frame stack' =>
              cases frame with
              | pending operation left => rfl
              | opened outer negated =>
                  cases hset : signedSet fs part.set negated with
                  | error e => simp [hset]; rfl
                  | ok set =>
                      simp only [hset]
                      cases stack' <;> rfl
    · rw [if_neg hopen, if_neg hclose, readClassFrom, hskip]
      split
      case h_1 heq => cases heq
      case h_2 heq =>
        cases heq
        exact absurd rfl hopen
      case h_3 heq =>
        cases heq
        exact absurd rfl hclose
      case h_4 heq =>
        cases heq
        rfl
      case h_5 heq =>
        cases heq
        rfl
      case h_6 heq =>
        cases heq
        rfl
      case h_7 hinter hdiff hsymm =>
        have hnone : operation? c u = none := by
          unfold operation?
          split
          · exact (hinter _ rfl).elim
          · exact (hdiff _ rfl).elim
          · exact (hsymm _ rfl).elim
          · rfl
        rw [hnone]
        cases readClassRange fs (c :: u) <;> rfl

theorem leaves_classRound (fs : Flags) (stack : List ClassFrame) (parts : List ClassPart)
    (c : Char) (t : Text) : Leaves t (classRound fs stack parts c t) := by
  unfold classRound
  split_ifs
  · split
    · rename_i hnamed
      exact leaves_map _ _ (readNamedClass?_suffix hnamed)
    · cases hopen : openClass fs.verbose t with
      | error e => exact leaves_error _ _
      | ok r => exact leaves_ok (openClass_suffix hopen)
  · split
    · exact leaves_map _ _ (List.suffix_refl t)
    · exact leaves_error _ _
  · split
    · rename_i hoperation
      exact leaves_ok (operation?_suffix hoperation)
    · cases hrange : readClassRange fs (c :: t) with
      | error e => exact leaves_error _ _
      | ok r => exact leaves_ok (leaves_readClassRange fs c t _ _ hrange)

/-- **A class that is read**, round by round. -/
inductive ReadsClass (fs : Flags) :
    List ClassFrame → List ClassPart → Text → ClassPart → Text → Prop where
  | done {stack : List ClassFrame} {parts : List ClassPart} {t u rest : Text} {c : Char}
      {part : ClassPart} (hskip : skip fs.verbose t = c :: u)
      (hround : classRound fs stack parts c u = .ok (.done part, rest)) :
      ReadsClass fs stack parts t part rest
  | more {stack stack' : List ClassFrame} {parts parts' : List ClassPart} {t u rest rest' : Text}
      {c : Char} {part : ClassPart} (hskip : skip fs.verbose t = c :: u)
      (hround : classRound fs stack parts c u = .ok (.more stack' parts', rest))
      (hmore : ReadsClass fs stack' parts' rest part rest') :
      ReadsClass fs stack parts t part rest'

theorem ReadsClass.suffix {fs : Flags} {stack : List ClassFrame} {parts : List ClassPart}
    {t rest : Text} {part : ClassPart} (h : ReadsClass fs stack parts t part rest) :
    rest <:+ t := by
  induction h with
  | done hskip hround => exact (leaves_classRound _ _ _ _ _ _ _ hround).trans (suffix_of_skip hskip)
  | more hskip hround _ ih =>
      exact ih.trans ((leaves_classRound _ _ _ _ _ _ _ hround).trans (suffix_of_skip hskip))

/-- With fuel above the length of the text, a class is read that rounds lead to, and no other
one. -/
theorem readClassFrom_eq_ok_iff {fs : Flags} {fuel : Nat} {stack : List ClassFrame}
    {parts : List ClassPart} {t rest : Text} {part : ClassPart} (hfuel : t.length < fuel) :
    readClassFrom fs fuel stack parts t = .ok (part, rest) ↔
      ReadsClass fs stack parts t part rest := by
  induction fuel generalizing stack parts t with
  | zero => omega
  | succ fuel ih =>
      cases hskip : skip fs.verbose t with
      | nil =>
          simp only [readClassFrom, hskip]
          constructor
          · intro h
            cases h
          · intro h
            cases h with
            | done hskip' _ => simp [hskip] at hskip'
            | more hskip' _ _ => simp [hskip] at hskip'
      | cons c u =>
          have hlength := (hskip ▸ skip_suffix fs.verbose t).length_le
          rw [readClassFrom_of_skip hskip]
          constructor
          · intro h
            obtain ⟨⟨progress, rest'⟩, hround, h⟩ := bind_eq_ok.mp h
            cases progress with
            | done part' =>
                cases h
                exact .done hskip hround
            | more stack' parts' =>
                have hrest := (leaves_classRound _ _ _ _ _ _ _ hround).length_le
                refine .more hskip hround ((ih ?_).mp h)
                simp only [List.length_cons] at hlength
                omega
          · intro h
            cases h with
            | done hskip' hround =>
                cases hskip.symm.trans hskip'
                exact bind_eq_ok.mpr ⟨_, hround, rfl⟩
            | more hskip' hround hmore =>
                cases hskip.symm.trans hskip'
                have hrest := (leaves_classRound _ _ _ _ _ _ _ hround).length_le
                refine bind_eq_ok.mpr ⟨_, hround, (ih ?_).mpr hmore⟩
                simp only [List.length_cons] at hlength
                omega

theorem readClass_eq_ok_iff {fs : Flags} {t rest : Text} {part : ClassPart} :
    readClass fs t = .ok (part, rest) ↔
      ∃ negated parts t', openClass fs.verbose t = .ok (negated, parts, t') ∧
        ReadsClass fs [.opened [] negated] parts t' part rest := by
  constructor
  · intro h
    obtain ⟨⟨negated, parts, t'⟩, hopen, h⟩ := bind_eq_ok.mp h
    have hlength := (openClass_suffix hopen).length_le
    exact ⟨negated, parts, t', hopen, (readClassFrom_eq_ok_iff (by omega)).mp h⟩
  · rintro ⟨negated, parts, t', hopen, h⟩
    have hlength := (openClass_suffix hopen).length_le
    exact bind_eq_ok.mpr ⟨_, hopen, (readClassFrom_eq_ok_iff (by omega)).mpr h⟩

theorem leaves_readClass (fs : Flags) (t : Text) : Leaves t (readClass fs t) := by
  intro part rest h
  obtain ⟨negated, parts, t', hopen, h⟩ := readClass_eq_ok_iff.mp h
  exact h.suffix.trans (openClass_suffix hopen)

end UriRouting.Regex
