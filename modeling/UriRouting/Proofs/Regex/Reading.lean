import Mathlib.Data.List.TakeDrop
import UriRouting.Regex.Build

/-!
# UriRouting.Proofs.Regex.Reading

How the reader gets through an expression that is written piece by piece. `Writes s ps ns`
says that the text `s` stands for the parts `ps` and declares the groups `ns`, wherever it
is read; there is one lemma for each way to write a piece:

* `Writes.escape` — characters that stand for themselves;
* `Writes.named` — a named group around a text;
* `Writes.optional` — a text that may be left out as a whole;
* `Writes.append` — one text after the other.

The only look ahead of the reader on such texts is for the mark that makes a repetition
prefer an end, so a text may be followed by everything that starts with no question mark.
-/

namespace UriRouting

/-! ### Outcomes -/

variable {ε ε' α β : Type}

/-- What is done in a row has an outcome if both steps have one. -/
theorem bind_eq_ok {x : Except ε α} {f : α → Except ε β} {b : β} :
    (x >>= f) = .ok b ↔ ∃ a, x = .ok a ∧ f a = .ok b := by
  cases x <;> simp [bind, Except.bind]

theorem map_eq_ok {f : α → β} {x : Except ε α} {b : β} :
    x.map f = .ok b ↔ ∃ a, x = .ok a ∧ f a = b := by
  cases x <;> simp [Except.map]

theorem mapError_eq_ok {f : ε → ε'} {x : Except ε α} {a : α} :
    x.mapError f = .ok a ↔ x = .ok a := by
  cases x <;> simp [Except.mapError]

end UriRouting

namespace UriRouting.Regex

/-- The settings that expressions are built under. -/
def Flags.initial (ignoreCase : Bool) : Flags :=
  { ignoreCase := ignoreCase, dotNewline := true }

theorem Flags.skip_initial (ignoreCase : Bool) (t : Text) :
    skip (Flags.initial ignoreCase).verbose t = t := rfl

/-- The characters that open or close something, or repeat what is before them. -/
def isOperator (c : Char) : Bool :=
  ['(', ')', '|', '[', '?', '*', '+', '{'].elem c

namespace State

/-- The state after some parts have been read, with the names of the groups in them. -/
def add (st : State) (ps : List Part) (ns : List Text) : State :=
  { st with
    level := { st.level with parts := ps.reverse ++ st.level.parts }
    names := ns.reverse ++ st.names }

@[simp] theorem add_flags (st : State) (ps : List Part) (ns : List Text) :
    (st.add ps ns).flags = st.flags := rfl

@[simp] theorem add_names (st : State) (ps : List Part) (ns : List Text) :
    (st.add ps ns).names = ns.reverse ++ st.names := rfl

theorem add_add (st : State) (ps ps' : List Part) (ns ns' : List Text) :
    (st.add ps ns).add ps' ns' = st.add (ps ++ ps') (ns ++ ns') := by
  simp [add]

theorem push_eq_add (st : State) (p : Part) : st.push p = st.add [p] [] := rfl

end State

/-- Parts in a row as one part. -/
def rowOfParts (ps : List Part) : Part :=
  Level.branch { parts := ps.reverse }

/-- A single part is kept as it is, and all others are put in a row. -/
theorem regex_rowOfParts (ps : List Part) :
    (∃ p, ps = [p] ∧ (rowOfParts ps).regex = p.regex) ∨
      (rowOfParts ps).regex = concat (ps.map (·.regex)) := by
  unfold rowOfParts Level.branch
  split
  · rename_i h
    rw [List.reverse_eq_nil_iff.mp h]
    exact .inr rfl
  · rename_i p h
    exact .inl ⟨p, List.reverse_eq_iff.mp h, rfl⟩
  · rw [List.reverse_reverse]
    exact .inr rfl

/-- A part in a group, with or without a name. -/
def Part.enclosed (name : Option Text) (p : Part) : Part :=
  { regex := match name with
      | some name => group name p.regex
      | none => p.regex
    depth := p.depth + 1 }

/-- A part that may be left out. -/
def Part.maybe (p : Part) : Part :=
  { regex := repeated p.regex 0 (some 1) true, depth := p.depth + 1 }

/-- The part for a character that stands for itself. -/
def Part.ofChar (ignoreCase : Bool) (c : Char) : Part :=
  { regex := char (literalSet (.initial ignoreCase) c), depth := 0 }

/-! ### Passing a text -/

/-- The reader passes the text `s` and gets from one state to another, whatever follows.
Fuel above the length of what is left is always left over. -/
def Passes (s : Text) (st st' : State) : Prop :=
  ∀ (fuel : Nat) (rest : Text), (s ++ rest).length < fuel → rest.head? ≠ some '?' →
    ∃ fuel', rest.length < fuel' ∧ readFrom fuel st (s ++ rest) = readFrom fuel' st' rest

theorem Passes.refl (st : State) : Passes [] st st :=
  fun fuel _ hfuel _ => ⟨fuel, hfuel, rfl⟩

theorem Passes.trans {s s' : Text} {st st' st'' : State} (h : Passes s st st')
    (h' : Passes s' st' st'') (hs' : s'.head? ≠ some '?') : Passes (s ++ s') st st'' := by
  intro fuel rest hfuel hrest
  rw [List.append_assoc] at hfuel ⊢
  have hnext : (s' ++ rest).head? ≠ some '?' := by
    cases s' with
    | nil => exact hrest
    | cons c s' => exact hs'
  obtain ⟨fuel', hfuel', e⟩ := h fuel (s' ++ rest) hfuel hnext
  obtain ⟨fuel'', hfuel'', e'⟩ := h' fuel' rest hfuel' hrest
  exact ⟨fuel'', hfuel'', e.trans e'⟩

/-- Some rounds of the reader, no more than there are characters, that take the text `s`. -/
theorem Passes.of_rounds {s : Text} {st st' : State} (n : Nat) (hn : n ≤ s.length)
    (h : ∀ (fuel : Nat) (rest : Text), rest.head? ≠ some '?' →
      readFrom (fuel + n) st (s ++ rest) = readFrom fuel st' rest) : Passes s st st' := by
  intro fuel rest hfuel hrest
  rw [List.length_append] at hfuel
  obtain ⟨fuel, rfl⟩ : ∃ m, fuel = m + n := ⟨fuel - n, by omega⟩
  exact ⟨fuel, by omega, h fuel rest hrest⟩

/-! ### Smallest parts -/

variable {ignoreCase : Bool} {st : State}

theorem readFrom_primitive {c : Char} {t t' : Text} {p : Primitive} {r : Regex}
    (hst : st.flags = .initial ignoreCase) (hc : isOperator c = false)
    (hp : readPrimitive st.flags c t = .ok (p, t')) (hr : p.regex st.flags = .ok r)
    (fuel : Nat) :
    readFrom (fuel + 1) st (c :: t) = readFrom fuel (st.push { regex := r, depth := 0 }) t' := by
  rw [readFrom, hst, Flags.skip_initial, ← hst]
  split
  case h_1 heq => cases heq
  case h_10 heq =>
    cases heq
    simp [hp, hr, bind, Except.bind]
  all_goals
    rename_i heq
    cases heq
    exact absurd hc (by decide)

theorem readEscape_meta (fs : Flags) {c : Char} (hc : isMeta c = true) (t : Text) :
    readEscape fs (c :: t) = .ok (.literal c false, t) := by
  have hmem : c ∈ ['\\', '.', '+', '*', '?', '(', ')', '|', '[', ']', '{', '}', '^', '$',
      '#', '&', '-', '~'] := by
    simpa [isMeta] using hc
  simp only [List.mem_cons, List.not_mem_nil, or_false] at hmem
  rcases hmem with h | h | h | h | h | h | h | h | h | h | h | h | h | h | h | h | h | h <;>
  · subst h
    rfl

theorem ne_of_not_isMeta {c d : Char} (hc : isMeta c = false) (hd : isMeta d = true) :
    c ≠ d := by
  rintro rfl
  rw [hc] at hd
  exact absurd hd (by decide)

theorem readPrimitive_of_not_isMeta (fs : Flags) {c : Char} (hc : isMeta c = false) (t : Text) :
    readPrimitive fs c t = .ok (.literal c false, t) := by
  have h1 := ne_of_not_isMeta hc (d := '\\') (by decide)
  have h2 := ne_of_not_isMeta hc (d := '.') (by decide)
  have h3 := ne_of_not_isMeta hc (d := '^') (by decide)
  have h4 := ne_of_not_isMeta hc (d := '$') (by decide)
  unfold readPrimitive
  split <;> first | rfl | contradiction

theorem isOperator_of_not_isMeta {c : Char} (hc : isMeta c = false) : isOperator c = false := by
  simp only [isMeta, isOperator, List.elem_eq_mem, decide_eq_false_iff_not, List.mem_cons,
    List.not_mem_nil, or_false, not_or] at hc ⊢
  simp only [hc, not_false_eq_true, and_self]

theorem escape_singleton (c : Char) : escape [c] = if isMeta c then ['\\', c] else [c] :=
  List.flatMap_singleton ..

/-- **An escaped character is read as itself.** -/
theorem passes_escape_singleton (hst : st.flags = .initial ignoreCase) (c : Char) :
    Passes (escape [c]) st (st.add [.ofChar ignoreCase c] []) := by
  have hr : (Primitive.literal c false).regex st.flags =
      .ok (char (literalSet (.initial ignoreCase) c)) := by
    rw [hst]
    rfl
  rw [escape_singleton]
  split
  · rename_i hc
    refine Passes.of_rounds 1 (by simp) fun fuel rest _ => ?_
    exact readFrom_primitive (c := '\\') hst (by decide) (readEscape_meta _ hc rest) hr fuel
  · rename_i hc
    rw [Bool.not_eq_true] at hc
    refine Passes.of_rounds 1 (by simp) fun fuel rest _ => ?_
    exact readFrom_primitive hst (isOperator_of_not_isMeta hc)
      (readPrimitive_of_not_isMeta _ hc rest) hr fuel

/-- No escaped text starts with a question mark. -/
theorem head?_escape_ne (t : Text) : (escape t).head? ≠ some '?' := by
  cases t with
  | nil => simp [escape]
  | cons c t =>
      cases hc : isMeta c with
      | true => simp [escape, hc]
      | false => simpa [escape, hc] using ne_of_not_isMeta hc (by decide)

theorem escape_cons (c : Char) (t : Text) : escape (c :: t) = escape [c] ++ escape t := by
  simp [escape]

/-! ### Groups and repetitions -/

theorem readFrom_open (hst : st.flags = .initial ignoreCase) (fuel : Nat) (t : Text) :
    readFrom (fuel + 1) st ('(' :: t) =
      (readGroupStart st t).bind fun r => readFrom fuel r.1 r.2 := by
  rw [readFrom, hst, Flags.skip_initial]
  rfl

theorem readFrom_close (hst : st.flags = .initial ignoreCase) (fuel : Nat) (t : Text) :
    readFrom (fuel + 1) st (')' :: t) = st.leave.bind fun st' => readFrom fuel st' t := by
  rw [readFrom, hst, Flags.skip_initial]
  rfl

theorem readFrom_class (hst : st.flags = .initial ignoreCase) (fuel : Nat) (t : Text) :
    readFrom (fuel + 1) st ('[' :: t) = (readClass st.flags t).bind fun r =>
      readFrom fuel (st.push { regex := char r.1.set, depth := r.1.depth }) r.2 := by
  rw [readFrom, hst, Flags.skip_initial]
  rfl

/-- What the marks of repetitions ask for. -/
def repetition? : Char → Option (Nat × Option Nat)
  | '?' => some (0, some 1)
  | '*' => some (0, none)
  | '+' => some (1, none)
  | _ => none

theorem readGreed_of_head?_ne {t : Text} (h : t.head? ≠ some '?') : readGreed t = (true, t) := by
  unfold readGreed
  split
  · exact absurd rfl h
  · rfl

/-- A mark of repetition puts the part before it under a repetition. -/
theorem readFrom_repetition {mark : Char} {least : Nat} {most : Option Nat}
    (hst : st.flags = .initial ignoreCase) (hmark : repetition? mark = some (least, most))
    (fuel : Nat) {t : Text} (ht : t.head? ≠ some '?') :
    readFrom (fuel + 1) st (mark :: t) =
      (st.repeatLast least most true).bind fun st' => readFrom fuel st' t := by
  unfold repetition? at hmark
  split at hmark
  case h_4 => cases hmark
  all_goals
    cases hmark
    rw [readFrom, hst, Flags.skip_initial]
    simp only [readGreed_of_head?_ne ht]
    rfl

theorem repeatLast_add (hst : st.flags = .initial ignoreCase) (p : Part)
    (hp : p.repeatable = true) (ns : List Text) {least : Nat} {most : Option Nat}
    (hmost : most.any (· < least) = false) :
    (st.add [p] ns).repeatLast least most true = .ok (st.add
      [{ regex := repeated p.regex least most true, depth := p.depth + 1 }] ns) := by
  simp [State.repeatLast, State.add, hp, hmost, hst, Flags.initial]

/-- Leaving a group puts what has been read in it as one part into the level around it. -/
theorem leave_add_enter (st : State) (name : Option Text) (ps : List Part) (ns : List Text) :
    ((st.enter name st.flags).add ps ns).leave =
      .ok (st.add [(rowOfParts ps).enclosed name] (name.toList ++ ns)) := by
  cases name <;>
    simp [State.leave, State.enter, State.add, Level.close, Level.push, rowOfParts,
      Part.enclosed]

/-- A name that a group may have. -/
def IsGroupName : Text → Prop
  | [] => False
  | c :: name => isNameCharacter true c = true ∧ (c :: name).all isAsciiWordCharacter = true

theorem isNameCharacter_of_word {c : Char} (h : isAsciiWordCharacter c = true) :
    isNameCharacter false c = true := by
  simp [isNameCharacter, h]

/-- The name of a group ends where its characters end. -/
theorem readGroupName_append {taken : List Text} {name : Text} (hname : IsGroupName name)
    (htaken : name ∉ taken) (rest : Text) :
    readGroupName taken (name ++ '>' :: rest) = .ok (name, rest) := by
  cases name with
  | nil => exact hname.elim
  | cons c name =>
      obtain ⟨hfirst, hall⟩ := hname
      rw [List.all_eq_true] at hall
      have hne : ∀ d ∈ c :: name, (d != '>') = true := by
        intro d hd
        rw [bne_iff_ne]
        rintro rfl
        exact absurd (hall '>' hd) (by decide)
      -- no character of a name is the bracket, so the first bracket ends the name
      have hspan : (c :: name ++ '>' :: rest).span (· != '>') = (c :: name, '>' :: rest) := by
        rw [List.span_eq_takeWhile_dropWhile, List.takeWhile_append_of_pos hne,
          List.dropWhile_append_of_pos hne]
        simp
      have hrest : name.all (isNameCharacter false) = true := by
        rw [List.all_eq_true]
        exact fun d hd => isNameCharacter_of_word (hall d (List.mem_cons_of_mem c hd))
      rw [readGroupName, hspan]
      simp [hfirst, hrest, htaken]

theorem passes_open_named {name : Text} (hst : st.flags = .initial ignoreCase)
    (hname : IsGroupName name) (htaken : name ∉ st.names) :
    Passes (['(', '?', 'P', '<'] ++ name ++ ['>']) st (st.enter (some name) st.flags) := by
  refine Passes.of_rounds 1 (by simp) fun fuel rest _ => ?_
  rw [List.append_assoc, List.append_assoc, List.cons_append, readFrom_open hst]
  have hstart : readGroupStart st ('?' :: 'P' :: '<' :: (name ++ '>' :: rest)) =
      .ok (st.enter (some name) st.flags, rest) := by
    have hlook : isLookAround ('?' :: 'P' :: '<' :: (name ++ '>' :: rest)) = false := rfl
    simp only [readGroupStart, hst, Flags.skip_initial, hlook, Bool.false_eq_true, if_false,
      readGroupName_append hname htaken, bind, Except.bind, pure, Except.pure]
  exact congrArg (fun r => Except.bind r fun r => readFrom fuel r.1 r.2) hstart

theorem passes_open_plain (hst : st.flags = .initial ignoreCase) :
    Passes ['(', '?', ':'] st (st.enter none st.flags) := by
  refine Passes.of_rounds 1 (by simp) fun fuel rest _ => ?_
  rw [List.cons_append, readFrom_open hst, readGroupStart, hst, Flags.skip_initial]
  rfl

theorem passes_close (hst : st.flags = .initial ignoreCase) (name : Option Text)
    (ps : List Part) (ns : List Text) :
    Passes [')'] ((st.enter name st.flags).add ps ns)
      (st.add [(rowOfParts ps).enclosed name] (name.toList ++ ns)) := by
  refine Passes.of_rounds 1 (by simp) fun fuel rest _ => ?_
  refine (readFrom_close (by exact hst) fuel rest).trans ?_
  rw [leave_add_enter]
  rfl

/-- A group may be put under a repetition as soon as it is closed. -/
theorem passes_close_maybe (hst : st.flags = .initial ignoreCase) (name : Option Text)
    (ps : List Part) (ns : List Text) :
    Passes [')', '?'] ((st.enter name st.flags).add ps ns)
      (st.add [((rowOfParts ps).enclosed name).maybe] (name.toList ++ ns)) := by
  refine Passes.of_rounds 2 (by simp) fun fuel rest hrest => ?_
  refine (readFrom_close (by exact hst) (fuel + 1) ('?' :: rest)).trans ?_
  rw [leave_add_enter]
  refine (readFrom_repetition (by exact hst) rfl fuel hrest).trans ?_
  rw [repeatLast_add hst _ rfl _ (by decide)]
  rfl

/-! ### Texts that stand for parts -/

/-- The text `s` stands for the parts `ps` and declares the groups `ns`, wherever it is
read and whatever follows, as long as the names are new. -/
def Writes (ignoreCase : Bool) (s : Text) (ps : List Part) (ns : List Text) : Prop :=
  ∀ st : State, st.flags = .initial ignoreCase → (∀ n ∈ ns, n ∉ st.names) →
    Passes s st (st.add ps ns)

namespace Writes

theorem nil (ignoreCase : Bool) : Writes ignoreCase [] [] [] :=
  fun st _ _ => Passes.refl st

theorem append {s s' : Text} {ps ps' : List Part} {ns ns' : List Text}
    (h : Writes ignoreCase s ps ns) (h' : Writes ignoreCase s' ps' ns')
    (hs' : s'.head? ≠ some '?') (hns : (ns ++ ns').Nodup) :
    Writes ignoreCase (s ++ s') (ps ++ ps') (ns ++ ns') := by
  intro st hst hnames
  -- the second text is read where the names of the first one are taken
  have hnew : ∀ n ∈ ns', n ∉ (st.add ps ns).names := by
    intro n hn hmem
    rw [State.add_names, List.mem_append, List.mem_reverse] at hmem
    rcases hmem with hmem | hmem
    · exact (List.nodup_append.mp hns).2.2 n hmem n hn rfl
    · exact hnames n (List.mem_append_right ns hn) hmem
  rw [← State.add_add]
  exact (h st hst fun n hn => hnames n (List.mem_append_left ns' hn)).trans
    (h' (st.add ps ns) hst hnew) hs'

theorem escape (ignoreCase : Bool) (t : Text) :
    Writes ignoreCase (Regex.escape t) (t.map (.ofChar ignoreCase)) [] := by
  induction t with
  | nil => exact nil ignoreCase
  | cons c t ih =>
      have hc : Writes ignoreCase (Regex.escape [c]) [.ofChar ignoreCase c] [] :=
        fun _ hst _ => passes_escape_singleton hst c
      rw [escape_cons]
      exact hc.append ih (head?_escape_ne t) List.nodup_nil

theorem opened {name : Text} (hst : st.flags = .initial ignoreCase) (hname : IsGroupName name)
    {s : Text} {ps : List Part} {ns : List Text} (h : Writes ignoreCase s ps ns)
    (hs : s.head? ≠ some '?') (hns : name ∉ ns) (hnames : ∀ n ∈ name :: ns, n ∉ st.names) :
    Passes (['(', '?', 'P', '<'] ++ name ++ ['>'] ++ s) st
      ((st.enter (some name) st.flags).add ps ns) := by
  refine (passes_open_named hst hname (hnames name (List.mem_cons_self ..))).trans
    (h _ hst ?_) hs
  intro n hn hmem
  rcases List.mem_cons.mp hmem with rfl | hmem
  · exact hns hn
  · exact hnames n (List.mem_cons_of_mem name hn) hmem

/-- A text in a named group. -/
theorem named {s name : Text} {ps : List Part} {ns : List Text}
    (h : Writes ignoreCase s ps ns) (hs : s.head? ≠ some '?') (hname : IsGroupName name)
    (hns : name ∉ ns) :
    Writes ignoreCase (['(', '?', 'P', '<'] ++ name ++ ['>'] ++ s ++ [')'])
      [(rowOfParts ps).enclosed (some name)] (name :: ns) :=
  fun _ hst hnames =>
    (opened hst hname h hs hns hnames).trans (passes_close hst (some name) ps ns) (by simp)

/-- A text in a named group that may be left out. -/
theorem named_maybe {s name : Text} {ps : List Part} {ns : List Text}
    (h : Writes ignoreCase s ps ns) (hs : s.head? ≠ some '?') (hname : IsGroupName name)
    (hns : name ∉ ns) :
    Writes ignoreCase (['(', '?', 'P', '<'] ++ name ++ ['>'] ++ s ++ [')', '?'])
      [((rowOfParts ps).enclosed (some name)).maybe] (name :: ns) :=
  fun _ hst hnames =>
    (opened hst hname h hs hns hnames).trans (passes_close_maybe hst (some name) ps ns)
      (by simp)

/-- A text that may be left out as a whole. -/
theorem optional {s : Text} {ps : List Part} {ns : List Text} (h : Writes ignoreCase s ps ns)
    (hs : s.head? ≠ some '?') :
    Writes ignoreCase (['(', '?', ':'] ++ s ++ [')', '?'])
      [((rowOfParts ps).enclosed none).maybe] ns :=
  fun st hst hnames =>
    ((passes_open_plain hst).trans (h (st.enter none st.flags) hst hnames) hs).trans
      (passes_close_maybe hst none ps ns) (by simp)

/-- A class of characters, at least once. -/
theorem class_plus {s : Text} {part : ClassPart}
    (h : ∀ rest, readClass (.initial ignoreCase) (s ++ rest) = .ok (part, rest)) :
    Writes ignoreCase (['['] ++ s ++ ['+'])
      [{ regex := rep (Regex.char part.set) 1 none true, depth := part.depth + 1 }] [] := by
  intro st hst _
  refine Passes.of_rounds 2 (by simp) fun fuel rest hrest => ?_
  rw [List.append_assoc, List.append_assoc, List.singleton_append]
  refine (readFrom_class hst (fuel + 1) _).trans ?_
  rw [hst, h]
  refine (readFrom_repetition (by exact hst) rfl fuel hrest).trans ?_
  rw [State.push_eq_add, repeatLast_add hst _ rfl _ (by decide)]
  rfl

/-- Any characters, any number of them. -/
theorem dot_star (ignoreCase : Bool) :
    Writes ignoreCase ['.', '*'] [{ regex := rep (Regex.char .all) 0 none true, depth := 1 }]
      [] := by
  intro st hst _
  refine Passes.of_rounds 2 (by simp) fun fuel rest hrest => ?_
  refine (readFrom_primitive (p := .dot) hst (by decide) rfl (by rw [hst]; rfl) (fuel + 1)).trans ?_
  refine (readFrom_repetition (by exact hst) rfl fuel hrest).trans ?_
  rw [State.push_eq_add, repeatLast_add hst _ rfl _ (by decide)]
  rfl

end Writes

/-- The parts of an anchored expression. -/
def anchoredParts (ps : List Part) : List Part :=
  [{ regex := assert .textStart, depth := 0 }] ++ ps ++ [{ regex := assert .textEnd, depth := 0 }]

/-- **An anchored text is read as what it stands for.** -/
theorem read_anchored {s : Text} {ps : List Part} {ns : List Text}
    (h : Writes ignoreCase s ps ns) (hs : s.head? ≠ some '?') (hns : ns.Nodup) :
    read (.initial ignoreCase) (['^'] ++ s ++ ['$']) = .ok (rowOfParts (anchoredParts ps)) := by
  have hstart : Writes ignoreCase ['^'] [{ regex := assert .textStart, depth := 0 }] [] := by
    intro st hst _
    refine Passes.of_rounds 1 (by simp) fun fuel rest _ => ?_
    exact readFrom_primitive (p := .assertion .textStart) hst (by decide) (by rw [hst]; rfl)
      rfl fuel
  have hend : Writes ignoreCase ['$'] [{ regex := assert .textEnd, depth := 0 }] [] := by
    intro st hst _
    refine Passes.of_rounds 1 (by simp) fun fuel rest _ => ?_
    exact readFrom_primitive (p := .assertion .textEnd) hst (by decide) (by rw [hst]; rfl)
      rfl fuel
  have hall := (hstart.append h hs (by simpa using hns)).append hend (by simp)
    (by simpa using hns)
  obtain ⟨fuel, hfuel, hread⟩ := hall { flags := .initial ignoreCase } rfl (by simp) _ []
    (Nat.lt_succ_self _) (by simp)
  obtain ⟨fuel, rfl⟩ : ∃ n, fuel = n + 1 := ⟨fuel - 1, by simp at hfuel; omega⟩
  rw [List.append_nil] at hread
  rw [read, hread, readFrom, State.add_flags, Flags.skip_initial]
  simp [State.finish, State.add, Level.close, rowOfParts, anchoredParts]

end UriRouting.Regex
