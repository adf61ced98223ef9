import UriRouting.Proofs.Regex.Reading

/-!
# UriRouting.Proofs.Regex.Groups

The groups of an expression, in its text and in what is read from it:

* `Balanced` — every group that a text opens is closed in it. `Neutral` says the same of a part
  of a text, with one lemma for each way to put such parts together;
* `groupNames_rowOfParts` — the groups of parts in a row are those of the parts, in order;
* `depth_rowOfParts_le` — parts in a row are nested one deeper than each of them.
-/

namespace UriRouting.Regex

/-! ### Groups in a text -/

/-- How many groups are open after a text, if `n` are open before it. There is no answer if a
group is closed that is not open, or if the text ends within a class or after a backslash. -/
def openGroups? : (inClass : Bool) → (n : Nat) → Text → Option Nat
  | inClass, n, [] => if inClass then none else some n
  | _, _, ['\\'] => none
  | inClass, n, '\\' :: _ :: t => openGroups? inClass n t
  | true, n, c :: t => openGroups? (c != ']') n t
  | false, n, '[' :: t => openGroups? true n t
  | false, n, '(' :: t => openGroups? false (n + 1) t
  | false, 0, ')' :: _ => none
  | false, n + 1, ')' :: t => openGroups? false n t
  | false, n, _ :: t => openGroups? false n t

/-- A text closes all groups that it opens, and no others. -/
def Balanced (t : Text) : Prop :=
  openGroups? false 0 t = some 0

/-- Whether a text is balanced. -/
instance (t : Text) : Decidable (Balanced t) :=
  inferInstanceAs (Decidable (_ = _))

/-- The brackets in a class, and those after a backslash, are not those of groups. -/
example : Balanced "(a(?:[)]\\()*)".toList := by
  decide

/-- After the text there are as many groups open as before it, wherever it stands. -/
def Neutral (inClass : Bool) (s : Text) : Prop :=
  ∀ n rest, openGroups? inClass n (s ++ rest) = openGroups? inClass n rest

/-- The characters that the groups depend on. -/
def isDelimiter (c : Char) : Bool :=
  ['\\', '(', ')', '[', ']'].elem c

theorem isDelimiter_of_not_isMeta {c : Char} (hc : isMeta c = false) : isDelimiter c = false := by
  simp only [isMeta, isDelimiter, List.elem_eq_mem, decide_eq_false_iff_not, List.mem_cons,
    List.not_mem_nil, or_false, not_or] at hc ⊢
  simp only [hc, not_false_eq_true, and_self]

theorem isDelimiter_of_word {c : Char} (hc : isAsciiWordCharacter c = true) :
    isDelimiter c = false := by
  rw [← Bool.not_eq_true]
  intro hdelimiter
  simp only [isDelimiter, List.elem_eq_mem, decide_eq_true_eq, List.mem_cons, List.not_mem_nil,
    or_false] at hdelimiter
  rcases hdelimiter with rfl | rfl | rfl | rfl | rfl <;> exact absurd hc (by decide)

namespace Neutral

variable {inClass : Bool}

theorem nil (inClass : Bool) : Neutral inClass [] :=
  fun _ _ => rfl

theorem append {s s' : Text} (h : Neutral inClass s) (h' : Neutral inClass s') :
    Neutral inClass (s ++ s') := by
  intro n rest
  rw [List.append_assoc, h, h']

theorem singleton (inClass : Bool) {c : Char} (hc : isDelimiter c = false) :
    Neutral inClass [c] := by
  intro n rest
  rw [List.singleton_append]
  simp only [isDelimiter, List.elem_eq_mem, decide_eq_false_iff_not, List.mem_cons,
    List.not_mem_nil, or_false, not_or] at hc
  obtain ⟨hescape, hopen, hclose, hclass, hend⟩ := hc
  cases inClass with
  | true =>
      have hstay : (c != ']') = true := by simpa using hend
      simp [openGroups?, hescape, hstay]
  | false => simp [openGroups?, hescape, hclose]

/-- Escaped characters neither open nor close anything. -/
theorem escape (inClass : Bool) (t : Text) : Neutral inClass (Regex.escape t) := by
  induction t with
  | nil => exact nil inClass
  | cons c t ih =>
      rw [escape_cons, escape_singleton]
      refine append ?_ ih
      split
      · exact fun n rest => by simp [openGroups?]
      · rename_i hc
        exact singleton inClass (isDelimiter_of_not_isMeta (Bool.eq_false_iff.mpr hc))

/-- Characters on which the groups do not depend. -/
theorem of_all (inClass : Bool) {t : Text} (ht : t.all (!isDelimiter ·) = true) :
    Neutral inClass t := by
  induction t with
  | nil => exact nil inClass
  | cons c t ih =>
      rw [List.all_cons, Bool.and_eq_true, Bool.not_eq_true'] at ht
      exact append (singleton inClass ht.1) (ih ht.2)

/-- A group is closed by the bracket after what is in it. -/
theorem group {s : Text} (h : Neutral false s) : Neutral false ('(' :: s ++ [')']) := by
  intro n rest
  calc openGroups? false n ('(' :: s ++ [')'] ++ rest)
      = openGroups? false (n + 1) (s ++ ')' :: rest) := by simp [openGroups?]
    _ = openGroups? false (n + 1) (')' :: rest) := h (n + 1) _
    _ = openGroups? false n rest := by simp [openGroups?]

/-- A class is closed by the bracket after what is in it. -/
theorem inBrackets {s : Text} (h : Neutral true s) : Neutral false ('[' :: s ++ [']']) := by
  intro n rest
  calc openGroups? false n ('[' :: s ++ [']'] ++ rest)
      = openGroups? true n (s ++ ']' :: rest) := by simp [openGroups?]
    _ = openGroups? true n (']' :: rest) := h n _
    _ = openGroups? false n rest := by simp [openGroups?]

/-- A text that leaves the groups as they are wherever it stands is balanced. -/
theorem balanced {s : Text} (h : Neutral false s) : Balanced s := by
  have hempty := h 0 []
  rwa [List.append_nil] at hempty

end Neutral

/-! ### Names of groups -/

theorem groupNames_append (r r' : Regex) :
    (append r r').groupNames = r.groupNames ++ r'.groupNames := by
  unfold append
  split <;> simp [groupNames]

theorem groupNames_concat (rs : List Regex) :
    (concat rs).groupNames = rs.flatMap groupNames := by
  induction rs with
  | nil => rfl
  | cons r rs ih =>
      rw [List.flatMap_cons, ← ih]
      exact groupNames_append r (concat rs)

/-- The names of the groups in some parts, from left to right. -/
def groupNamesOf (ps : List Part) : List Text :=
  ps.flatMap (·.regex.groupNames)

@[simp] theorem groupNamesOf_singleton (p : Part) : groupNamesOf [p] = p.regex.groupNames :=
  List.flatMap_singleton ..

@[simp] theorem groupNamesOf_append (ps ps' : List Part) :
    groupNamesOf (ps ++ ps') = groupNamesOf ps ++ groupNamesOf ps' :=
  List.flatMap_append

/-- **Parts in a row have the groups of the parts**, in the order of the row. -/
@[simp] theorem groupNames_rowOfParts (ps : List Part) :
    (rowOfParts ps).regex.groupNames = groupNamesOf ps := by
  rcases regex_rowOfParts ps with ⟨p, rfl, h⟩ | h
  · rw [h, groupNamesOf_singleton]
  · rw [h, groupNames_concat, List.flatMap_map]
    rfl

@[simp] theorem groupNames_enclosed (name : Option Text) (p : Part) :
    (p.enclosed name).regex.groupNames = name.toList ++ p.regex.groupNames := by
  cases name <;> rfl

@[simp] theorem groupNames_maybe (p : Part) : p.maybe.regex.groupNames = p.regex.groupNames := by
  rw [Part.maybe, repeated, if_neg (by decide)]
  split <;> rfl

@[simp] theorem groupNames_ofChar (ignoreCase : Bool) (c : Char) :
    (Part.ofChar ignoreCase c).regex.groupNames = [] := rfl

@[simp] theorem groupNamesOf_chars (ignoreCase : Bool) (t : Text) :
    groupNamesOf (t.map (.ofChar ignoreCase)) = [] := by
  rw [groupNamesOf, List.flatMap_map, List.flatMap_eq_nil_iff]
  exact fun c _ => groupNames_ofChar ignoreCase c

/-! ### Depth -/

theorem maxDepth_le {ps : List Part} {n : Nat} (h : ∀ p ∈ ps, p.depth ≤ n) :
    maxDepth ps ≤ n := by
  have hfold : ∀ depth, depth ≤ n → ps.foldl (fun depth p => max depth p.depth) depth ≤ n := by
    induction ps with
    | nil => exact fun depth hdepth => hdepth
    | cons p ps ih =>
        intro depth hdepth
        obtain ⟨hp, hps⟩ := List.forall_mem_cons.mp h
        exact ih hps _ (Nat.max_le.mpr ⟨hdepth, hp⟩)
  exact hfold 0 (Nat.zero_le n)

/-- **Parts in a row are nested one deeper** than the deepest of them. -/
theorem depth_rowOfParts_le {ps : List Part} {n : Nat} (h : ∀ p ∈ ps, p.depth ≤ n) :
    (rowOfParts ps).depth ≤ n + 1 := by
  unfold rowOfParts Level.branch
  split
  · exact Nat.zero_le _
  · rename_i p hp
    refine Nat.le_succ_of_le (h p ?_)
    rw [List.reverse_eq_iff.mp hp]
    exact List.mem_singleton_self p
  · exact Nat.succ_le_succ (maxDepth_le fun p hp => h p (List.mem_reverse.mp hp))

end UriRouting.Regex
