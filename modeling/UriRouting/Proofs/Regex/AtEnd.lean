import UriRouting.Proofs.Regex.Closing

/-!
# UriRouting.Proofs.Regex.AtEnd

Reading parts of an expression that has the right anchor behind it. What is refused by itself is
refused there as well: there is one lemma for each function of the reader (`OnlyIf`). The exceptions
are at the end of the text (`AtEnd`):

* a backslash there takes the anchor as the character that it stands before;
* a brace behind the escape for an edge of words, which would start the name of an edge, starts the
  bounds of a repetition then (`OpensBounds`);
* a class that is open goes on (`GoesOn`), but is not closed (`ReadsClass.not_atEnd`).

`UriRouting.Proofs.Regex.Closing` has the other direction.
-/

namespace UriRouting.Regex

/-! ### The end of the text -/

/-- Nothing of the text is left, or only the anchor. -/
def AtEnd (t : Text) : Prop :=
  t <:+ ['$']

theorem atEnd_iff {t : Text} : AtEnd t ↔ t = [] ∨ t = ['$'] := by
  rw [AtEnd, List.suffix_cons_iff, List.suffix_nil, or_comm]

theorem atEnd_nil : AtEnd [] := List.nil_suffix

theorem atEnd_dollar : AtEnd ['$'] := List.suffix_refl _

theorem AtEnd.of_suffix {t t' : Text} (h : AtEnd t) (hsuffix : t' <:+ t) : AtEnd t' :=
  List.IsSuffix.trans hsuffix h

/-- A reader has an outcome with the anchor behind the text only if it has one without, or in
exceptional cases. -/
def OnlyIf {α : Type} (exception : α → Prop) (x y : Except ReadError α) : Prop :=
  ∀ a, y = .ok a → (∃ b, x = .ok b) ∨ exception a

theorem onlyIf_ok {α : Type} {exception : α → Prop} (b : α) (y : Except ReadError α) :
    OnlyIf exception (.ok b) y :=
  fun _ _ => .inl ⟨b, rfl⟩

theorem onlyIf_error {α : Type} {exception : α → Prop} (x : Except ReadError α) (e : ReadError) :
    OnlyIf exception x (.error e) := by
  intro a h
  cases h

theorem onlyIf_map_self {α β : Type} {exception : β → Prop} (x : Except ReadError α) (f g : α → β) :
    OnlyIf exception (x.map f) (x.map g) := by
  cases x with
  | error e => exact onlyIf_error _ e
  | ok a => exact onlyIf_ok (f a) _

theorem OnlyIf.map {α β : Type} {exception : α → Prop} {exception' : β → Prop}
    {x y : Except ReadError α} (h : OnlyIf exception x y) (f : α → β)
    (hexception : ∀ a, exception a → exception' (f a)) :
    OnlyIf exception' (x.map f) (y.map f) := by
  intro b hb
  obtain ⟨a, hy, rfl⟩ := map_eq_ok.mp hb
  refine (h a hy).imp ?_ (hexception a)
  rintro ⟨a', ha'⟩
  exact ⟨f a', map_eq_ok.mpr ⟨a', ha', rfl⟩⟩

theorem OnlyIf.ok {α : Type} {x y : Except ReadError α} (h : OnlyIf (fun _ => False) x y) {a : α}
    (ha : y = .ok a) : ∃ b, x = .ok b :=
  (h a ha).resolve_right id

theorem atEnd_skip {verbose : Bool} {t : Text} (h : skip verbose t = []) :
    AtEnd (skip verbose (t ++ ['$'])) := by
  rcases skip_append dollar_mem_endings verbose t with hskip | ⟨-, hskip⟩
  · rw [hskip, h]
    exact atEnd_dollar
  · rw [hskip]
    exact atEnd_nil

/-- Characters that reach up to the end of the text reach up to the anchor, if not further. -/
theorem atEnd_spanLoose {verbose inComment : Bool} {p : Char → Bool} {t : Text}
    (h : (spanLoose verbose p inComment t).2 = []) :
    AtEnd (spanLoose verbose p inComment (t ++ ['$'])).2 := by
  induction t generalizing inComment with
  | nil => exact spanLoose_suffix verbose inComment p ['$']
  | cons c t ih =>
      rw [spanLoose] at h
      rw [List.cons_append, spanLoose]
      split_ifs at h ⊢
      · exact ih h
      · exact ih h
      · exact ih h
      · exact ih h

theorem atEnd_dropWhile {p : Char → Bool} {t : Text} (h : t.dropWhile p = []) :
    AtEnd ((t ++ ['$']).dropWhile p) := by
  have hsuffix : (['$'] : Text).dropWhile p <:+ ['$'] := List.dropWhile_suffix p
  rw [List.dropWhile_append, h]
  exact hsuffix

theorem atEnd_readDecimal {verbose : Bool} {t : Text} (h : (readDecimal verbose t).2 = []) :
    AtEnd (readDecimal verbose (t ++ ['$'])).2 := by
  cases hdrop : t.dropWhile Unicode.isWhiteSpace with
  | nil =>
      exact ((atEnd_dropWhile hdrop).of_suffix (spanLoose_suffix ..)).of_suffix
        (List.dropWhile_suffix _)
  | cons c u =>
      have hne : t.dropWhile Unicode.isWhiteSpace ≠ [] := by simp [hdrop]
      rw [readDecimal] at h ⊢
      rw [dropWhile_append ['$'] hne]
      cases hspan : (spanLoose verbose Char.isDigit false (t.dropWhile Unicode.isWhiteSpace)).2 with
      | nil => exact (atEnd_spanLoose hspan).of_suffix (List.dropWhile_suffix _)
      | cons d v =>
          rw [spanLoose_append ['$'] (by simp [hspan])]
          exact atEnd_dropWhile h

/-! ### Smallest parts -/

/-- The anchor is no digit. -/
theorem number?_eq_none {t : Text} (h : '$' ∈ t) : number? 16 hexDigit? t = none := by
  have hfold (n : Nat) : t.foldlM (fun n c => (hexDigit? c).map (16 * n + ·)) n = none := by
    induction t generalizing n with
    | nil => cases h
    | cons c t ih =>
        rw [List.foldlM_cons]
        rcases List.mem_cons.mp h with rfl | h
        · rfl
        · cases hexDigit? c with
          | none => rfl
          | some d => exact ih h _
  exact hfold 0

theorem charOfHex?_eq_none {t : Text} (h : '$' ∈ t) : charOfHex? t = none := by
  rw [charOfHex?, number?_eq_none h]
  split <;> rfl

/-- Characters that are not all there are not there with the anchor in their place. -/
theorem mem_of_takeLoose {verbose : Bool} {n : Nat} {t taken rest : Text}
    (h : takeLoose verbose n t = none)
    (h' : takeLoose verbose n (t ++ ['$']) = some (taken, rest)) : '$' ∈ taken := by
  induction n generalizing t taken with
  | zero => cases h
  | succ n ih =>
      cases t with
      | nil =>
          obtain ⟨r, -, heq⟩ := Option.map_eq_some_iff.mp h'
          cases heq
          exact List.mem_cons_self ..
      | cons c t =>
          rw [List.cons_append, takeLoose] at h'
          rw [takeLoose, Option.map_eq_none_iff] at h
          obtain ⟨r, hr, heq⟩ := Option.map_eq_some_iff.mp h'
          cases heq
          refine List.mem_cons_of_mem c ?_
          rcases skip_append dollar_mem_endings verbose t with hskip | ⟨hnil, hskip⟩
          · rw [hskip] at hr
            exact ih h hr
          · rw [hnil] at h
            rw [hskip] at hr
            cases h.symm.trans hr

/-- The character that ends a row of characters does not belong to it. -/
theorem spanLoose_stop {verbose inComment : Bool} {p : Char → Bool} {t rest : Text} {d : Char}
    (h : (spanLoose verbose p inComment t).2 = d :: rest) : p d = false := by
  induction t generalizing inComment with
  | nil => cases h
  | cons c t ih =>
      rw [spanLoose] at h
      split_ifs at h with hc
      · exact ih h
      · exact ih h
      · exact ih h
      · exact ih h
      · rename_i hp
        cases h
        simpa using hp

/-- A row that the anchor belongs to goes on to the end, if it reaches the anchor. -/
theorem spanLoose_dollar {verbose : Bool} {p : Char → Bool} {t : Text} (hp : p '$' = true)
    (h : (spanLoose verbose p false t).2 = []) :
    (spanLoose verbose p false (t ++ ['$'])).2 = [] := by
  rcases atEnd_iff.mp (atEnd_spanLoose h) with hnil | hdollar
  · exact hnil
  · have hstop := spanLoose_stop hdollar
    rw [hp] at hstop
    cases hstop

theorem onlyIf_readCodePoint (verbose : Bool) (digits : Nat) (t : Text) :
    OnlyIf (fun _ => False) (readCodePoint verbose digits t)
      (readCodePoint verbose digits (t ++ ['$'])) := by
  intro r hr
  refine .inl ?_
  cases hskip : skip verbose t with
  | nil =>
      exfalso
      rcases atEnd_iff.mp (atEnd_skip hskip) with hskip' | hskip'
      · cases digits <;> simp [readCodePoint, hskip', takeLoose, charOfHex?] at hr
      · have htaken (taken : Text) (rest : Text) (h : takeLoose verbose digits ['$'] =
            some (taken, rest)) : charOfHex? taken = none := by
          cases digits with
          | zero =>
              cases h
              rfl
          | succ n => exact charOfHex?_eq_none (mem_of_takeLoose (t := []) rfl h)
        simp only [readCodePoint, hskip', List.cons.injEq, Char.reduceEq, false_and, imp_self,
          implies_true] at hr
        split at hr
        · rename_i htake
          rw [htaken _ _ htake] at hr
          cases hr
        · cases hr
  | cons c u =>
      have hskip' := skip_append_of_cons ['$'] hskip
      by_cases hc : c = '{'
      · subst hc
        simp only [readCodePoint, hskip'] at hr
        simp only [readCodePoint, hskip]
        cases hspan : spanLoose verbose (· != '\x7d') false u with
        | mk hex rest =>
            cases rest with
            | nil =>
                have hspan' := spanLoose_dollar (p := (· != '\x7d')) rfl (congrArg Prod.snd hspan)
                split at hr
                · rename_i heq
                  rw [heq] at hspan'
                  cases hspan'
                · cases hr
            | cons d rest =>
                rw [spanLoose_append ['$'] (by simp [hspan]), hspan] at hr
                simp only [List.cons_append] at hr
                cases hhex : charOfHex? hex with
                | none => simp [hhex] at hr
                | some d => simp [hhex]
      · simp only [readCodePoint, hskip', List.cons.injEq, hc, false_and, imp_self,
          implies_true] at hr
        simp only [readCodePoint, hskip, List.cons.injEq, hc, false_and, imp_self, implies_true]
        rw [← List.cons_append] at hr
        cases htake : takeLoose verbose digits (c :: u) with
        | none =>
            split at hr
            · rename_i htake'
              rw [charOfHex?_eq_none (mem_of_takeLoose htake htake')] at hr
              cases hr
            · cases hr
        | some taken =>
            obtain ⟨hex, rest⟩ := taken
            rcases takeLoose_append dollar_mem_endings htake with htake' | ⟨-, htake'⟩
            all_goals
              simp only [htake'] at hr
              cases hhex : charOfHex? hex with
              | none => simp [hhex] at hr
              | some d => simp [hhex]

theorem onlyIf_readProperty (fs : Flags) (negated : Bool) (t : Text) :
    OnlyIf (fun _ => False) (readProperty fs negated t)
      (readProperty fs negated (t ++ ['$'])) := by
  intro r hr
  refine .inl ?_
  cases hskip : skip fs.verbose t with
  | nil =>
      exfalso
      rcases atEnd_iff.mp (atEnd_skip hskip) with hskip' | hskip'
      · simp [readProperty, hskip'] at hr
      · simp [readProperty, hskip', fs.properties.set?_dollar] at hr
  | cons c u =>
      have hskip' := skip_append_of_cons ['$'] hskip
      by_cases hc : c = '{'
      · subst hc
        simp only [readProperty, hskip'] at hr
        simp only [readProperty, hskip]
        cases hspan : spanLoose fs.verbose (· != '\x7d') false u with
        | mk name rest =>
            cases rest with
            | nil =>
                have hspan' := spanLoose_dollar (p := (· != '\x7d')) rfl (congrArg Prod.snd hspan)
                split at hr
                · rename_i heq
                  rw [heq] at hspan'
                  cases hspan'
                · cases hr
            | cons d rest =>
                rw [spanLoose_append ['$'] (by simp [hspan]), hspan] at hr
                simp only [List.cons_append] at hr
                cases hset : fs.properties.set? name with
                | none => simp [hset] at hr
                | some set => simp [hset]
      · simp only [readProperty, hskip'] at hr
        simp only [readProperty, hskip]
        cases hset : fs.properties.set? [c] with
        | none => simp [hset] at hr
        | some set => simp

/-- A condition was read, and a brace with nothing but blanks up to the anchor is left. -/
def OpensBounds (verbose : Bool) (r : Primitive × Text) : Prop :=
  (∃ condition, r.1 = .assertion condition) ∧
    ∃ u, r.2 = '{' :: (u ++ ['$']) ∧ skip verbose u = []

theorem onlyIf_readWordEdge (fs : Flags) (t : Text) :
    OnlyIf (OpensBounds fs.verbose) (readWordEdge fs t) (readWordEdge fs (t ++ ['$'])) := by
  intro r hr
  cases t with
  | nil => exact .inl ⟨_, rfl⟩
  | cons c t =>
      by_cases hc : c = '{'
      · subst hc
        cases hskip : skip fs.verbose t with
        | nil =>
            refine .inr ?_
            rcases atEnd_iff.mp (atEnd_skip hskip) with hskip' | hskip'
            · simp [readWordEdge, hskip'] at hr
            · have hdollar : (('$' : Char).isAlpha || '$' == '-') = false := by decide
              simp only [List.cons_append, readWordEdge, hskip', hdollar] at hr
              cases hr
              exact ⟨⟨_, rfl⟩, t, rfl, hskip⟩
        | cons d u =>
            refine .inl ?_
            have hskip' := skip_append_of_cons ['$'] hskip
            simp only [List.cons_append, readWordEdge, hskip'] at hr
            simp only [readWordEdge, hskip]
            split
            · rename_i hname
              rw [if_pos hname, ← List.cons_append] at hr
              cases hspan :
                spanLoose fs.verbose (fun c => c.isAlpha || c == '-') false (d :: u) with
              | mk name rest =>
                  cases rest with
                  | nil =>
                      exfalso
                      have hend := atEnd_spanLoose (congrArg Prod.snd hspan)
                      split at hr
                      · rename_i heq
                        rw [heq] at hend
                        rcases atEnd_iff.mp hend with hend | hend <;> cases hend
                      · cases hr
                  | cons e rest =>
                      rw [spanLoose_append ['$'] (by simp [hspan]), hspan] at hr
                      simp only [List.cons_append] at hr
                      by_cases he : e = '}'
                      · subst he
                        cases hedge : wordEdge? name with
                        | none => simp [hedge] at hr
                        | some edge => simp [hedge]
                      · simp [he] at hr
            · exact ⟨_, rfl⟩
      · refine .inl ⟨(.assertion (.word .boundary (!fs.unicode)), c :: t), ?_⟩
        simp [readWordEdge, hc]

theorem onlyIf_readEscape (fs : Flags) (c : Char) (t : Text) :
    OnlyIf (OpensBounds fs.verbose) (readEscape fs (c :: t))
      (readEscape fs (c :: (t ++ ['$']))) := by
  have hnone {x y : Except ReadError (Primitive × Text)} (h : OnlyIf (fun _ => False) x y) :
      OnlyIf (OpensBounds fs.verbose) x y :=
    fun r hr => .inl (h.ok hr)
  by_cases hc : c ∈ escapeLetters
  · simp only [escapeLetters, List.mem_cons, List.not_mem_nil, or_false] at hc
    rcases hc with rfl | rfl | rfl | rfl | rfl | rfl | rfl | rfl | rfl | rfl | rfl | rfl | rfl |
      rfl | rfl | rfl | rfl
    · exact hnone (onlyIf_readCodePoint _ _ t)
    · exact hnone (onlyIf_readCodePoint _ _ t)
    · exact hnone (onlyIf_readCodePoint _ _ t)
    · exact hnone (onlyIf_readProperty _ _ t)
    · exact hnone (onlyIf_readProperty _ _ t)
    all_goals first | exact onlyIf_readWordEdge fs t | exact onlyIf_ok _ _
  · rw [readEscape_of_not_mem fs hc, readEscape_of_not_mem fs hc]
    split
    · exact onlyIf_ok _ _
    · split
      · exact onlyIf_ok _ _
      · exact onlyIf_error _ _

/-- The backslash is the only character that makes a character of the anchor. -/
theorem onlyIf_readPrimitive (fs : Flags) {c : Char} {t : Text} (h : ¬ (c = '\\' ∧ t = [])) :
    OnlyIf (OpensBounds fs.verbose) (readPrimitive fs c t) (readPrimitive fs c (t ++ ['$'])) := by
  by_cases hc : c = '\\'
  · subst hc
    cases t with
    | nil => exact absurd ⟨rfl, rfl⟩ h
    | cons d t => exact onlyIf_readEscape fs d t
  · intro r _
    refine .inl ?_
    unfold readPrimitive
    split
    · exact absurd rfl hc
    all_goals exact ⟨_, rfl⟩

/-! ### Repetitions -/

/-- The rest of some bounds, after the comma. -/
def boundsFrom (verbose : Bool) (least : Nat) (t : Text) :
    Except ReadError (Nat × Option Nat × Text) :=
  match t with
  | '}' :: t => .ok (least, none, skip verbose t)
  | t =>
    let (high, t) := readDecimal verbose t
    match bound? high, t with
    | some most, '}' :: t => .ok (least, some most, skip verbose t)
    | _, _ => .error .repetitionBounds

theorem readBounds_eq (verbose : Bool) (t : Text) :
    readBounds verbose t = match bound? (readDecimal verbose (skip verbose t)).1,
        (readDecimal verbose (skip verbose t)).2 with
      | some least, '}' :: t => .ok (least, some least, skip verbose t)
      | some least, ',' :: t => boundsFrom verbose least (skip verbose t)
      | _, _ => .error .repetitionBounds := rfl

theorem boundsFrom_of_ne {verbose : Bool} {least : Nat} {t : Text} (h : t.head? ≠ some '}') :
    boundsFrom verbose least t = match bound? (readDecimal verbose t).1,
        (readDecimal verbose t).2 with
      | some most, '}' :: t => .ok (least, some most, skip verbose t)
      | _, _ => .error .repetitionBounds := by
  unfold boundsFrom
  split
  · exact absurd rfl h
  · rfl

/-- There are no bounds in what is left at the end of the text. -/
theorem boundsFrom_atEnd {verbose : Bool} {t : Text} (h : AtEnd t) (least : Nat) :
    boundsFrom verbose least t = .error .repetitionBounds := by
  rcases atEnd_iff.mp h with rfl | rfl <;> cases verbose <;> rfl

theorem onlyIf_boundsFrom (verbose : Bool) (least : Nat) {t : Text} (ht : t ≠ []) :
    OnlyIf (fun _ => False) (boundsFrom verbose least t)
      (boundsFrom verbose least (t ++ ['$'])) := by
  intro r hr
  refine .inl ?_
  by_cases hhead : t.head? = some '}'
  · obtain ⟨u, rfl⟩ := List.head?_eq_some_iff.mp hhead
    exact ⟨_, rfl⟩
  · have hhead' : (t ++ ['$']).head? ≠ some '}' := by
      rwa [List.head?_append, Option.or_of_isSome (by simpa using ht)]
    rw [boundsFrom_of_ne hhead'] at hr
    rw [boundsFrom_of_ne hhead]
    cases hhigh : (readDecimal verbose t).2 with
    | nil =>
        exfalso
        have hend := atEnd_readDecimal hhigh
        split at hr
        · rename_i heq
          rw [heq] at hend
          rcases atEnd_iff.mp hend with hend | hend <;> cases hend
        · cases hr
    | cons d u =>
        rw [readDecimal_append ['$'] (by simp [hhigh]), hhigh] at hr
        simp only [List.cons_append] at hr
        cases hbound : bound? (readDecimal verbose t).1 with
        | none => simp [hbound] at hr
        | some most =>
            by_cases hd : d = '}'
            · subst hd
              exact ⟨_, rfl⟩
            · simp [hbound, hd] at hr

theorem onlyIf_readBounds (verbose : Bool) (t : Text) :
    OnlyIf (fun _ => False) (readBounds verbose t) (readBounds verbose (t ++ ['$'])) := by
  intro r hr
  refine .inl ?_
  rw [readBounds_eq] at hr ⊢
  -- no bound can be read from what is left at the end of the text
  have hnone {u : Text} (h : AtEnd u) : bound? (readDecimal verbose u).1 = none := by
    rcases atEnd_iff.mp h with rfl | rfl <;> cases verbose <;> rfl
  cases hskip : skip verbose t with
  | nil => simp [hnone (atEnd_skip hskip)] at hr
  | cons c u =>
      rw [skip_append_of_cons ['$'] hskip, ← List.cons_append] at hr
      cases hlow : (readDecimal verbose (c :: u)).2 with
      | nil =>
          exfalso
          have hend := atEnd_readDecimal hlow
          split at hr
          · rename_i heq
            rw [heq] at hend
            rcases atEnd_iff.mp hend with hend | hend <;> cases hend
          · rename_i heq
            rw [heq] at hend
            rcases atEnd_iff.mp hend with hend | hend <;> cases hend
          · cases hr
      | cons d v =>
          rw [readDecimal_append ['$'] (by simp [hlow]), hlow] at hr
          simp only [List.cons_append] at hr
          cases hbound : bound? (readDecimal verbose (c :: u)).1 with
          | none => simp [hbound] at hr
          | some least =>
              by_cases hd : d = '}' ∨ d = ','
              · rcases hd with rfl | rfl
                · exact ⟨_, rfl⟩
                · simp only [hbound] at hr ⊢
                  cases hskip' : skip verbose v with
                  | nil =>
                      rw [boundsFrom_atEnd (atEnd_skip hskip')] at hr
                      cases hr
                  | cons e w =>
                      rw [skip_append_of_cons ['$'] hskip', ← List.cons_append] at hr
                      exact (onlyIf_boundsFrom verbose least (by simp)).ok hr
              · rw [not_or] at hd
                simp [hbound, hd] at hr

/-! ### Classes -/

/-- What was read with the anchor behind the text is what is read without. -/
theorem OnlyIf.carried {α : Type} {exception : α × Text → Prop} {x y : Except ReadError (α × Text)}
    (h : OnlyIf exception x y) (hcarries : Carries ['$'] x y) {a : α} {rest' : Text}
    (hy : y = .ok (a, rest')) :
    (∃ rest, x = .ok (a, rest) ∧ (rest' = rest ++ ['$'] ∨ rest = [] ∧ rest' = [])) ∨
      exception (a, rest') := by
  refine (h _ hy).imp_left ?_
  rintro ⟨⟨b, rest⟩, hx⟩
  rcases hcarries b rest hx with hy' | ⟨hnil, hy'⟩
  · cases hy.symm.trans hy'
    exact ⟨rest, hx, .inl rfl⟩
  · cases hy.symm.trans hy'
    exact ⟨rest, hx, .inr ⟨hnil, rfl⟩⟩

theorem onlyIf_openClassFrom (verbose sign : Bool) (t : Text) :
    OnlyIf (fun r : Bool × List ClassPart × Text => AtEnd r.2.2) (openClassFrom verbose sign t)
      (openClassFrom verbose sign (t ++ ['$'])) := by
  intro r hr
  cases hspan : spanLoose verbose (· == '-') false t with
  | mk hyphens rest =>
      cases rest with
      | nil =>
          refine .inr ?_
          have hend := atEnd_spanLoose (congrArg Prod.snd hspan)
          rcases atEnd_iff.mp hend with hend | hend
          · simp [openClassFrom, hend] at hr
          · simp only [openClassFrom, hend, Char.reduceEq, List.cons.injEq, false_and, imp_self,
              implies_true] at hr
            cases hr
            exact atEnd_dollar
      | cons c u =>
          have hspan' := spanLoose_append ['$'] (t := t) (by rw [hspan]; simp)
          rw [hspan] at hspan'
          simp only [openClassFrom, hspan', List.cons_append] at hr
          simp only [openClassFrom, hspan]
          by_cases hc : hyphens = [] ∧ c = ']'
          · obtain ⟨rfl, rfl⟩ := hc
            cases hskip : skip verbose u with
            | nil =>
                refine .inr ?_
                rcases atEnd_iff.mp (atEnd_skip hskip) with hskip' | hskip'
                · simp [hskip'] at hr
                · simp only [hskip'] at hr
                  cases hr
                  exact atEnd_dollar
            | cons d v => exact .inl (by simp [hskip])
          · refine .inl ?_
            cases hyphens with
            | cons hyphen hyphens => simp
            | nil =>
                have hc' : c ≠ ']' := by simpa using hc
                simp [hc']

theorem onlyIf_openClass (verbose : Bool) (t : Text) :
    OnlyIf (fun r : Bool × List ClassPart × Text => AtEnd r.2.2) (openClass verbose t)
      (openClass verbose (t ++ ['$'])) := by
  -- what is read of the end of the text leaves the end of the text
  have hend {sign : Bool} {u : Text} (hu : AtEnd u) (r : Bool × List ClassPart × Text)
      (hr : openClassFrom verbose sign u = .ok r) : AtEnd r.2.2 :=
    hu.of_suffix (openClassFrom_suffix hr)
  cases hskip : skip verbose t with
  | nil =>
      intro r hr
      have hskip' := atEnd_skip hskip
      rw [openClass_plain] at hr
      · exact .inr (hend hskip' r hr)
      · rcases atEnd_iff.mp hskip' with h | h <;> rw [h] <;> decide
  | cons c u =>
      have hskip' := skip_append_of_cons ['$'] hskip
      by_cases hc : c = '^'
      · subst hc
        rw [openClass_negated hskip, openClass_negated hskip']
        by_cases hu : skip verbose u = []
        · exact fun r hr => .inr (hend (atEnd_skip hu) r hr)
        · rw [skip_append_of_ne ['$'] hu]
          exact onlyIf_openClassFrom verbose true _
      · rw [openClass_plain (by simpa [hskip] using hc),
          openClass_plain (by simpa [hskip'] using hc), hskip, hskip', ← List.cons_append]
        exact onlyIf_openClassFrom verbose false _

theorem onlyIf_readClassPrimitive (fs : Flags) (c : Char) (t : Text) :
    OnlyIf (fun r => AtEnd r.2 ∨ ∃ condition, r.1 = .assertion condition)
      (readClassPrimitive fs (c :: t)) (readClassPrimitive fs (c :: (t ++ ['$']))) := by
  by_cases hc : c = '\\'
  · subst hc
    intro r hr
    cases t with
    | nil =>
        cases hr
        exact .inr (.inl atEnd_nil)
    | cons d t => exact (onlyIf_readEscape fs d t r hr).imp_right fun h => .inr h.1
  · intro r _
    refine .inl ⟨(.literal c false, t), ?_⟩
    simp [readClassPrimitive]

/-- The look ahead finds nothing but the anchor that it does not find without. -/
theorem lookAhead_of_append {verbose : Bool} {t : Text} {c : Char}
    (h : lookAhead verbose (t ++ ['$']) = some c) (hc : c ≠ '$') :
    lookAhead verbose t = some c := by
  cases verbose with
  | false =>
      cases t with
      | nil =>
          cases h
          exact absurd rfl hc
      | cons d t => exact h
  | true =>
      rw [lookAhead_true] at h ⊢
      cases hahead : aheadOfBlanks t with
      | some d =>
          rw [aheadOfBlanks_append hahead] at h
          exact h
      | none =>
          have hdollar : aheadOfBlanks (t ++ ['$']) = some '$' := by
            rw [aheadOfBlanks] at hahead ⊢
            cases hdrop : t.dropWhile Unicode.isWhiteSpace with
            | nil =>
                rw [List.dropWhile_append, hdrop]
                rfl
            | cons d u =>
                rw [dropWhile_append ['$'] (by simp [hdrop]), hdrop]
                rw [hdrop] at hahead
                by_cases hd : d = '#'
                · subst hd
                  have hblank : u.dropWhile Unicode.isWhiteSpace = [] := by simpa using hahead
                  show ((u ++ ['$']).dropWhile Unicode.isWhiteSpace).head? = some '$'
                  rw [List.dropWhile_append, hblank]
                  rfl
                · simp [hd] at hahead
          rw [hdollar] at h
          cases h
          exact absurd rfl hc

theorem lookAhead_dollar_iff {verbose : Bool} {t : Text} {c : Char}
    (hspace : Unicode.isWhiteSpace c = false) (hmark : c ≠ '#') (hc : c ≠ '$') :
    lookAhead verbose (t ++ ['$']) = some c ↔ lookAhead verbose t = some c :=
  ⟨fun h => lookAhead_of_append h hc, fun h => lookAhead_append_of_eq h hspace hmark⟩

theorem onlyIf_classRangeFrom (fs : Flags) (first : Primitive) {t : Text} (ht : t ≠ []) :
    OnlyIf (fun r => AtEnd r.2) (classRangeFrom fs first t)
      (classRangeFrom fs first (t ++ ['$'])) := by
  cases t with
  | nil => exact absurd rfl ht
  | cons c t =>
      rw [List.cons_append, classRangeFrom, classRangeFrom]
      by_cases hc : c = '-'
      · have hahead : (lookAhead fs.verbose (t ++ ['$']) = some ']' ∨
            lookAhead fs.verbose (t ++ ['$']) = some '-') ↔
            (lookAhead fs.verbose t = some ']' ∨ lookAhead fs.verbose t = some '-') :=
          or_congr (lookAhead_dollar_iff (by decide) (by decide) (by decide))
            (lookAhead_dollar_iff (by decide) (by decide) (by decide))
        simp only [if_pos hc, hahead]
        split_ifs
        · exact onlyIf_map_self _ _ _
        · intro r hr
          obtain ⟨⟨last, rest'⟩, hlast, hr⟩ := bind_eq_ok.mp hr
          obtain ⟨item, hitem, heq⟩ := bind_eq_ok.mp hr
          cases heq
          cases hskip : skip fs.verbose t with
          | nil =>
              refine .inr ?_
              rcases atEnd_iff.mp (atEnd_skip hskip) with hskip' | hskip'
              · rw [hskip'] at hlast
                cases hlast
              · rw [hskip'] at hlast
                cases hlast
                exact atEnd_nil
          | cons d u =>
              rw [skip_append_of_cons ['$'] hskip] at hlast
              rcases (onlyIf_readClassPrimitive fs d u).carried
                (carries_readClassPrimitive dollar_mem_endings fs (d :: u)) hlast with
                ⟨rest, hlast', -⟩ | hend | ⟨condition, hcondition⟩
              · exact .inl ⟨_, bind_eq_ok.mpr ⟨_, hlast', bind_eq_ok.mpr ⟨item, hitem, rfl⟩⟩⟩
              · exact .inr hend
              · -- a condition is no end of a range
                dsimp only at hcondition
                rw [hcondition] at hitem
                cases first <;> cases hitem
      · simp only [if_neg hc]
        exact onlyIf_map_self _ _ _

/-- A condition is no part of a class. -/
theorem classRangeFrom_assertion (fs : Flags) (condition : Assertion) (t : Text)
    (r : ClassPart × Text) : classRangeFrom fs (.assertion condition) t ≠ .ok r := by
  intro h
  cases t with
  | nil => cases h
  | cons c t =>
      rw [classRangeFrom] at h
      split_ifs at h
      · cases h
      · obtain ⟨last, -, h⟩ := bind_eq_ok.mp h
        cases h
      · cases h

theorem onlyIf_readClassRange (fs : Flags) (c : Char) (t : Text) :
    OnlyIf (fun r => AtEnd r.2) (readClassRange fs (c :: t))
      (readClassRange fs (c :: (t ++ ['$']))) := by
  intro r hr
  rw [readClassRange_eq] at hr ⊢
  obtain ⟨⟨first, rest'⟩, hfirst, hr⟩ := bind_eq_ok.mp hr
  have hend (hrest : AtEnd (skip fs.verbose rest')) : AtEnd r.2 :=
    hrest.of_suffix (leaves_classRangeFrom fs first _ r.1 r.2 hr)
  rcases (onlyIf_readClassPrimitive fs c t).carried
    (carries_readClassPrimitive dollar_mem_endings fs (c :: t)) hfirst with
    ⟨rest, hfirst', rfl | ⟨rfl, rfl⟩⟩ | hrest | ⟨condition, rfl⟩
  · by_cases hskip : skip fs.verbose rest = []
    · exact .inr (hend (atEnd_skip hskip))
    · dsimp only at hr
      rw [skip_append_of_ne ['$'] hskip] at hr
      refine (onlyIf_classRangeFrom fs first hskip r hr).imp_left ?_
      rintro ⟨r', hr'⟩
      exact ⟨r', bind_eq_ok.mpr ⟨_, hfirst', hr'⟩⟩
  · simp [classRangeFrom] at hr
  · exact .inr (hend (hrest.of_suffix (skip_suffix _ _)))
  · exact absurd hr (classRangeFrom_assertion fs condition _ r)

/-- The class goes on, and at most the anchor is left. -/
def GoesOn (r : ClassProgress × Text) : Prop :=
  (∃ stack parts, r.1 = .more stack parts) ∧ AtEnd r.2

theorem onlyIf_classRound (fs : Flags) (stack : List ClassFrame) (parts : List ClassPart)
    (c : Char) (t : Text) :
    OnlyIf GoesOn (classRound fs stack parts c t) (classRound fs stack parts c (t ++ ['$'])) := by
  unfold classRound
  split_ifs
  · rw [readNamedClass?_append dollar_mem_endings]
    cases readNamedClass? t with
    | some named => exact onlyIf_map_self _ _ _
    | none => exact (onlyIf_openClass fs.verbose t).map _ fun r hr => ⟨⟨_, _, rfl⟩, hr⟩
  · split
    · exact onlyIf_map_self _ _ _
    · exact onlyIf_error _ _
  · rw [operation?_append dollar_mem_endings]
    cases operation? c t with
    | some operation => exact onlyIf_ok _ _
    | none => exact (onlyIf_readClassRange fs c t).map _ fun r hr => ⟨⟨_, _, rfl⟩, hr⟩

/-- A class is not closed at the end of the text. -/
theorem ReadsClass.not_atEnd {fs : Flags} {stack : List ClassFrame} {parts : List ClassPart}
    {t rest : Text} {part : ClassPart} (h : ReadsClass fs stack parts t part rest) :
    ¬ AtEnd (skip fs.verbose t) := by
  intro hend
  -- the anchor alone is the start of a range that is not there
  have hround (r : ClassProgress × Text) : classRound fs stack parts '$' [] ≠ .ok r := by
    have hrange : readClassRange fs ['$'] = .error .unclosedClass := by
      rw [readClassRange_eq]
      show classRangeFrom fs (.literal '$' false) (skip fs.verbose []) = _
      rw [skip_nil]
      rfl
    simp [classRound, operation?, hrange, Except.map]
  rcases atEnd_iff.mp hend with hskip | hskip
  · cases h with
    | done hskip' _ => simp [hskip] at hskip'
    | more hskip' _ _ => simp [hskip] at hskip'
  · cases h with
    | done hskip' hround' =>
        cases hskip.symm.trans hskip'
        exact hround _ hround'
    | more hskip' hround' _ =>
        cases hskip.symm.trans hskip'
        exact hround _ hround'

/-- A class that is read with the anchor behind the text is read without. The induction is on
the rounds; a round that leaves at most the anchor leaves the class open. -/
theorem ReadsClass.of_dollar {fs : Flags} {stack : List ClassFrame} {parts : List ClassPart}
    {t' rest' : Text} {part : ClassPart} (h : ReadsClass fs stack parts t' part rest') (t : Text)
    (ht : t' = t ++ ['$']) : ∃ rest, ReadsClass fs stack parts t part rest := by
  induction h generalizing t with
  | @done stack parts t' u' rest' c part hskip' hround =>
      subst ht
      cases hskip : skip fs.verbose t with
      | nil => exact absurd (atEnd_skip hskip) (ReadsClass.done hskip' hround).not_atEnd
      | cons d u =>
          cases hskip'.symm.trans (skip_append_of_cons ['$'] hskip)
          rcases (onlyIf_classRound fs stack parts c u).carried
            (carries_classRound dollar_mem_endings fs stack parts c u) hround with
            ⟨rest, hround', -⟩ | ⟨⟨_, _, hmore⟩, -⟩
          · exact ⟨rest, .done hskip hround'⟩
          · cases hmore
  | @more stack stack' parts parts' t' u' mid' rest' c part hskip' hround hmore ih =>
      subst ht
      cases hskip : skip fs.verbose t with
      | nil => exact absurd (atEnd_skip hskip) (ReadsClass.more hskip' hround hmore).not_atEnd
      | cons d u =>
          cases hskip'.symm.trans (skip_append_of_cons ['$'] hskip)
          have hopen : ¬ AtEnd mid' := fun hmid =>
            hmore.not_atEnd (hmid.of_suffix (skip_suffix _ _))
          rcases (onlyIf_classRound fs stack parts c u).carried
            (carries_classRound dollar_mem_endings fs stack parts c u) hround with
            ⟨mid, hround', rfl | ⟨-, rfl⟩⟩ | ⟨-, hmid⟩
          · obtain ⟨rest, h⟩ := ih mid rfl
            exact ⟨rest, .more hskip hround' h⟩
          · exact absurd atEnd_nil hopen
          · exact absurd hmid hopen

theorem onlyIf_readClass (fs : Flags) (t : Text) :
    OnlyIf (fun _ => False) (readClass fs t) (readClass fs (t ++ ['$'])) := by
  rintro ⟨part, rest'⟩ hr
  obtain ⟨negated, parts, mid', hopen, h⟩ := readClass_eq_ok_iff.mp hr
  rcases onlyIf_openClass fs.verbose t _ hopen with ⟨⟨negated', parts', mid⟩, hopen'⟩ | hend
  · cases hopen.symm.trans (openClass_append ['$'] hopen')
    obtain ⟨rest, h⟩ := h.of_dollar mid rfl
    exact .inl ⟨(part, rest), readClass_eq_ok_iff.mpr ⟨_, _, _, hopen', h⟩⟩
  · exact absurd (hend.of_suffix (skip_suffix _ _)) h.not_atEnd

/-! ### Actions -/

/-- The end of a group's name is not the anchor. -/
theorem onlyIf_readGroupName (taken : List Text) (t : Text) :
    OnlyIf (fun _ => False) (readGroupName taken t) (readGroupName taken (t ++ ['$'])) := by
  intro r hr
  refine .inl ?_
  cases hrest : (t.span (· != '>')).2 with
  | nil =>
      exfalso
      have hall : (t ++ ['$']).dropWhile (· != '>') = [] := by
        rw [List.span_eq_takeWhile_dropWhile] at hrest
        have hdrop : t.dropWhile (· != '>') = [] := hrest
        rw [List.dropWhile_append, hdrop]
        rfl
      rw [readGroupName, List.span_eq_takeWhile_dropWhile, hall] at hr
      cases hname : (t ++ ['$']).takeWhile (· != '>') <;> rw [hname] at hr <;> cases hr
  | cons bracket rest =>
      have hspan' := span_append ['$'] (t := t) (p := (· != '>')) (by rw [hrest]; simp)
      rw [readGroupName, hspan', hrest] at hr
      rw [readGroupName]
      cases hspan : t.span (· != '>') with
      | mk name rest' =>
          rw [hspan] at hr hrest
          dsimp only at hrest
          subst hrest
          cases name with
          | nil => cases hr
          | cons c name =>
              dsimp only [List.cons_append] at hr ⊢
              split_ifs at hr ⊢
              exact ⟨_, rfl⟩

theorem onlyIf_readFlags (seen : List (Flag × Bool)) (negated dangling : Bool) (t : Text) :
    OnlyIf (fun _ => False) (readFlags seen negated dangling t)
      (readFlags seen negated dangling (t ++ ['$'])) := by
  induction t generalizing seen negated dangling with
  | nil => exact onlyIf_error _ _
  | cons c t ih =>
      rw [List.cons_append, readFlags, readFlags]
      split_ifs
      · exact onlyIf_error _ _
      · exact onlyIf_ok _ _
      · exact onlyIf_error _ _
      · exact ih _ _ _
      · split
        · exact onlyIf_error _ _
        · split_ifs
          · exact onlyIf_error _ _
          · exact ih _ _ _

theorem onlyIf_readSettings (t : Text) :
    OnlyIf (fun _ => False) (readSettings t) (readSettings (t ++ ['$'])) :=
  (onlyIf_readFlags [] false false t).map _ fun _ => id

theorem OnlyIf.making {α β : Type} {exception : α × Text → Prop} {exception' : β × Text → Prop}
    {x y : Except ReadError (α × Text)} (h : OnlyIf exception x y) (hcarries : Carries ['$'] x y)
    (f : α → Except ReadError β)
    (hexception : ∀ a b rest, exception (a, rest) → f a = .ok b → exception' (b, rest)) :
    OnlyIf exception' (making x f) (making y f) := by
  rintro ⟨b, rest'⟩ hb
  obtain ⟨a, hy, hf⟩ := making_eq_ok_iff.mp hb
  rcases h.carried hcarries hy with ⟨rest, hx, -⟩ | ha
  · exact .inl ⟨(b, rest), making_eq_ok_iff.mpr ⟨a, hx, hf⟩⟩
  · exact .inr (hexception a b rest' ha hf)

theorem onlyIf_readOpening (fs : Flags) (names : List Text) (t : Text) :
    OnlyIf (fun _ => False) (readOpening fs names t) (readOpening fs names (t ++ ['$'])) := by
  by_cases hhead : t.head? = some '?'
  · obtain ⟨u, rfl⟩ := List.head?_eq_some_iff.mp hhead
    rw [List.cons_append, readOpening_mark, readOpening_mark,
      isLookAround_append dollar_mem_endings, nameFrom?_append dollar_mem_endings]
    split_ifs
    · exact onlyIf_error _ _
    · cases nameFrom? u with
      | some v =>
          exact (onlyIf_readGroupName names v).making (carries_readGroupName ['$'] names v) _
            fun _ _ _ h _ => h
      | none =>
          exact (onlyIf_readSettings u).making (carries_readSettings ['$'] u) _ fun _ _ _ h _ => h
  · rw [readOpening_plain fs names hhead]
    exact onlyIf_ok _ _

/-- A part was added, and a brace with nothing but blanks up to the anchor is left. -/
def LeavesBrace (verbose : Bool) (r : Action × Text) : Prop :=
  (∃ part, r.1 = .push part) ∧ ∃ u, r.2 = '{' :: (u ++ ['$']) ∧ skip verbose u = []

/-- What a round does with the anchor behind the text, it does without. -/
theorem onlyIf_readAction (fs : Flags) (names : List Text) {c : Char} {t : Text}
    (h : ¬ (c = '\\' ∧ t = [])) :
    OnlyIf (LeavesBrace fs.verbose) (readAction fs names c t)
      (readAction fs names c (t ++ ['$'])) := by
  cases hoperator : isOperator c with
  | false =>
      rw [readAction_smallest fs names hoperator, readAction_smallest fs names hoperator]
      refine (onlyIf_readPrimitive fs h).making
        (carries_readPrimitive dollar_mem_endings fs c t) _ ?_
      rintro primitive action rest ⟨⟨condition, hcondition⟩, hbrace⟩ haction
      dsimp only at hcondition
      rw [hcondition] at haction
      cases haction
      exact ⟨⟨_, rfl⟩, hbrace⟩
  | true =>
      rcases isOperator_iff.mp hoperator with rfl | rfl | rfl | rfl | rfl | rfl | rfl | rfl
      · intro r hr
        have hr : readOpening fs names (skip fs.verbose (t ++ ['$'])) = .ok r := hr
        refine .inl ?_
        rcases skip_append dollar_mem_endings fs.verbose t with hskip | ⟨hnil, hskip⟩
        · rw [hskip] at hr
          exact (onlyIf_readOpening fs names _).ok hr
        · rw [hskip, ← hnil] at hr
          exact ⟨r, hr⟩
      · exact onlyIf_ok _ _
      · exact onlyIf_ok _ _
      · exact (onlyIf_readClass fs t).making (carries_readClass dollar_mem_endings fs t) classAction
          fun _ _ _ h _ => h.elim
      · exact onlyIf_ok _ _
      · exact onlyIf_ok _ _
      · exact onlyIf_ok _ _
      · exact (onlyIf_readBounds fs.verbose t).map _ fun _ h => h.elim

end UriRouting.Regex
