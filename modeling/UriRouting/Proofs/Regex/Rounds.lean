import UriRouting.Proofs.Regex.Leaves

/-!
# UriRouting.Proofs.Regex.Rounds

The reader as a row of rounds, without the fuel that bounds their number. In each round it reads
what is to be done (`readAction`), from the text and the settings alone, and then does it to its
state (`Action.perform`). Properties of what is read and of what is done can be shown apart.

`readFrom_eq_ok_iff`: with fuel above the length of the text, the result is what rounds lead to
(`Reads`), since each round takes a character.
-/

namespace UriRouting.Regex

/-! ### What is made of a part -/

/-- What is made of a part that is read, with the text that it leaves. -/
def making {α β : Type} (x : Except ReadError (α × Text)) (f : α → Except ReadError β) :
    Except ReadError (β × Text) :=
  x.bind fun r => (f r.1).map (·, r.2)

theorem making_eq_ok_iff {α β : Type} {x : Except ReadError (α × Text)}
    {f : α → Except ReadError β} {b : β} {rest : Text} :
    making x f = .ok (b, rest) ↔ ∃ a, x = .ok (a, rest) ∧ f a = .ok b := by
  constructor
  · intro h
    obtain ⟨⟨a, rest'⟩, hx, h⟩ := bind_eq_ok.mp h
    obtain ⟨b', hf, heq⟩ := map_eq_ok.mp h
    cases heq
    exact ⟨a, hx, hf⟩
  · rintro ⟨a, hx, hf⟩
    exact bind_eq_ok.mpr ⟨(a, rest), hx, map_eq_ok.mpr ⟨b, hf, rfl⟩⟩

theorem Leaves.making {α β : Type} {t : Text} {x : Except ReadError (α × Text)} (h : Leaves t x)
    (f : α → Except ReadError β) : Leaves t (making x f) := by
  intro b rest hb
  obtain ⟨a, hx, -⟩ := making_eq_ok_iff.mp hb
  exact h a rest hx

/-! ### Actions -/

/-- What a round does to the state. -/
inductive Action where
  /-- Another part is added. -/
  | push (part : Part)
  /-- The settings change, which is a part as well. -/
  | set (flags : Flags)
  /-- A group is opened. -/
  | enter (name : Option Text) (flags : Flags)
  /-- The innermost group is closed. -/
  | leave
  /-- The branch is finished. -/
  | nextBranch
  /-- The last part is put under a repetition. -/
  | repeatLast (least : Nat) (most : Option Nat) (greedy : Bool)

/-- The state after an action. -/
def Action.perform (st : State) : Action → Except ReadError State
  | push part => .ok (st.push part)
  | set flags => .ok ({ st with flags := flags }.push ⟨empty, 0, false⟩)
  | enter name flags => .ok (st.enter name flags)
  | leave => st.leave
  | nextBranch => .ok st.nextBranch
  | repeatLast least most greedy => st.repeatLast least most greedy

/-- What a class adds. -/
def classAction (part : ClassPart) : Except ReadError Action :=
  .ok (.push { regex := char part.set, depth := part.depth })

/-- What a smallest part adds. -/
def primitiveAction (fs : Flags) (primitive : Primitive) : Except ReadError Action :=
  (primitive.regex fs).map fun regex => .push { regex := regex, depth := 0 }

/-- What settings do that end with `stop`. -/
def settingsAction (fs : Flags) (settings : List (Flag × Bool) × Char) : Except ReadError Action :=
  let flags := settings.1.foldl (fun fs change => fs.set change.1 change.2) fs
  if settings.2 == ':' then .ok (.enter none flags)
  else if settings.1.isEmpty then .error .nothingToRepeat
  else .ok (.set flags)

/-- A repetition, from behind its mark on. -/
def repetition (least : Nat) (most : Option Nat) (t : Text) : Action × Text :=
  (.repeatLast least most (readGreed t).1, (readGreed t).2)

/-- Reads settings and the character that ends them. -/
def readSettings (t : Text) : Except ReadError ((List (Flag × Bool) × Char) × Text) :=
  (readFlags [] false false t).map fun r => ((r.1, r.2.1), r.2.2)

/-- The text from the name of a group on, where one follows the question mark. -/
def nameFrom? : Text → Option Text
  | 'P' :: '<' :: t | '<' :: t => some t
  | _ => none

/-- Reads the start of a group, from behind the bracket and the blanks on. -/
def readOpening (fs : Flags) (names : List Text) (t : Text) : Except ReadError (Action × Text) :=
  if isLookAround t then .error .lookAround
  else match t with
    | '?' :: u => match nameFrom? u with
      | some v => making (readGroupName names v) fun name => .ok (.enter (some name) fs)
      | none => making (readSettings u) (settingsAction fs)
    | t => .ok (.enter none fs, t)

/-- Reads what a round does, on a text that starts with `c`. Of the state, the settings and the
names of the groups are enough for that. -/
def readAction (fs : Flags) (names : List Text) (c : Char) (t : Text) :
    Except ReadError (Action × Text) :=
  match c with
  | '(' => readOpening fs names (skip fs.verbose t)
  | ')' => .ok (.leave, t)
  | '|' => .ok (.nextBranch, t)
  | '[' => making (readClass fs t) classAction
  | '?' => .ok (repetition 0 (some 1) t)
  | '*' => .ok (repetition 0 none t)
  | '+' => .ok (repetition 1 none t)
  | '{' => (readBounds fs.verbose t).map fun r => repetition r.1 r.2.1 r.2.2
  | c => making (readPrimitive fs c t) (primitiveAction fs)

theorem isOperator_iff {c : Char} : isOperator c = true ↔
    c = '(' ∨ c = ')' ∨ c = '|' ∨ c = '[' ∨ c = '?' ∨ c = '*' ∨ c = '+' ∨ c = '{' := by
  simp [isOperator]

/-- A character that is no operator starts a smallest part. -/
theorem readAction_smallest (fs : Flags) (names : List Text) {c : Char}
    (hc : isOperator c = false) (t : Text) :
    readAction fs names c t = making (readPrimitive fs c t) (primitiveAction fs) := by
  unfold readAction
  split
  case h_9 => rfl
  all_goals exact absurd hc (by decide)

theorem readOpening_mark (fs : Flags) (names : List Text) (u : Text) :
    readOpening fs names ('?' :: u) =
      if isLookAround ('?' :: u) then .error .lookAround
      else match nameFrom? u with
        | some v => making (readGroupName names v) fun name => .ok (.enter (some name) fs)
        | none => making (readSettings u) (settingsAction fs) := rfl

theorem readOpening_plain (fs : Flags) (names : List Text) {t : Text} (h : t.head? ≠ some '?') :
    readOpening fs names t = .ok (.enter none fs, t) := by
  cases t with
  | nil => rfl
  | cons c u =>
      have hc : c ≠ '?' := by simpa using h
      simp [readOpening, isLookAround, hc]

theorem readGroupName_suffix {taken : List Text} {t name rest : Text}
    (h : readGroupName taken t = .ok (name, rest)) : rest <:+ t := by
  unfold readGroupName at h
  split at h
  · rename_i hspan
    have hdrop : (t.span (· != '>')).2 <:+ t := by
      rw [List.span_eq_takeWhile_dropWhile]
      exact List.dropWhile_suffix _
    rw [hspan] at hdrop
    split_ifs at h
    cases h
    exact (List.suffix_cons _ _).trans hdrop
  · cases h

theorem readFlags_suffix {seen changes : List (Flag × Bool)} {negated dangling : Bool}
    {t rest : Text} {stop : Char}
    (h : readFlags seen negated dangling t = .ok (changes, stop, rest)) : rest <:+ t := by
  induction t generalizing seen negated dangling with
  | nil => cases h
  | cons c t ih =>
      rw [readFlags] at h
      split_ifs at h
      · cases h
        exact List.suffix_cons _ _
      · exact (ih h).trans (List.suffix_cons c t)
      · split at h
        · cases h
        · split_ifs at h
          exact (ih h).trans (List.suffix_cons c t)

theorem nameFrom?_suffix {t rest : Text} (h : nameFrom? t = some rest) : rest <:+ t := by
  unfold nameFrom? at h
  split at h
  · cases h
    exact (List.suffix_cons _ _).trans (List.suffix_cons _ _)
  · cases h
    exact List.suffix_cons _ _
  · cases h

theorem leaves_readOpening (fs : Flags) (names : List Text) (t : Text) :
    Leaves t (readOpening fs names t) := by
  by_cases hhead : t.head? = some '?'
  · obtain ⟨u, rfl⟩ := List.head?_eq_some_iff.mp hhead
    rw [readOpening_mark]
    split_ifs
    · exact leaves_error _ _
    · refine Leaves.mono ?_ (List.suffix_cons '?' u)
      cases hname : nameFrom? u with
      | some v =>
          refine Leaves.mono (Leaves.making (fun name rest h => ?_) _) (nameFrom?_suffix hname)
          exact readGroupName_suffix h
      | none =>
          refine Leaves.making ?_ _
          intro settings rest h
          obtain ⟨r, hread, heq⟩ := map_eq_ok.mp h
          cases heq
          exact readFlags_suffix hread
  · rw [readOpening_plain fs names hhead]
    exact leaves_ok (List.suffix_refl t)

theorem leaves_readAction (fs : Flags) (names : List Text) (c : Char) (t : Text) :
    Leaves t (readAction fs names c t) := by
  have hrepeat (least : Nat) (most : Option Nat) (t : Text) :
      Leaves t (.ok (repetition least most t)) := leaves_ok (readGreed_suffix t)
  cases hoperator : isOperator c with
  | false =>
      rw [readAction_smallest fs names hoperator]
      exact (leaves_readPrimitive fs c t).making _
  | true =>
      rcases isOperator_iff.mp hoperator with rfl | rfl | rfl | rfl | rfl | rfl | rfl | rfl
      · exact (leaves_readOpening fs names _).mono (skip_suffix fs.verbose t)
      · exact leaves_ok (List.suffix_refl t)
      · exact leaves_ok (List.suffix_refl t)
      · exact (leaves_readClass fs t).making classAction
      · exact hrepeat _ _ t
      · exact hrepeat _ _ t
      · exact hrepeat _ _ t
      · intro action rest h
        obtain ⟨r, hread, heq⟩ := map_eq_ok.mp h
        cases heq
        exact (readGreed_suffix r.2.2).trans (readBounds_suffix hread)

/-! ### Rounds -/

/-- One round in an expression, on a text that starts with `c`. -/
def take (st : State) (c : Char) (t : Text) : Except ReadError (State × Text) :=
  making (readAction st.flags st.names c t) (Action.perform st)

theorem take_eq_ok_iff {st st' : State} {c : Char} {t rest : Text} :
    take st c t = .ok (st', rest) ↔
      ∃ action, readAction st.flags st.names c t = .ok (action, rest) ∧
        action.perform st = .ok st' :=
  making_eq_ok_iff

theorem take_close (st : State) (t : Text) : take st ')' t = st.leave.map (·, t) := rfl

theorem leaves_take (st : State) (c : Char) (t : Text) : Leaves t (take st c t) :=
  (leaves_readAction st.flags st.names c t).making _

theorem readGroupStart_eq (st : State) (t : Text) : readGroupStart st t = take st '(' t := by
  show _ = making (readOpening st.flags st.names (skip st.flags.verbose t)) (Action.perform st)
  cases hskip : skip st.flags.verbose t with
  | nil =>
      simp only [readGroupStart, hskip]
      rfl
  | cons c u =>
      by_cases hc : c = '?'
      · subst hc
        simp only [readGroupStart, hskip, readOpening_mark]
        split_ifs
        · rfl
        · split
          case h_1 v heq =>
            cases heq
            show _ = making (making (readGroupName st.names v) _) _
            cases readGroupName st.names v <;> rfl
          case h_2 v heq =>
            cases heq
            show _ = making (making (readGroupName st.names v) _) _
            cases readGroupName st.names v <;> rfl
          case h_3 hnamed hshort heq =>
            cases heq
            have hname : nameFrom? u = none := by
              unfold nameFrom?
              split
              · exact (hnamed _ rfl).elim
              · exact (hshort _ rfl).elim
              · rfl
            rw [hname, readSettings]
            cases readFlags [] false false u with
            | error e => rfl
            | ok r =>
                show (if _ then _ else if _ then _ else _) =
                  ((settingsAction st.flags (r.1, r.2.1)).map _).bind _
                unfold settingsAction
                split_ifs <;> rfl
          case h_4 hflags => exact (hflags u rfl).elim
      · have hlook : isLookAround (c :: u) = false := by simp [isLookAround, hc]
        rw [readOpening_plain _ _ (by simpa using hc)]
        simp only [readGroupStart, hskip, hlook, Bool.false_eq_true, if_false]
        split
        case h_4 => rfl
        all_goals
          rename_i heq
          cases heq
          exact absurd rfl hc

theorem readFrom_of_skip_nil {st : State} {t : Text} (hskip : skip st.flags.verbose t = [])
    (fuel : Nat) : readFrom (fuel + 1) st t = st.finish := by
  simp only [readFrom, hskip]

theorem readFrom_of_skip {st : State} {t u : Text} {c : Char}
    (hskip : skip st.flags.verbose t = c :: u) (fuel : Nat) :
    readFrom (fuel + 1) st t = (take st c u).bind fun r => readFrom fuel r.1 r.2 := by
  have hrepeat (least : Nat) (most : Option Nat) (t : Text) :
      ((st.repeatLast least most (readGreed t).1).bind fun st' =>
        readFrom fuel st' (readGreed t).2) =
      (making (.ok (repetition least most t)) (Action.perform st)).bind fun r =>
        readFrom fuel r.1 r.2 := by
    show _ = ((st.repeatLast least most (readGreed t).1).map _).bind _
    cases st.repeatLast least most (readGreed t).1 <;> rfl
  cases hoperator : isOperator c with
  | false =>
      rw [take, readAction_smallest _ _ hoperator, readFrom, hskip]
      split
      case h_1 heq => cases heq
      case h_10 heq =>
        cases heq
        cases readPrimitive st.flags c u with
        | error e => rfl
        | ok r =>
            show ((r.1.regex st.flags).bind fun regex => _) =
              ((((r.1.regex st.flags).map _).map _).bind _).bind _
            cases r.1.regex st.flags <;> rfl
      all_goals
        rename_i heq
        cases heq
        exact absurd hoperator (by decide)
  | true =>
      rcases isOperator_iff.mp hoperator with rfl | rfl | rfl | rfl | rfl | rfl | rfl | rfl
      all_goals simp only [readFrom, hskip]
      · rw [readGroupStart_eq]
        rfl
      · rw [take_close]
        cases st.leave <;> rfl
      · rfl
      · rw [take]
        show _ = (making (making (readClass st.flags u) classAction) _).bind _
        cases readClass st.flags u <;> rfl
      · exact hrepeat 0 (some 1) u
      · exact hrepeat 0 none u
      · exact hrepeat 1 none u
      · rw [take]
        show _ = (making ((readBounds st.flags.verbose u).map _) _).bind _
        cases readBounds st.flags.verbose u with
        | error e => rfl
        | ok r => exact hrepeat r.1 r.2.1 r.2.2

/-- **An expression that is read**, round by round. -/
inductive Reads : State → Text → Part → Prop where
  | done {st : State} {t : Text} {part : Part} (hskip : skip st.flags.verbose t = [])
      (hfinish : st.finish = .ok part) : Reads st t part
  | more {st st' : State} {t u rest : Text} {c : Char} {part : Part}
      (hskip : skip st.flags.verbose t = c :: u) (htake : take st c u = .ok (st', rest))
      (hmore : Reads st' rest part) : Reads st t part

theorem reads_of_skip_nil {st : State} {t : Text} {part : Part}
    (hskip : skip st.flags.verbose t = []) : Reads st t part ↔ st.finish = .ok part := by
  constructor
  · intro h
    cases h with
    | done _ hfinish => exact hfinish
    | more hskip' _ _ => simp [hskip] at hskip'
  · exact .done hskip

theorem reads_of_skip {st : State} {t u : Text} {c : Char} {part : Part}
    (hskip : skip st.flags.verbose t = c :: u) :
    Reads st t part ↔ ∃ st' rest, take st c u = .ok (st', rest) ∧ Reads st' rest part := by
  constructor
  · intro h
    cases h with
    | done hskip' _ => simp [hskip] at hskip'
    | more hskip' htake hmore =>
        cases hskip.symm.trans hskip'
        exact ⟨_, _, htake, hmore⟩
  · rintro ⟨st', rest, htake, hmore⟩
    exact .more hskip htake hmore

/-- With fuel above the length of the text, an expression is read that rounds lead to, and no
other one. -/
theorem readFrom_eq_ok_iff {fuel : Nat} {st : State} {t : Text} {part : Part}
    (hfuel : t.length < fuel) : readFrom fuel st t = .ok part ↔ Reads st t part := by
  induction fuel generalizing st t with
  | zero => omega
  | succ fuel ih =>
      cases hskip : skip st.flags.verbose t with
      | nil => rw [readFrom_of_skip_nil hskip, reads_of_skip_nil hskip]
      | cons c u =>
          have hlength := (hskip ▸ skip_suffix st.flags.verbose t).length_le
          rw [List.length_cons] at hlength
          rw [readFrom_of_skip hskip, reads_of_skip hskip]
          constructor
          · intro h
            obtain ⟨⟨st', rest⟩, htake, h⟩ := bind_eq_ok.mp h
            have hrest := (leaves_take _ _ _ _ _ htake).length_le
            exact ⟨st', rest, htake, (ih (t := rest) (by omega)).mp h⟩
          · rintro ⟨st', rest, htake, h⟩
            have hrest := (leaves_take _ _ _ _ _ htake).length_le
            exact bind_eq_ok.mpr ⟨_, htake, (ih (t := rest) (by omega)).mpr h⟩

theorem read_eq_ok_iff {flags : Flags} {t : Text} {part : Part} :
    read flags t = .ok part ↔ Reads { flags := flags } t part :=
  readFrom_eq_ok_iff (Nat.lt_succ_self _)

end UriRouting.Regex
