import UriRouting.Template.Token
import UriRouting.Proofs.Regex.Reading

/-!
# UriRouting.Proofs.Template.Names

What a template that has been scanned guarantees of its tokens, and of every part of them
(`WellNamed`): its variables have names that a group may have, separators that are
separators (`Variable.Proper`), and no two of them share a name.
-/

namespace UriRouting.Template

open Regex (IsGroupName)

/-! ### Slots -/

/-- A slot has a name, made of the characters of words. -/
theorem Slot.name_of_read? {t rest : Text} {s : Slot} (h : Slot.read? t = some (s, rest)) :
    s.name ≠ [] ∧ s.name.all isAsciiWordCharacter = true := by
  have hall : (t.span isAsciiWordCharacter).1.all isAsciiWordCharacter = true := by
    rw [List.span_eq_takeWhile_dropWhile]
    exact List.all_takeWhile
  unfold Slot.read? at h
  split at h
  case h_1 => cases h
  case h_4 => cases h
  case h_2 hne hspan | h_3 hne hspan =>
    rw [hspan] at hall
    cases h
    exact ⟨hne, hall⟩

/-- The slots of a text are slots that have been read. -/
theorem Slot.name_of_mem_scan {t : Text} {s : Slot} (h : Piece.slot s ∈ Piece.scan t) :
    s.name ≠ [] ∧ s.name.all isAsciiWordCharacter = true := by
  induction t with
  | nil => simp [Piece.scan] at h
  | cons c t ih =>
      rw [Piece.scan] at h
      split at h
      · rename_i s' rest hread
        rcases List.mem_cons.mp h with heq | hmem
        · cases heq
          split at hread
          · exact Slot.name_of_read? hread
          · cases hread
        · exact ih (List.mem_of_mem_drop hmem)
      · rcases List.mem_cons.mp h with heq | hmem
        · cases heq
        · exact ih hmem

/-! ### Names -/

/-- Names that pass the check are new and distinct, and none starts with a digit. -/
theorem of_checkNames {template : Text} {taken names : List Text}
    (h : checkNames template taken names = .ok ()) :
    names.Nodup ∧ ∀ n ∈ names, n ∉ taken ∧ n.head?.any Char.isDigit = false := by
  induction names generalizing taken with
  | nil => simp
  | cons name names ih =>
      rw [checkNames] at h
      split at h
      · cases h
      · split at h
        · cases h
        · split at h
          · cases h
          · rename_i hdigit htaken
            obtain ⟨hnodup, hall⟩ := ih h
            refine ⟨List.nodup_cons.mpr ⟨fun hmem => ?_, hnodup⟩, ?_⟩
            · exact (hall name hmem).1 (List.mem_cons_self ..)
            · intro n hn
              rcases List.mem_cons.mp hn with rfl | hn
              · exact ⟨by simpa using htaken, by simpa using hdigit⟩
              · exact ⟨fun hmem => (hall n hn).1 (List.mem_cons_of_mem _ hmem), (hall n hn).2⟩

/-- A name of word characters that starts with no digit can name a group. -/
theorem isGroupName_of {name : Text} (hne : name ≠ [])
    (hall : name.all isAsciiWordCharacter = true) (hdigit : name.head?.any Char.isDigit = false) :
    IsGroupName name := by
  cases name with
  | nil => exact absurd rfl hne
  | cons c name =>
      refine ⟨?_, hall⟩
      have hc : isAsciiWordCharacter c = true := by
        rw [List.all_cons, Bool.and_eq_true] at hall
        exact hall.1
      simp only [List.head?_cons, Option.any_some] at hdigit
      simp only [isAsciiWordCharacter, Char.isAlphanum, hdigit, Bool.or_false, Bool.or_eq_true]
        at hc
      rcases hc with hc | hc <;> simp [Regex.isNameCharacter, hc]

/-- A template that is scanned is cut into its pieces, with names that pass the check. -/
theorem scan_eq_ok {template : Text} {ps : List Piece} (h : scan template = .ok ps) :
    ps = Piece.scan template ∧ checkNames template [] (slotNames ps) = .ok () := by
  obtain ⟨_, hcheck, hps⟩ := bind_eq_ok.mp h
  cases hps
  exact ⟨rfl, hcheck⟩

theorem isGroupName_of_scan {template : Text} {ps : List Piece} (h : scan template = .ok ps)
    {s : Slot} (hs : Piece.slot s ∈ ps) : IsGroupName s.name := by
  obtain ⟨rfl, hcheck⟩ := scan_eq_ok h
  obtain ⟨hne, hall⟩ := Slot.name_of_mem_scan hs
  have hmem : s.name ∈ slotNames (Piece.scan template) := by
    rw [slotNames, List.mem_map]
    exact ⟨s, List.mem_filterMap.mpr ⟨_, hs, rfl⟩, rfl⟩
  exact isGroupName_of hne hall ((of_checkNames hcheck).2 _ hmem).2

/-! ### Variables -/

/-- What every variable of a scanned template has. -/
structure Variable.Proper (v : Variable) : Prop where
  /-- Its name can name a group. -/
  name : IsGroupName v.name
  /-- Its separator is one. -/
  separator : ∀ c ∈ v.separator, isSeparator c = true
  /-- What its values leave out besides slashes is a separator, and no slash. -/
  excluded : ∀ c, v.value = .segment (some c) → isSeparator c = true ∧ c ≠ '/'

/-- The variables among some tokens, in order. -/
def variablesOf (ts : List Token) : List Variable :=
  ts.filterMap Token.var?

@[simp] theorem variablesOf_nil : variablesOf [] = [] := rfl

@[simp] theorem variablesOf_literal (text : Text) (ts : List Token) :
    variablesOf (.literal text :: ts) = variablesOf ts := rfl

@[simp] theorem variablesOf_var (v : Variable) (ts : List Token) :
    variablesOf (.var v :: ts) = v :: variablesOf ts := rfl

@[simp] theorem variablesOf_append (ts ts' : List Token) :
    variablesOf (ts ++ ts') = variablesOf ts ++ variablesOf ts' :=
  List.filterMap_append

theorem mem_variablesOf {v : Variable} {ts : List Token} :
    v ∈ variablesOf ts ↔ .var v ∈ ts := by
  induction ts with
  | nil => simp
  | cons t ts ih => cases t <;> simp [ih]

/-- The names of the variables among some tokens, in order. -/
def namesOf (ts : List Token) : List Text :=
  (variablesOf ts).map (·.name)

@[simp] theorem namesOf_append (ts ts' : List Token) :
    namesOf (ts ++ ts') = namesOf ts ++ namesOf ts' := by
  simp [namesOf]

theorem namesOf_cons (t : Token) (ts : List Token) :
    namesOf (t :: ts) = namesOf [t] ++ namesOf ts :=
  namesOf_append [t] ts

/-- What the tokens of a scanned template have, and every part of them. -/
structure WellNamed (ts : List Token) : Prop where
  /-- Every variable is proper. -/
  proper : ∀ v ∈ variablesOf ts, v.Proper
  /-- No two variables share a name. -/
  nodup : (namesOf ts).Nodup

theorem WellNamed.of_append {ts ts' : List Token} (h : WellNamed (ts ++ ts')) :
    WellNamed ts ∧ WellNamed ts' := by
  obtain ⟨hproper, hnodup⟩ := h
  rw [variablesOf_append, List.forall_mem_append] at hproper
  rw [namesOf_append, List.nodup_append] at hnodup
  exact ⟨⟨hproper.1, hnodup.1⟩, ⟨hproper.2, hnodup.2.1⟩⟩

theorem WellNamed.of_cons {t : Token} {ts : List Token} (h : WellNamed (t :: ts)) :
    WellNamed [t] ∧ WellNamed ts :=
  @WellNamed.of_append [t] ts h

/-- The separator that a slot takes from the text before it, read backwards, and what is
left of that text. -/
def detach : Text → Option Char × Text
  | [] => (none, [])
  | c :: rest => if isSeparator c then (some c, rest) else (none, c :: rest)

theorem detach_separator {reversed : Text} {c : Char} (h : (detach reversed).1 = some c) :
    isSeparator c = true ∧ reversed = c :: (detach reversed).2 := by
  cases reversed with
  | nil => cases h
  | cons d rest =>
      by_cases hd : isSeparator d = true
      · simp only [detach, hd, if_true, Option.some.injEq] at h ⊢
        subst h
        exact ⟨hd, rfl⟩
      · simp [detach, hd] at h

/-- The variable that a slot stands for, between the text and the pieces around it. -/
def slotVariable (anything : List Text) (reversed : Text) (s : Slot) (ps : List Piece) :
    Variable :=
  ⟨(detach reversed).1, if anything.elem s.name then .anything else valueClass ps, s.name,
    s.optional⟩

theorem ofPieces_slot (anything : List Text) (reversed : Text) (s : Slot) (ps : List Piece) :
    Token.ofPieces anything reversed (.slot s :: ps) = literalToken (detach reversed).2 ++
      .var (slotVariable anything reversed s ps) :: Token.ofPieces anything [] ps := by
  cases reversed with
  | nil => rfl
  | cons c rest =>
      by_cases hc : isSeparator c = true <;> simp [Token.ofPieces, slotVariable, detach, hc]

/-- Characters that stand for themselves are added to the text before them. -/
theorem ofPieces_append_chars (anything : List Text) (reversed t : Text) (ps : List Piece) :
    Token.ofPieces anything reversed (t.map .char ++ ps) =
      Token.ofPieces anything (t.reverse ++ reversed) ps := by
  induction t generalizing reversed with
  | nil => rfl
  | cons c t ih =>
      rw [List.map_cons, List.cons_append, Token.ofPieces, ih, List.reverse_cons,
        List.append_assoc, List.singleton_append]

@[simp] theorem variablesOf_literalToken (reversed : Text) :
    variablesOf (literalToken reversed) = [] := by
  unfold literalToken
  split <;> rfl

/-- The variables of a template have the names of its slots, in order. -/
theorem namesOf_ofPieces (anything : List Text) (reversed : Text) (ps : List Piece) :
    namesOf (Token.ofPieces anything reversed ps) = slotNames ps := by
  induction ps generalizing reversed with
  | nil => simp [Token.ofPieces, slotNames, namesOf]
  | cons p ps ih =>
      cases p with
      | char c => exact ih (c :: reversed)
      | slot s =>
          rw [ofPieces_slot, namesOf, variablesOf_append, variablesOf_literalToken, List.nil_append,
            variablesOf_var, List.map_cons, ← namesOf, ih]
          rfl

theorem valueClass_excluded {following : List Piece} {c : Char}
    (h : valueClass following = .segment (some c)) : isSeparator c = true ∧ c ≠ '/' := by
  simp only [valueClass, ValueClass.segment.injEq, Option.filter_eq_some_iff,
    Bool.and_eq_true, bne_iff_ne] at h
  exact h.2

theorem proper_slotVariable (anything : List Text) (reversed : Text) {s : Slot}
    (hs : IsGroupName s.name) (ps : List Piece) :
    (slotVariable anything reversed s ps).Proper where
  name := hs
  separator := fun _ hc => (detach_separator hc).1
  excluded := by
    intro c hc
    simp only [slotVariable] at hc
    split at hc
    · cases hc
    · exact valueClass_excluded hc

/-- The variables of a template stand for its slots. -/
theorem exists_slot_of_mem_ofPieces {anything : List Text} {reversed : Text} {ps : List Piece}
    {v : Variable} (hv : v ∈ variablesOf (Token.ofPieces anything reversed ps)) :
    ∃ reversed' s ps', Piece.slot s ∈ ps ∧ v = slotVariable anything reversed' s ps' := by
  induction ps generalizing reversed with
  | nil => simp [Token.ofPieces] at hv
  | cons p ps ih =>
      cases p with
      | char c =>
          obtain ⟨reversed', s, ps', hs, hv⟩ := @ih (c :: reversed) hv
          exact ⟨reversed', s, ps', List.mem_cons_of_mem _ hs, hv⟩
      | slot s =>
          rw [ofPieces_slot, variablesOf_append, variablesOf_literalToken, List.nil_append,
            variablesOf_var, List.mem_cons] at hv
          rcases hv with rfl | hv
          · exact ⟨reversed, s, ps, List.mem_cons_self .., rfl⟩
          · obtain ⟨reversed', s', ps', hs, hv⟩ := ih hv
            exact ⟨reversed', s', ps', List.mem_cons_of_mem _ hs, hv⟩

theorem proper_of_mem_ofPieces {anything : List Text} {reversed : Text} {ps : List Piece}
    (hps : ∀ s, Piece.slot s ∈ ps → IsGroupName s.name) {v : Variable}
    (hv : v ∈ variablesOf (Token.ofPieces anything reversed ps)) : v.Proper := by
  obtain ⟨reversed', s, ps', hs, rfl⟩ := exists_slot_of_mem_ofPieces hv
  exact proper_slotVariable anything reversed' (hps s hs) ps'

/-- **The tokens of a scanned template are well named**, whatever some of them match. -/
theorem wellNamed_of_scan {template : Text} {ps : List Piece} (h : scan template = .ok ps)
    (anything : List Text) : WellNamed (tokenize ps anything) where
  proper := fun _ hv => proper_of_mem_ofPieces (fun _ hs => isGroupName_of_scan h hs) hv
  nodup := by
    rw [tokenize, namesOf_ofPieces]
    exact (of_checkNames (scan_eq_ok h).2).1

end UriRouting.Template
