import Mathlib.Data.List.Forall2
import Mathlib.Data.List.Lex
import UriRouting.Proofs.Template.Names
import UriRouting.Proofs.Unicode.Folding

/-!
# UriRouting.Proofs.Template.Split

The form of a template, said without regular expressions:

* `Covers` — a text is made of pieces, one for each of some tokens;
* `Split` — a subject is made of pieces for the tokens of a template, where variables at
  the end may be left out. A template that starts with such a variable keeps its separator;
* `Lesser` — the order of splits: at the first variable where two of them differ, the
  greater one has the longer value;
* `GreatestSplit` — a split that no other one exceeds.
-/

namespace UriRouting.Template

/-! ### Pieces of a text -/

/-- Whether two characters count as one. -/
def sameChar (caseSensitive : Bool) (c d : Char) : Bool :=
  if caseSensitive then c == d else Unicode.foldSimple c == Unicode.foldSimple d

/-- No character is a separator in another case. -/
theorem orbit_of_isSeparator {c : Char} (hc : isSeparator c = true) : Unicode.orbit c = [c] := by
  have hall : separators.all (fun c => Unicode.orbit c == [c]) = true := by
    decide +kernel
  have hmem : c ∈ separators := by
    simpa [isSeparator] using hc
  exact beq_iff_eq.mp (List.all_eq_true.mp hall c hmem)

/-- A separator counts as no other character. -/
theorem sameChar_of_isSeparator {c : Char} (hc : isSeparator c = true) (caseSensitive : Bool)
    (d : Char) : sameChar caseSensitive c d = (c == d) := by
  cases caseSensitive with
  | true => rfl
  | false =>
      have hd : d ∈ Unicode.orbit c ↔ d = c := by
        rw [orbit_of_isSeparator hc, List.mem_singleton]
      rw [Unicode.mem_orbit_iff] at hd
      rw [Bool.eq_iff_iff]
      simp only [sameChar, Bool.false_eq_true, if_false, beq_iff_eq]
      exact ⟨fun h => (hd.mp h.symm).symm, fun h => (hd.mpr h.symm).symm⟩

/-- A text is spelled like a literal, character by character. -/
def Spells (caseSensitive : Bool) : Text → Text → Prop :=
  List.Forall₂ fun c d => sameChar caseSensitive c d = true

/-- Whether a text is a value of the class. -/
def ValueClass.Admits : ValueClass → Text → Prop
  | anything, _ => True
  | segment excluded, value => value ≠ [] ∧ '/' ∉ value ∧ ∀ c ∈ excluded, c ∉ value

/-- A letter is a value of every variable. -/
theorem Variable.Proper.admits_letter {v : Variable} (hv : v.Proper) : v.value.Admits ['a'] := by
  cases hvalue : v.value with
  | anything => trivial
  | segment excluded =>
      refine ⟨by decide, by decide, ?_⟩
      rintro c rfl hmem
      have hc := (hv.excluded c hvalue).1
      rw [List.mem_singleton.mp hmem] at hc
      cases hc

/-- A text is made of pieces for some tokens, which give values to the variables. -/
inductive Covers (caseSensitive : Bool) : List Token → Text → List (Option Text) → Prop where
  | nil : Covers caseSensitive [] [] []
  | literal {literal piece text : Text} {ts : List Token} {values : List (Option Text)}
      (hpiece : Spells caseSensitive literal piece) (h : Covers caseSensitive ts text values) :
      Covers caseSensitive (.literal literal :: ts) (piece ++ text) values
  | var {v : Variable} {value text : Text} {ts : List Token} {values : List (Option Text)}
      (hvalue : v.value.Admits value) (h : Covers caseSensitive ts text values) :
      Covers caseSensitive (.var v :: ts) (v.separator.toList ++ value ++ text)
        (some value :: values)

/-- The values of the variables among tokens that are left out. -/
def leftOut (ts : List Token) : List (Option Text) :=
  List.replicate (variablesOf ts).length none

/-- A text is made of pieces for the first of some tokens; the others are left out. -/
def CoversFirst (caseSensitive : Bool) (ts : List Token) (text : Text)
    (values : List (Option Text)) : Prop :=
  ∃ m vs, m ≤ ts.length ∧ Covers caseSensitive (ts.take m) text vs ∧
    values = vs ++ leftOut (ts.drop m)

/-- A subject is made of pieces for the tokens of a template, except for some variables at
the end that may be left out. -/
inductive Split (caseSensitive : Bool) (ts : List Token) : Text → List (Option Text) → Prop where
  /-- The first `m` tokens are kept. -/
  | kept {subject : Text} {values : List (Option Text)} (m : Nat)
      (hfirst : 0 < firstOptional ts) (hleast : firstOptional ts ≤ m) (hmost : m ≤ ts.length)
      (h : Covers caseSensitive (ts.take m) subject values) :
      Split caseSensitive ts subject (values ++ leftOut (ts.drop m))
  /-- Every token may be left out. The separator of the first one is kept, with its value
  or without, and so are `m` tokens after it. -/
  | leading {v : Variable} {rest : List Token} {first : Option Text} {text : Text}
      {values : List (Option Text)} (m : Nat)
      (hts : ts = .var v :: rest) (hfirst : firstOptional ts = 0) (hmost : m ≤ rest.length)
      (hvalue : ∀ value ∈ first, v.value.Admits value)
      (h : Covers caseSensitive (rest.take m) text values) :
      Split caseSensitive ts (v.separator.toList ++ first.getD [] ++ text)
        (first :: (values ++ leftOut (rest.drop m)))

/-- A value as it is reported: an empty one counts as none. -/
def reported (value : Option Text) : Option Text :=
  value.filter (!·.isEmpty)

/-! ### The order of splits -/

/-- How long a value is; one that is left out is shorter than the empty one. -/
def rank : Option Text → Nat
  | none => 0
  | some value => value.length + 1

/-- Where the values differ first, the first list has the shorter one. -/
def Lesser : List (Option Text) → List (Option Text) → Prop :=
  List.Lex fun a b => rank a < rank b

theorem Lesser.append {as bs : List (Option Text)} (h : Lesser as bs)
    (hlength : as.length = bs.length) (as' bs' : List (Option Text)) :
    Lesser (as ++ as') (bs ++ bs') := by
  induction h with
  | nil => cases hlength
  | rel h => exact .rel h
  | cons _ ih => exact .cons (ih (Nat.succ.inj hlength))

theorem Lesser.asymm {as bs : List (Option Text)} (h : Lesser as bs) : ¬ Lesser bs as := by
  have hrank : Std.Asymm fun a b : Option Text => rank a < rank b :=
    ⟨fun _ _ hab hba => Nat.lt_asymm hab hba⟩
  exact (List.Lex.asymm fun a b => rank a < rank b).asymm as bs h

theorem Lesser.append_left {as' bs' : List (Option Text)} (h : Lesser as' bs')
    (as : List (Option Text)) : Lesser (as ++ as') (as ++ bs') := by
  induction as with
  | nil => exact h
  | cons a as ih => exact .cons ih

/-- A split of a subject that is greater than every other one. -/
structure GreatestSplit (caseSensitive : Bool) (ts : List Token) (subject : Text)
    (values : List (Option Text)) : Prop where
  /-- It is a split. -/
  split : Split caseSensitive ts subject values
  /-- The other splits are less. -/
  greatest : ∀ values', Split caseSensitive ts subject values' →
    values' = values ∨ Lesser values' values

/-! ### Values for all variables -/

theorem leftOut_append (ts ts' : List Token) : leftOut (ts ++ ts') = leftOut ts ++ leftOut ts' := by
  rw [leftOut, variablesOf_append, List.length_append, List.replicate_add]
  rfl

@[simp] theorem length_leftOut (ts : List Token) :
    (leftOut ts).length = (variablesOf ts).length :=
  List.length_replicate

theorem Covers.length_values {caseSensitive : Bool} {ts : List Token} {text : Text}
    {values : List (Option Text)} (h : Covers caseSensitive ts text values) :
    values.length = (variablesOf ts).length := by
  induction h with
  | nil => rfl
  | literal _ _ ih => exact ih
  | var _ _ ih => rw [variablesOf_var, List.length_cons, List.length_cons, ih]

/-- A split has a value for each variable, be it kept or left out. -/
theorem Split.length_values {caseSensitive : Bool} {ts : List Token} {subject : Text}
    {values : List (Option Text)} (h : Split caseSensitive ts subject values) :
    values.length = (variablesOf ts).length := by
  have hall (m : Nat) (ts : List Token) :
      (variablesOf (ts.take m)).length + (variablesOf (ts.drop m)).length =
        (variablesOf ts).length := by
    rw [← List.length_append, ← variablesOf_append, List.take_append_drop]
  cases h with
  | kept m _ _ _ h =>
      rw [List.length_append, h.length_values, length_leftOut, hall]
  | leading m hts _ _ _ h =>
      rw [hts, variablesOf_var, List.length_cons, List.length_append, h.length_values,
        length_leftOut, hall, List.length_cons]

theorem covers_nil_iff {caseSensitive : Bool} {text : Text} {values : List (Option Text)} :
    Covers caseSensitive [] text values ↔ text = [] ∧ values = [] := by
  constructor
  · intro h
    cases h
    exact ⟨rfl, rfl⟩
  · intro h
    obtain ⟨rfl, rfl⟩ := h
    exact .nil

/-- Every token after the first that may be left out may be left out. -/
theorem isOptional_of_mem_drop {ts : List Token} {t : Token}
    (h : t ∈ ts.drop (firstOptional ts)) : t.isOptional = true := by
  -- the last tokens are the first ones of the list read backwards
  have hprefix := List.takeWhile_prefix Token.isOptional (l := ts.reverse)
  have htake := List.prefix_iff_eq_take.mp hprefix
  rw [List.take_reverse] at htake
  have hmem : t ∈ ts.reverse.takeWhile Token.isOptional := by
    rw [htake, List.mem_reverse]
    exact h
  exact List.all_eq_true.mp List.all_takeWhile t hmem

theorem firstOptional_le (ts : List Token) : firstOptional ts ≤ ts.length :=
  Nat.sub_le _ _

end UriRouting.Template
