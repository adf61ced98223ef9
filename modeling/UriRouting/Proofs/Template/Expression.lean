import UriRouting.Template.Compiled
import UriRouting.Proofs.Template.Names

/-!
# UriRouting.Proofs.Template.Expression

The regular expression of a template as an expression, without the detour over its text.
`templateParts` lists its parts token by token, in the shape of `regexSource`, and

* `read_regexSource` — reading the source of a template gives these parts, so a template
  that has been scanned never writes an expression with a syntax error;
* `build_regexSource` — it is built unless it is nested too deeply or too large;
* `compilePieces_eq` — what a template that is ready for matching is made of.
-/

namespace UriRouting.Regex

open Unicode (CharSet)

/-- The separators keep their meaning in a class: what is read is the complement of a slash
and the separator. -/
theorem readClass_segment (ignoreCase : Bool) {c : Char} (hc : Template.isSeparator c = true)
    (hslash : c ≠ '/') (rest : Text) :
    readClass (.initial ignoreCase) (['^', '/'] ++ escape [c] ++ [']'] ++ rest) =
      .ok (⟨caseAndSign (.initial ignoreCase) (.unions [.oneOf ['/'], .oneOf [c]]) true, 2⟩,
        rest) := by
  have hmem : c ∈ Template.separators := by
    simpa [Template.isSeparator] using hc
  simp only [Template.separators, List.mem_cons, List.not_mem_nil, or_false] at hmem
  rcases hmem with h | h | h | h | h | h | h | h | h | h | h | h | h
  · exact absurd h hslash
  all_goals
    subst h
    rfl

theorem readClass_slash (ignoreCase : Bool) (rest : Text) :
    readClass (.initial ignoreCase) (['^', '/', ']'] ++ rest) =
      .ok (⟨caseAndSign (.initial ignoreCase) (.oneOf ['/']) true, 1⟩, rest) := rfl

end UriRouting.Regex

namespace UriRouting.Template

open Regex (Part Writes rowOfParts anchoredParts IsGroupName)
open Unicode (CharSet)

/-! ### The parts of a template -/

/-- The characters that the values of a variable leave out. -/
def excludedSet : Option Char → CharSet
  | none => .oneOf ['/']
  | some c => .unions [.oneOf ['/'], .oneOf [c]]

/-- The values of a class as a part of an expression. -/
def ValueClass.part (ignoreCase : Bool) : ValueClass → Part
  | anything => { regex := .rep (.char .all) 0 none true, depth := 1 }
  | segment excluded =>
    { regex := .rep (.char (Regex.caseAndSign (.initial ignoreCase) (excludedSet excluded) true))
        1 none true
      depth := if excluded.isSome then 3 else 2 }

/-- The separator of a variable as parts of an expression. -/
def Variable.separatorParts (ignoreCase : Bool) (v : Variable) : List Part :=
  v.separator.toList.map (.ofChar ignoreCase)

/-- The group for a variable's value as a part of an expression. -/
def Variable.groupPart (ignoreCase : Bool) (v : Variable) : Part :=
  (rowOfParts [v.value.part ignoreCase]).enclosed (some v.name)

/-- A token that has to be there, as parts of an expression. -/
def Token.parts (ignoreCase : Bool) : Token → List Part
  | literal text => text.map (.ofChar ignoreCase)
  | var v => v.separatorParts ignoreCase ++ [v.groupPart ignoreCase]

/-- Tokens of which any number at the end may be left out, as parts of an expression. -/
def optionalParts (ignoreCase : Bool) : List Token → List Part
  | [] => []
  | t :: ts =>
    [((rowOfParts (t.parts ignoreCase ++ optionalParts ignoreCase ts)).enclosed none).maybe]

/-- The first variable of a template and the tokens after it, if even the first token may
be left out. -/
def leadingOptional? : List Token → Option (Variable × List Token)
  | .var v :: ts => if firstOptional (.var v :: ts) = 0 then some (v, ts) else none
  | _ => none

theorem leadingOptional?_eq_some {ts rest : List Token} {v : Variable} :
    leadingOptional? ts = some (v, rest) ↔ ts = .var v :: rest ∧ firstOptional ts = 0 := by
  unfold leadingOptional?
  split
  · rename_i v' rest'
    simp only [Option.ite_none_right_eq_some, Option.some.injEq, Prod.mk.injEq, List.cons.injEq,
      Token.var.injEq]
    exact and_comm
  · rename_i hne
    simp only [reduceCtorEq, false_iff, not_and]
    intro h
    exact absurd h (hne v rest)

/-- The parts of the expression of a template, without the anchors. -/
def templateParts (ignoreCase : Bool) (ts : List Token) : List Part :=
  match leadingOptional? ts with
  | some (v, rest) =>
    v.separatorParts ignoreCase ++ [(v.groupPart ignoreCase).maybe] ++
      optionalParts ignoreCase rest
  | none =>
    (ts.take (firstOptional ts)).flatMap (Token.parts ignoreCase) ++
      optionalParts ignoreCase (ts.drop (firstOptional ts))

/-- The expression of a template as one part. -/
def templatePart (ignoreCase : Bool) (ts : List Token) : Part :=
  rowOfParts (anchoredParts (templateParts ignoreCase ts))

/-! ### The source of a template -/

theorem head?_escape_append (t : Text) {s : Text} (hs : s.head? ≠ some '?') :
    (Regex.escape t ++ s).head? ≠ some '?' := by
  have ht := Regex.head?_escape_ne t
  cases h : Regex.escape t with
  | nil => exact hs
  | cons c t' => rwa [h] at ht

theorem head?_varSource_append (v : Variable) (s : Text) :
    (v.separatorSource ++ (v.groupSource ++ s)).head? ≠ some '?' :=
  head?_escape_append _ (by simp [Variable.groupSource])

theorem head?_tokenSource_append {t : Token} {s : Text} (hs : s.head? ≠ some '?') :
    (t.source ++ s).head? ≠ some '?' := by
  cases t with
  | literal text => exact head?_escape_append text hs
  | var v =>
      rw [Token.source, List.append_assoc]
      exact head?_varSource_append v s

theorem head?_flatMap_source_append (ts : List Token) {s : Text} (hs : s.head? ≠ some '?') :
    (ts.flatMap Token.source ++ s).head? ≠ some '?' := by
  induction ts with
  | nil => exact hs
  | cons t ts ih =>
      rw [List.flatMap_cons, List.append_assoc]
      exact head?_tokenSource_append ih

theorem head?_optionalSource (ts : List Token) : (optionalSource ts).head? ≠ some '?' := by
  cases ts <;> simp [optionalSource]

theorem writes_value (ignoreCase : Bool) {v : Variable} (hv : v.Proper) :
    Writes ignoreCase v.value.source [v.value.part ignoreCase] [] := by
  cases hvalue : v.value with
  | anything => exact Writes.dot_star ignoreCase
  | segment excluded =>
      cases excluded with
      | none => exact Writes.class_plus (s := ['^', '/', ']']) (Regex.readClass_slash ignoreCase)
      | some c =>
          obtain ⟨hc, hslash⟩ := hv.excluded c hvalue
          have h := Writes.class_plus (Regex.readClass_segment ignoreCase hc hslash)
          simpa [ValueClass.source, ValueClass.part, excludedSet] using h

theorem head?_valueSource (value : ValueClass) : value.source.head? ≠ some '?' := by
  cases value with
  | anything => simp [ValueClass.source]
  | segment excluded => cases excluded <;> simp [ValueClass.source]

theorem writes_group (ignoreCase : Bool) {v : Variable} (hv : v.Proper) :
    Writes ignoreCase v.groupSource [v.groupPart ignoreCase] [v.name] :=
  Writes.named (writes_value ignoreCase hv) (head?_valueSource v.value) hv.name (by simp)

theorem writes_token (ignoreCase : Bool) {t : Token} (ht : WellNamed [t]) :
    Writes ignoreCase t.source (t.parts ignoreCase) (namesOf [t]) := by
  cases t with
  | literal text => exact Writes.escape ignoreCase text
  | var v =>
      exact (Writes.escape ignoreCase v.separator.toList).append
        (writes_group ignoreCase (ht.proper v (by simp))) (by simp [Variable.groupSource]) (by simp)

/-- Tokens that have to be there are read one after the other. -/
theorem writes_tokens (ignoreCase : Bool) {ts : List Token} (hts : WellNamed ts) :
    Writes ignoreCase (ts.flatMap Token.source) (ts.flatMap (Token.parts ignoreCase))
      (namesOf ts) := by
  induction ts with
  | nil => exact Writes.nil ignoreCase
  | cons t ts ih =>
      obtain ⟨ht, hts'⟩ := hts.of_cons
      have hnames := hts.nodup
      rw [namesOf_cons] at hnames ⊢
      have hhead := head?_flatMap_source_append ts (s := []) (by simp)
      rw [List.append_nil] at hhead
      exact (writes_token ignoreCase ht).append (ih hts') hhead hnames

/-- Tokens that may be left out are read as nested groups. -/
theorem writes_optional (ignoreCase : Bool) {ts : List Token} (hts : WellNamed ts) :
    Writes ignoreCase (optionalSource ts) (optionalParts ignoreCase ts) (namesOf ts) := by
  induction ts with
  | nil => exact Writes.nil ignoreCase
  | cons t ts ih =>
      obtain ⟨ht, hts'⟩ := hts.of_cons
      have hnames := hts.nodup
      rw [namesOf_cons] at hnames ⊢
      have h := ((writes_token ignoreCase ht).append
        (ih hts') (head?_optionalSource ts) hnames).optional
        (head?_tokenSource_append (head?_optionalSource ts))
      simpa [optionalSource, optionalParts] using h

/-- The source of a template without its anchors. -/
def bodySource (ts : List Token) : Text :=
  match leadingOptional? ts with
  | some (v, rest) => v.separatorSource ++ v.groupSource ++ ['?'] ++ optionalSource rest
  | none =>
    (ts.take (firstOptional ts)).flatMap Token.source ++
      optionalSource (ts.drop (firstOptional ts))

theorem regexSource_eq (ts : List Token) : regexSource ts = ['^'] ++ bodySource ts ++ ['$'] := by
  unfold regexSource bodySource
  split
  · rename_i v rest h
    obtain ⟨rfl, hfirst⟩ := leadingOptional?_eq_some.mp h
    simp [hfirst]
  · rename_i h
    dsimp only
    split
    · rename_i v rest hfirst
      rw [leadingOptional?_eq_some.mpr ⟨rfl, hfirst⟩] at h
      cases h
    · rfl

theorem head?_bodySource (ts : List Token) : (bodySource ts).head? ≠ some '?' := by
  unfold bodySource
  split
  · rw [List.append_assoc, List.append_assoc]
    exact head?_varSource_append _ _
  · exact head?_flatMap_source_append _ (head?_optionalSource _)

/-- The variable that the first token is, with its value to be left out if need be. -/
theorem writes_leading (ignoreCase : Bool) {v : Variable} (hv : v.Proper) :
    Writes ignoreCase (v.separatorSource ++ v.groupSource ++ ['?'])
      (v.separatorParts ignoreCase ++ [(v.groupPart ignoreCase).maybe]) [v.name] := by
  have hgroup : Writes ignoreCase (v.groupSource ++ ['?']) [(v.groupPart ignoreCase).maybe]
      [v.name] := by
    have h := Writes.named_maybe (writes_value ignoreCase hv) (head?_valueSource v.value)
      hv.name (by simp)
    simpa [Variable.groupSource, Variable.groupPart] using h
  rw [List.append_assoc]
  exact (Writes.escape ignoreCase v.separator.toList).append hgroup
    (by simp [Variable.groupSource]) (by simp)

/-- **Every piece of a template is written for what it stands for.** -/
theorem writes_body (ignoreCase : Bool) {ts : List Token} (hts : WellNamed ts) :
    Writes ignoreCase (bodySource ts) (templateParts ignoreCase ts) (namesOf ts) := by
  unfold bodySource templateParts
  split
  · rename_i v rest h
    obtain ⟨rfl, -⟩ := leadingOptional?_eq_some.mp h
    obtain ⟨hv, hrest⟩ := hts.of_cons
    have hnames := hts.nodup
    rw [namesOf_cons] at hnames ⊢
    exact (writes_leading ignoreCase (hv.proper v (by simp))).append
      (writes_optional ignoreCase hrest) (head?_optionalSource rest) hnames
  · have hsplit := List.take_append_drop (firstOptional ts) ts
    rw [← hsplit] at hts
    obtain ⟨hfirst, hlast⟩ := hts.of_append
    have hnames := hts.nodup
    rw [namesOf_append] at hnames
    have h := (writes_tokens ignoreCase hfirst).append (writes_optional ignoreCase hlast)
      (head?_optionalSource _) hnames
    rwa [← namesOf_append, hsplit] at h

/-- **The source of a template is read as the template means it.** -/
theorem read_regexSource (ignoreCase : Bool) {ts : List Token} (hts : WellNamed ts) :
    Regex.read (.initial ignoreCase) (regexSource ts) = .ok (templatePart ignoreCase ts) := by
  rw [regexSource_eq]
  exact Regex.read_anchored (writes_body ignoreCase hts) (head?_bodySource ts) hts.nodup

/-- The source of a template is refused only for its depth or its size. -/
theorem build_regexSource (ignoreCase : Bool) {ts : List Token} (hts : WellNamed ts) :
    Regex.build (regexSource ts) ignoreCase =
      if Regex.depthLimit < (templatePart ignoreCase ts).depth then .error .nestedTooDeeply
      else if (templatePart ignoreCase ts).regex.fits then .ok (templatePart ignoreCase ts).regex
      else .error .tooLarge :=
  Regex.Engine.build_of_read (read_regexSource ignoreCase hts)

/-! ### Templates ready for matching -/

/-- A template without variables, ready for matching. -/
def Compiled.plain (pattern : Text) (ts : List Token) (caseSensitive : Bool) : Compiled :=
  { pattern := pattern, tokens := ts, names := [], lead := none, matcher := none
    caseSensitive := caseSensitive }

/-- A template with variables, ready for matching. -/
def Compiled.ofTokens (pattern : Text) (ts : List Token) (caseSensitive : Bool) : Compiled :=
  { pattern := pattern, tokens := ts, names := namesOf ts, lead := leadOf ts
    matcher := some ⟨regexSource ts, (templatePart (!caseSensitive) ts).regex⟩
    caseSensitive := caseSensitive }

/-- Whether the expression of a template stays within the limits of depth and size. -/
def withinLimits (ignoreCase : Bool) (ts : List Token) : Bool :=
  (templatePart ignoreCase ts).depth ≤ Regex.depthLimit && (templatePart ignoreCase ts).regex.fits

/-- **When a scanned template is ready for matching, and what it is then.** -/
theorem compilePieces_eq {template pattern : Text} {ps : List Piece}
    (hscan : scan template = .ok ps) (caseSensitive : Bool) (anything : List Text) :
    compilePieces pattern ps caseSensitive anything =
      if namesOf (tokenize ps anything) = [] then
        .ok (.plain pattern (tokenize ps anything) caseSensitive)
      else if withinLimits (!caseSensitive) (tokenize ps anything) then
        .ok (.ofTokens pattern (tokenize ps anything) caseSensitive)
      else .error (.uncompilable pattern) := by
  have hnames : namesOf (tokenize ps anything) = slotNames ps :=
    namesOf_ofPieces anything [] ps
  have hbuild := build_regexSource (!caseSensitive) (wellNamed_of_scan hscan anything)
  simp only [compilePieces, ← hnames, hbuild, List.isEmpty_iff]
  split
  · rename_i hnil
    rw [Compiled.plain, hnil]
  · simp only [withinLimits, Bool.and_eq_true, decide_eq_true_eq]
    by_cases hdepth : Regex.depthLimit < (templatePart (!caseSensitive) (tokenize ps anything)).depth
    · simp [hdepth, Nat.not_le.mpr hdepth]
    · by_cases hfits : (templatePart (!caseSensitive) (tokenize ps anything)).regex.fits = true <;>
        simp [hdepth, hfits, Nat.le_of_not_lt hdepth, Compiled.ofTokens]

end UriRouting.Template
