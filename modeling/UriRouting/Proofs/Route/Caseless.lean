import UriRouting.Proofs.Route.Matching
import UriRouting.Proofs.Template.Caseless
import UriRouting.Proofs.Uri.Path

/-!
# UriRouting.Proofs.Route.Caseless

Two requests whose paths differ in the case of letters of ASCII only, on a route that does not
regard case and has no rules.

* `SameRange` — two values that lie at the same bytes of two paths;
* `SameMatch` — two matches that have the same captures, each read from its own path;
* `tryMatch_caseless` — the route refuses both requests, or it has the same match for them.
-/

namespace UriRouting

/-! ### Texts up to case -/

theorem utf8Size_toLower (c : Char) : c.toLower.utf8Size = c.utf8Size := by
  rcases Nat.lt_or_ge c.toNat 0x80 with hc | hc
  · exact Unicode.of_isAscii (P := fun c => c.toLower.utf8Size = c.utf8Size) (by decide +kernel) hc
  · rw [Unicode.toLower_eq_self hc]

theorem Text.utf8Size_lower (t : Text) : Text.utf8Size t.lower = Text.utf8Size t := by
  induction t with
  | nil => rfl
  | cons c t ih =>
      rw [Text.lower, List.map_cons, Text.utf8Size_cons, Text.utf8Size_cons, utf8Size_toLower]
      exact congrArg _ ih

theorem Uri.trimSlashes_lower (path : Text) :
    Uri.trimSlashes path.lower = Text.lower (Uri.trimSlashes path) := by
  have hslash : ((· == '/') ∘ Char.toLower) = (· == '/') := by
    funext c
    rw [Function.comp, Bool.eq_iff_iff, beq_iff_eq, beq_iff_eq]
    exact Template.toLower_eq_separator_iff (by decide) c
  simp only [Uri.trimSlashes, Text.strip, Text.stripRight, Text.lower, List.dropWhile_map, hslash,
    ← List.map_reverse]

/-- The normal form of a path in small letters. -/
theorem Uri.normalize_lower (path : Text) :
    Uri.normalize path.lower = Text.lower (Uri.normalize path) := by
  rw [Uri.normalize_eq, Uri.normalize_eq, Uri.trimSlashes_lower]
  rfl

/-! ### Ranges -/

/-- Two values that lie at the same bytes of two paths and are equal up to the case of letters
of ASCII, or two that are missing. -/
inductive SameRange (path path' : Text) : Option Text → Option Text → Prop where
  | absent : SameRange path path' none none
  | value {before piece after before' piece' after' : Text}
      (hpath : path = before ++ piece ++ after) (hpath' : path' = before' ++ piece' ++ after')
      (hstart : before.utf8Size = before'.utf8Size) (hsize : piece.utf8Size = piece'.utf8Size)
      (hcase : Text.eqIgnoreCase piece piece' = true) :
      SameRange path path' (some piece) (some piece')

/-- Two paths that are equal in small letters have equal parts at equal places. -/
theorem sameRange_slice {path path' : Text} (h : path.lower = path'.lower) (start stop : Nat) :
    SameRange path path' (some (path.slice start stop)) (some (path'.slice start stop)) := by
  have hcut (t : Text) : t = t.take start ++ Text.slice t start stop ++
      (t.drop start).drop (stop - start) := by
    rw [Text.slice, List.append_assoc, List.take_append_drop, List.take_append_drop]
  have hstart : Text.lower (path.take start) = Text.lower (path'.take start) := by
    simpa only [Text.lower, List.map_take] using congrArg (List.take start) h
  have hpiece : Text.lower (path.slice start stop) = Text.lower (path'.slice start stop) := by
    rw [← Template.slice_lower, ← Template.slice_lower, h]
  refine .value (hcut path) (hcut path') ?_ ?_ ?_
  · rw [← Text.utf8Size_lower, hstart, Text.utf8Size_lower]
  · rw [← Text.utf8Size_lower, hpiece, Text.utf8Size_lower]
  · rw [Text.eqIgnoreCase, hpiece, beq_self_eq_true]

/-- A value that captures mark lies at the same bytes of both paths. -/
theorem sameRange_text? {path path' : Text} (h : path.lower = path'.lower)
    (caps : Regex.Captures) (name : Text) :
    SameRange path path' ((caps.text? name path).filter (!·.isEmpty))
      ((caps.text? name path').filter (!·.isEmpty)) := by
  unfold Regex.Captures.text?
  cases caps.find? (·.name == name) with
  | none => exact .absent
  | some c =>
      cases hstart : c.start with
      | none =>
          rw [Option.bind_some, Option.bind_some, hstart]
          exact .absent
      | some start =>
          have hpiece : Text.lower (path.slice start c.stop) =
              Text.lower (path'.slice start c.stop) := by
            rw [← Template.slice_lower, ← Template.slice_lower, h]
          have hempty : (Text.slice path start c.stop).isEmpty =
              (Text.slice path' start c.stop).isEmpty := by
            simpa only [Text.lower, List.isEmpty_map] using congrArg List.isEmpty hpiece
          rw [Option.bind_some, Option.bind_some, hstart, Option.map_some, Option.map_some,
            Option.filter_some, Option.filter_some, hempty]
          split
          · exact sameRange_slice h start c.stop
          · exact .absent

/-- Small letters are as good as any. -/
theorem Template.isSatisfied_lowerValue (entry : Template.Variable × Option Text) :
    Template.isSatisfied (Template.lowerValue entry) = Template.isSatisfied entry := by
  simp [Template.isSatisfied, Template.lowerValue]

namespace Route

open Template (namesOf variablesOf isSatisfied Variable)

variable {γ : Type}

/-- The parameters that captures mark in a path. -/
def markedParameters (ts : List Template.Token) (caps : Regex.Captures) (path : Text) :
    Parameters :=
  ⟨(variablesOf ts).map fun v => (v.name, (caps.text? v.name path).filter (!·.isEmpty))⟩

/-- Two matches with the same captures, each read from its own path. -/
structure SameMatch (ts : List Template.Token) (path path' : Text) (p p' : Parameters) : Prop where
  /-- One and the same outcome of the expression marks the values of both. -/
  marked : ∃ caps, p = markedParameters ts caps path ∧ p' = markedParameters ts caps path'
  /-- They have the same names in the same order, and under each of them the same bytes of the
  paths, or nothing. -/
  ranges : List.Forall₂ (fun entry entry' => entry.1 = entry'.1 ∧
    SameRange path path' entry.2 entry'.2) p.entries p'.entries

theorem sameMatch_markedParameters {path path' : Text} (h : path.lower = path'.lower)
    (ts : List Template.Token) (caps : Regex.Captures) :
    SameMatch ts path path' (markedParameters ts caps path) (markedParameters ts caps path') where
  marked := ⟨caps, rfl, rfl⟩
  ranges := by
    unfold markedParameters
    rw [List.forall₂_map_left_iff, List.forall₂_map_right_iff, List.forall₂_same]
    exact fun v _ => ⟨rfl, sameRange_text? h caps v.name⟩

/-- What a route without rules makes of the captures that its template finds. -/
theorem tryMatch_eq_found {r : Route γ} (hr : r.Reachable) (hrules : r.rules.isEmpty = true)
    (request : Request) :
    r.tryMatch request = if r.constraints.admits request then
        r.compile.toOption.bind fun c =>
          (c.found (Uri.normalize request.path)).bind fun caps =>
            if (c.readCaptures (Uri.normalize request.path) caps).all isSatisfied then
              some (markedParameters r.tokens caps (Uri.normalize request.path))
            else none
      else none := by
  rw [tryMatch]
  congr 1
  cases hcompile : r.compile with
  | error e => rfl
  | ok c =>
      have htokens : c.tokens = r.tokens ∧ (c.matcher = none → variablesOf c.tokens = []) := by
        rcases hr.eq_of_compile hcompile with ⟨hnames, rfl⟩ | rfl
        · exact ⟨rfl, fun _ => List.map_eq_nil_iff.mp hnames⟩
        · exact ⟨rfl, fun h => by cases h⟩
      rw [Except.toOption, Option.bind_some, Option.bind_some,
        Template.captures_eq_found htokens.2, Option.bind_map]
      congr 1
      funext caps
      rw [Function.comp, readParameters_of_isEmpty hrules]
      split
      · rw [Option.map_some, markedParameters, ← htokens.1, Template.Compiled.readCaptures,
          List.map_map]
        rfl
      · rfl

/-- **A route that does not regard case does not see the case of letters of ASCII.** Two requests
that differ in it only are both refused, or they have the same match, if the route has no
rules. -/
theorem tryMatch_caseless {r : Route γ} (hr : r.Reachable) (hcase : r.caseSensitive = false)
    (hrules : r.rules.isEmpty = true) {request request' : Request}
    (hpath : Text.eqIgnoreCase request.path request'.path = true)
    (hrest : request' = { request with path := request'.path }) :
    (r.tryMatch request = none ∧ r.tryMatch request' = none) ∨
      ∃ p p', r.tryMatch request = some p ∧ r.tryMatch request' = some p' ∧
        SameMatch r.tokens (Uri.normalize request.path) (Uri.normalize request'.path) p p' := by
  have hlower : Text.lower (Uri.normalize request.path) =
      Text.lower (Uri.normalize request'.path) := by
    rw [← Uri.normalize_lower, ← Uri.normalize_lower, beq_iff_eq.mp hpath]
  have hadmits : r.constraints.admits request' = r.constraints.admits request := by
    rw [hrest]
    rfl
  rw [tryMatch_eq_found hr hrules request, tryMatch_eq_found hr hrules request', hadmits]
  generalize Uri.normalize request.path = path at hlower ⊢
  generalize Uri.normalize request'.path = path' at hlower ⊢
  by_cases hadmitted : r.constraints.admits request = true
  · rw [if_pos hadmitted, if_pos hadmitted]
    cases hcompile : r.compile with
    | error e => exact .inl ⟨rfl, rfl⟩
    | ok c =>
        have hwell : Template.WellNamed r.tokens :=
          Template.wellNamed_of_scan hr.coherent.scanned r.anything
        have hc : c = .plain r.uri r.tokens false ∨ c = .ofTokens r.uri r.tokens false := by
          rw [← hcase]
          exact (hr.eq_of_compile hcompile).imp_left fun h => h.2
        have hfound : c.found path' = c.found path := by
          rw [← Template.found_lower hwell hc, ← hlower, Template.found_lower hwell hc]
        rw [Except.toOption, Option.bind_some, Option.bind_some, hfound]
        cases c.found path with
        | none => exact .inl ⟨rfl, rfl⟩
        | some caps =>
            have hsatisfied : (c.readCaptures path' caps).all isSatisfied =
                (c.readCaptures path caps).all isSatisfied := by
              have hall (path : Text) : (c.readCaptures path.lower caps).all isSatisfied =
                  (c.readCaptures path caps).all isSatisfied := by
                rw [Template.readCaptures_lower, List.all_map]
                exact congrArg _ (funext Template.isSatisfied_lowerValue)
              rw [← hall path', ← hlower, hall path]
            rw [Option.bind_some, Option.bind_some, hsatisfied]
            split
            · exact .inr ⟨_, _, rfl, rfl, sameMatch_markedParameters hlower r.tokens caps⟩
            · exact .inl ⟨rfl, rfl⟩
  · rw [if_neg hadmitted, if_neg hadmitted]
    exact .inl ⟨rfl, rfl⟩

/-- The kelvin sign is no letter of ASCII, but it counts as the letter k on such a route. -/
theorem tryMatch_caseless_kelvin :
    ∃ r : Route Unit, r.Reachable ∧ r.caseSensitive = false ∧ r.rules.isEmpty = true ∧
      ∃ p p', r.tryMatch { path := ['/', Char.ofNat 0x212A, '/', 'a', 'B'] } = some p ∧
        r.tryMatch { path := ['/', Char.ofNat 0x212A, '/', 'A', 'b'] } = some p' ∧
        SameMatch r.tokens (Uri.normalize ['/', Char.ofNat 0x212A, '/', 'a', 'B'])
          (Uri.normalize ['/', Char.ofNat 0x212A, '/', 'A', 'b']) p p' := by
  have hr : Reachable (ofUri ⟨1⟩ "/k/{x}".toList ()) :=
    reachable_ofUri ⟨1⟩ () (by decide +kernel)
  have hmatched : (tryMatch (ofUri ⟨1⟩ "/k/{x}".toList ())
      { path := ['/', Char.ofNat 0x212A, '/', 'a', 'B'] }).isSome = true := by
    decide +kernel
  refine ⟨_, hr, rfl, rfl, ?_⟩
  have hpath : Text.eqIgnoreCase
      (Request.path { path := ['/', Char.ofNat 0x212A, '/', 'a', 'B'] })
      (Request.path { path := ['/', Char.ofNat 0x212A, '/', 'A', 'b'] }) = true := by
    decide +kernel
  rcases tryMatch_caseless hr rfl rfl hpath rfl with ⟨hnone, -⟩ | h
  · rw [hnone] at hmatched
    cases hmatched
  · exact h

end Route

end UriRouting
