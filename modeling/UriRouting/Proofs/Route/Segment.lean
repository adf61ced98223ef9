import UriRouting.Proofs.Route.Matching
import UriRouting.Proofs.Template.Filling
import UriRouting.Proofs.Template.Footprint
import UriRouting.Proofs.Template.Segment
import UriRouting.Proofs.Uri.Charwise
import UriRouting.Proofs.Uri.Comparison
import UriRouting.Proofs.Uri.Path

/-!
# UriRouting.Proofs.Route.Segment

A route without variables, and the route with one more segment after the same text, which is a
variable. The first one compares its template with the path by `Uri.eqFolded`. The second one
compares the text with the start of the path by `Uri.startsWithFolded`, and once more by its
expression (`tryMatch_segment_iff`).

* `SegmentPair` — two such routes;
* `static_iff_segment` — they agree, if characters with the same lower-case form fold alike;
* `static_not_segment` — a text can be too long for the expression, and then they do not.
-/

namespace UriRouting

open Template (Spells sameChar segmentTokens segmentTemplate slotNames Piece Slot)

/-! ### Comparisons -/

/-- Texts that are equal up to case are spelled alike, if their characters with the same
lower-case form fold alike. -/
theorem Template.spells_of_forall₂ {caseSensitive : Bool} {s t : Text}
    (hfold : caseSensitive = false → ∀ c ∈ s, ∀ d ∈ t, Uri.sameLowercase c d = true →
      sameChar false c d = true)
    (h : List.Forall₂ (fun c d => Uri.sameFolded caseSensitive c d = true) s t) :
    Spells caseSensitive s t := by
  rw [List.forall₂_iff_zip] at h
  refine List.forall₂_iff_zip.mpr ⟨h.1, fun {c d} hmem => ?_⟩
  have hsame := h.2 hmem
  cases caseSensitive with
  | true => exact hsame
  | false =>
      obtain ⟨hc, hd⟩ := List.of_mem_zip hmem
      exact hfold rfl c hc d hd hsame

/-- A spelling of a text that starts like it is equal to it. -/
theorem Uri.startsWithFolded_append_iff {caseSensitive : Bool} {lead stem : Text}
    (hlength : lead.length = stem.length) (rest : Text) :
    Uri.startsWithFolded (stem ++ rest) lead caseSensitive = true ↔
      Uri.eqFolded lead stem caseSensitive = true := by
  rw [Uri.startsWithFolded_iff, Uri.eqFolded_iff, hlength, List.take_left]
  have hflip {s t : Text}
      (h : List.Forall₂ (fun c d => Uri.sameFolded caseSensitive c d = true) s t) :
      List.Forall₂ (fun c d => Uri.sameFolded caseSensitive c d = true) t s :=
    (h.imp fun c d hsame => by rwa [flip, Uri.sameFolded_comm]).flip
  exact ⟨hflip, hflip⟩

/-- The path before its last segment, which is nothing if there is no other one. -/
def Uri.stemOf (path : Text) : Text :=
  if path = [] then [] else '/' :: path

/-- A path in normal form stays so with one more segment. -/
theorem Uri.normalize_segment {path value : Text}
    (hpath : Uri.normalize ('/' :: path) = '/' :: path) (hne : value ≠ [])
    (hslash : '/' ∉ value) :
    Uri.normalize ('/' :: path ++ '/' :: value) = Uri.stemOf path ++ '/' :: value := by
  have hfirst : value.head? ≠ some '/' := fun h => hslash (List.mem_of_mem_head? h)
  have hlast : value.getLast? ≠ some '/' := fun h => hslash (List.mem_of_getLast? h)
  by_cases hroot : path = []
  · subst hroot
    rw [Uri.normalize_eq, List.singleton_append, Uri.trimSlashes_cons_slash,
      Uri.trimSlashes_cons_slash, Uri.trimSlashes_eq_self hfirst hlast]
    rfl
  · have hhead : path.head? ≠ some '/' := by
      rw [Uri.normalize_eq, Uri.trimSlashes_cons_slash] at hpath
      rw [← List.tail_eq_of_cons_eq hpath]
      exact Uri.head?_trimSlashes path
    have hend : path ++ '/' :: value = (path ++ ['/']) ++ value := by simp
    rw [Uri.stemOf, if_neg hroot, List.cons_append]
    refine Uri.normalize_cons_slash ?_ ?_
    · rwa [List.head?_append_of_ne_nil _ hroot]
    · rwa [hend, List.getLast?_append_of_ne_nil _ hne]

/-- A text and one segment are in normal form, if the text is and is not the root. -/
theorem Uri.normalize_segmentTemplate {text : Text} (hfirst : text.head? ≠ some '/')
    (hne : text ≠ []) (name : Text) :
    Uri.normalize (segmentTemplate ('/' :: text) name) = segmentTemplate ('/' :: text) name := by
  have hwrite : '/' :: Slot.write ⟨name, false⟩ = ('/' :: '{' :: name) ++ ['}'] := rfl
  rw [segmentTemplate, hwrite, List.cons_append]
  refine Uri.normalize_cons_slash ?_ ?_
  · rwa [List.head?_append_of_ne_nil _ hne]
  · rw [← List.append_assoc, List.getLast?_concat]
    decide

namespace Route

variable {γ γ' : Type}

/-- A route without variables matches the paths that are equal to its template up to case. -/
theorem isSome_tryMatch_static {r : Route γ} (hr : r.Reachable)
    (hopen : r.constraints.isOpen = true) (hrules : r.rules.isEmpty = true)
    (hplain : slotNames (Piece.scan r.uri) = []) (request : Request) :
    (r.tryMatch request).isSome = true ↔
      Uri.eqFolded r.uri (Uri.normalize request.path) r.caseSensitive = true := by
  have hnames : Template.namesOf r.tokens = [] := by
    rw [tokens, hr.pieces_eq, Template.tokenize, Template.namesOf_ofPieces, hplain]
  rw [tryMatch_static hr hopen hrules hnames]
  split
  · rename_i h
    exact iff_of_true rfl h
  · rename_i h
    exact iff_of_false (by decide) h

/-- The tokens of a route with a text and one segment. -/
theorem tokens_of_segment {r : Route γ} (hr : r.Reachable) {lead name : Text}
    (huri : r.uri = segmentTemplate lead name) (hplain : slotNames (Piece.scan lead) = [])
    (hlead : lead ≠ []) (hname : name ≠ []) (hword : name.all isAsciiWordCharacter = true)
    (hanything : name ∉ r.anything) : r.tokens = segmentTokens lead name := by
  rw [tokens, hr.pieces_eq, huri]
  exact Template.tokenize_segmentTemplate hplain hlead hname hword hanything

/-- **What a route with a text and one segment makes of a path**: the value comes after the
last slash, and what is before it has to pass both comparisons. -/
theorem tryMatch_segment_iff {r : Route γ} (hr : r.Reachable)
    (hopen : r.constraints.isOpen = true) (hrules : r.rules.isEmpty = true) {lead name : Text}
    (htokens : r.tokens = segmentTokens lead name) {request : Request} {stem value : Text}
    (hpath : Uri.normalize request.path = stem ++ '/' :: value) (hne : value ≠ [])
    (hslash : '/' ∉ value) {p : Parameters} :
    r.tryMatch request = some p ↔
      (∃ c, r.compile = .ok c) ∧ Spells r.caseSensitive lead stem ∧
        Uri.eqFolded lead stem r.caseSensitive = true ∧ p = ⟨[(name, some value)]⟩ := by
  have hvars : Template.namesOf r.tokens ≠ [] := by
    rw [htokens]
    exact List.cons_ne_nil _ _
  have hlead : (Template.leadOf (segmentTokens lead name)).all
      (Uri.startsWithFolded (stem ++ '/' :: value) · r.caseSensitive) =
        Uri.startsWithFolded (stem ++ '/' :: value) lead r.caseSensitive := rfl
  have hreport : Template.report (segmentTokens lead name) [some value] =
      [(⟨some '/', .segment none, name, false⟩, some value)] := by
    simp [Template.report, segmentTokens, Template.reported, hne]
  have hparameters : parametersOf (segmentTokens lead name) [some value] =
      ⟨[(name, some value)]⟩ := by
    rw [parametersOf, hreport]
    rfl
  rw [tryMatch_variables hr hopen hrules hvars, htokens, hpath, hlead]
  constructor
  · intro h
    obtain ⟨c, hc, h⟩ := Option.bind_eq_some_iff.mp h
    split at h
    · rename_i hstarts
      obtain ⟨values, hhead, h⟩ := Option.bind_eq_some_iff.mp h
      obtain ⟨hspells, rfl⟩ := (Template.head?_splits_segmentTokens hne hslash).mp hhead
      rw [hparameters] at h
      refine ⟨⟨c, ?_⟩, hspells,
        (Uri.startsWithFolded_append_iff hspells.length_eq _).mp hstarts, ?_⟩
      · cases hcompile : r.compile with
        | error e =>
            rw [hcompile] at hc
            cases hc
        | ok c' =>
            rw [hcompile] at hc
            cases hc
            rfl
      · split at h
        · cases h
          rfl
        · cases h
    · cases h
  · rintro ⟨⟨c, hcompile⟩, hspells, heq, rfl⟩
    have hhead : (Template.splits r.caseSensitive (segmentTokens lead name)
        (stem ++ '/' :: value)).head? = some [some value] :=
      (Template.head?_splits_segmentTokens hne hslash).mpr ⟨hspells, rfl⟩
    have hstarts := (Uri.startsWithFolded_append_iff hspells.length_eq ('/' :: value)).mpr heq
    rw [hcompile, Except.toOption, Option.bind_some, if_pos hstarts, hhead, Option.bind_some,
      hreport, hparameters]
    exact if_pos rfl

/-- A route without variables, and the route with the same text and one more segment, which is a
variable that takes a single segment. Neither has constraints or rules. -/
structure SegmentPair (text name : Text) (r : Route γ) (r' : Route γ') : Prop where
  /-- The routes are made by the functions for routes. -/
  reachable : r.Reachable ∧ r'.Reachable
  /-- There are no constraints. -/
  isOpen : r.constraints.isOpen = true ∧ r'.constraints.isOpen = true
  /-- There are no rules. -/
  isEmpty : r.rules.isEmpty = true ∧ r'.rules.isEmpty = true
  /-- Both regard case, or neither does. -/
  caseSensitive : r'.caseSensitive = r.caseSensitive
  /-- There is a text, and it has no variables. -/
  isText : text ≠ [] ∧ slotNames (Piece.scan text) = []
  /-- The name is one for a variable. -/
  isName : name ≠ [] ∧ name.all isAsciiWordCharacter = true
  /-- The variable does not take more than one segment. -/
  not_mem_anything : name ∉ r'.anything
  /-- The template of the first route. -/
  uri : r.uri = '/' :: text
  /-- The template of the second route. -/
  uri_segment : r'.uri = segmentTemplate ('/' :: text) name

namespace SegmentPair

variable {text name : Text} {r : Route γ} {r' : Route γ'}

theorem plain (h : SegmentPair text name r r') : slotNames (Piece.scan ('/' :: text)) = [] :=
  (Template.slotNames_scan_cons (by decide) text).trans h.isText.2

theorem plain_uri (h : SegmentPair text name r r') : slotNames (Piece.scan r.uri) = [] := by
  rw [h.uri]
  exact h.plain

theorem tokens_eq (h : SegmentPair text name r r') :
    r'.tokens = segmentTokens ('/' :: text) name :=
  tokens_of_segment h.reachable.2 h.uri_segment h.plain (List.cons_ne_nil _ _) h.isName.1 h.isName.2
    h.not_mem_anything

end SegmentPair

/-- **The two routes agree.** A route without variables matches a path if and only if the route
with one more segment, which is a variable, matches the path with a value behind it, and the
value is reported. The second route has to be one that can be compiled. Without regard to case,
characters of the two texts that have the same lower-case form have to fold alike. -/
theorem static_iff_segment {text name : Text} {r : Route γ} {r' : Route γ'}
    (h : SegmentPair text name r r') (hcompile : ∃ c, r'.compile = .ok c) {path value : Text}
    (hnormal : Uri.normalize ('/' :: path) = '/' :: path) (hvalue : value ≠ [])
    (hslash : '/' ∉ value)
    (hfold : r.caseSensitive = false → ∀ c ∈ text, ∀ d ∈ path, Uri.sameLowercase c d = true →
      sameChar false c d = true)
    {request request' : Request} (hpath : request.path = '/' :: path)
    (hpath' : request'.path = '/' :: path ++ '/' :: value) :
    ((r.tryMatch request).isSome = true ↔ (r'.tryMatch request').isSome = true) ∧
      ∀ p, r'.tryMatch request' = some p → p = ⟨[(name, some value)]⟩ := by
  have hsegment (p : Parameters) := tryMatch_segment_iff h.reachable.2 h.isOpen.2 h.isEmpty.2
    h.tokens_eq (p := p) (hpath' ▸ Uri.normalize_segment hnormal hvalue hslash) hvalue hslash
  have hstatic := isSome_tryMatch_static h.reachable.1 h.isOpen.1 h.isEmpty.1 h.plain_uri request
  rw [hpath, hnormal, h.uri] at hstatic
  refine ⟨?_, fun p hp => ((hsegment p).mp hp).2.2.2⟩
  rw [hstatic, Option.isSome_iff_exists]
  simp only [hsegment, h.caseSensitive, iff_true_intro hcompile, true_and, exists_and_left,
    exists_eq, and_true]
  by_cases hroot : path = []
  · -- the root has no segment for the text, whatever comes after it
    subst hroot
    refine iff_of_false (fun heq => ?_) (fun heq => by cases heq.1)
    have hsame := Uri.eqFolded_iff.mp heq
    rw [List.forall₂_cons] at hsame
    exact h.isText.1 (List.forall₂_nil_right_iff.mp hsame.2)
  · rw [Uri.stemOf, if_neg hroot]
    refine ⟨fun heq => ⟨?_, heq⟩, fun heq => heq.2⟩
    have hsame := Uri.eqFolded_iff.mp heq
    rw [List.forall₂_cons] at hsame
    exact .cons (Template.sameChar_self _ _) (Template.spells_of_forall₂ hfold hsame.2)

/-- A text that is not made of ASCII, in capitals and in small letters. -/
theorem static_iff_segment_capitals :
    ∃ r r' : Route Unit, SegmentPair ['É', 'a'] ['x'] r r' ∧ r.caseSensitive = false ∧
      (r.tryMatch { path := ['/', 'é', 'A'] }).isSome = true ∧
      r'.tryMatch { path := ['/', 'é', 'A', '/', '7'] } = some ⟨[(['x'], some ['7'])]⟩ := by
  have hr : Reachable (ofUri ⟨1⟩ ['/', 'É', 'a'] ()) := reachable_ofUri ⟨1⟩ () (by decide +kernel)
  have hr' : Reachable (ofUri ⟨2⟩ (segmentTemplate ['/', 'É', 'a'] ['x']) ()) :=
    reachable_ofUri ⟨2⟩ () (by decide +kernel)
  have hpair : SegmentPair ['É', 'a'] ['x'] (ofUri ⟨1⟩ ['/', 'É', 'a'] ())
      (ofUri ⟨2⟩ (segmentTemplate ['/', 'É', 'a'] ['x']) ()) :=
    ⟨⟨hr, hr'⟩, ⟨rfl, rfl⟩, ⟨rfl, rfl⟩, rfl, by decide, by decide, List.not_mem_nil,
      by decide +kernel, by decide +kernel⟩
  have hcompile : ∃ c, (ofUri ⟨2⟩ (segmentTemplate ['/', 'É', 'a'] ['x']) ()).compile = .ok c :=
    (hr'.compiles_iff (by decide +kernel)).mpr (by decide +kernel)
  have hnormal : Uri.normalize ['/', 'é', 'A'] = ['/', 'é', 'A'] := by decide
  have hfold : ∀ c ∈ ['É', 'a'], ∀ d ∈ ['é', 'A'], Uri.sameLowercase c d = true →
      sameChar false c d = true := by
    have hpairs : Uri.sameLowercase 'É' 'A' = false ∧ Uri.sameLowercase 'a' 'é' = false := by
      decide +kernel
    have hsame : sameChar false 'É' 'é' = true ∧ sameChar false 'a' 'A' = true := by
      decide +kernel
    simp [hpairs, hsame]
  have hagree := static_iff_segment hpair hcompile hnormal (List.cons_ne_nil '7' []) (by decide)
    (fun _ => hfold) (show Request.path { path := ['/', 'é', 'A'] } = _ from rfl)
    (show Request.path { path := ['/', 'é', 'A', '/', '7'] } = _ from rfl)
  have hmatched : (tryMatch (ofUri ⟨1⟩ ['/', 'É', 'a'] ())
      { path := ['/', 'é', 'A'] }).isSome = true := by
    decide +kernel
  obtain ⟨p, hp⟩ := Option.isSome_iff_exists.mp (hagree.1.mp hmatched)
  exact ⟨_, _, hpair, rfl, hmatched, hp.trans (congrArg some (hagree.2 p hp))⟩

/-- There are characters with the same lower-case form that do not fold alike: the two tables
are not of the same version. -/
example : Uri.sameLowercase (Char.ofNat 0xA7CE) (Char.ofNat 0xA7CF) = true ∧
    sameChar false (Char.ofNat 0xA7CE) (Char.ofNat 0xA7CF) = false := by
  decide +kernel

/-- Where the expression is over a limit, the route with one more segment matches nothing, but a
route without variables has nothing to compile. -/
theorem exists_static_not_segment {text : Text} (hne : text ≠ []) (hfirst : text.head? ≠ some '/')
    (hlast : text.getLast? ≠ some '/') (hplain : slotNames (Piece.scan text) = [])
    (hlong : ¬ Template.withinLimits true (segmentTokens ('/' :: text) ['x']) = true) :
    ∃ r r' : Route Unit, SegmentPair text ['x'] r r' ∧ r.caseSensitive = false ∧
      (r.tryMatch { path := '/' :: text }).isSome = true ∧
      r'.tryMatch { path := '/' :: text ++ '/' :: ['v'] } = none := by
  have hnormal : Uri.normalize ('/' :: text) = '/' :: text := Uri.normalize_cons_slash hfirst hlast
  have hnormal' := Uri.normalize_segmentTemplate hfirst hne ['x']
  have hplain' : slotNames (Piece.scan ('/' :: text)) = [] :=
    (Template.slotNames_scan_cons (by decide) text).trans hplain
  have hslots := Template.slotNames_segmentTemplate hplain' (List.cons_ne_nil 'x' []) (by decide)
  have hr : Reachable (ofUri ⟨1⟩ ('/' :: text) ()) := by
    refine reachable_ofUri ⟨1⟩ () ?_
    rw [hnormal, Template.scan, hplain']
    rfl
  have hr' : Reachable (ofUri ⟨2⟩ (segmentTemplate ('/' :: text) ['x']) ()) := by
    refine reachable_ofUri ⟨2⟩ () ?_
    rw [hnormal', Template.scan, hslots]
    rfl
  have hpair : SegmentPair text ['x'] (ofUri ⟨1⟩ ('/' :: text) ())
      (ofUri ⟨2⟩ (segmentTemplate ('/' :: text) ['x']) ()) :=
    ⟨⟨hr, hr'⟩, ⟨rfl, rfl⟩, ⟨rfl, rfl⟩, rfl, ⟨hne, hplain⟩, by decide, List.not_mem_nil, hnormal,
      hnormal'⟩
  refine ⟨_, _, hpair, rfl, ?_, ?_⟩
  · exact (isSome_tryMatch_static hr rfl rfl hpair.plain_uri _).mpr (Uri.eqFolded_self _ _)
  · refine Option.eq_none_iff_forall_ne_some.mpr fun p hp => ?_
    have hvars := (congrArg Template.namesOf hpair.tokens_eq).trans_ne (List.cons_ne_nil _ _)
    have hslash : '/' ∉ ['v'] := by decide
    have hpath := Uri.normalize_segment hnormal (List.cons_ne_nil _ _) hslash
    obtain ⟨hcompile, -⟩ := (tryMatch_segment_iff hr' rfl rfl hpair.tokens_eq hpath
      (List.cons_ne_nil _ _) hslash).mp hp
    rw [hr'.compiles_iff hvars, hpair.tokens_eq] at hcompile
    exact hlong hcompile

/-- Without regard to case each `k` takes the space for its three forms, and the expression for
so many of them is over the limit. -/
theorem not_withinLimits_segment {n : Nat} (hn : Regex.sizeLimit < n * 168) (name : Text) :
    ¬ Template.withinLimits true (segmentTokens ('/' :: List.replicate n 'k') name) = true := by
  intro h
  have hsize : Regex.setSize .forward (Regex.literalSet (.initial true) 'k') = 168 := by
    decide +kernel
  have hsum := Template.sum_setSize_le_of_withinLimits h
  rw [List.map_cons, List.map_replicate, List.sum_cons, List.sum_replicate_nat, hsize] at hsum
  omega

theorem exists_static_not_segment_replicate {n : Nat} (hn : Regex.sizeLimit < n * 168) :
    ∃ (text : Text) (r r' : Route Unit), text = List.replicate n 'k' ∧
      SegmentPair text ['x'] r r' ∧ r.caseSensitive = false ∧
      Uri.normalize ('/' :: text) = '/' :: text ∧
      (∀ c ∈ text, ∀ d ∈ text, Uri.sameLowercase c d = true → sameChar false c d = true) ∧
      (r.tryMatch { path := '/' :: text }).isSome = true ∧
      r'.tryMatch { path := '/' :: text ++ '/' :: ['v'] } = none := by
  have hletter : ∀ c ∈ List.replicate n 'k', c = 'k' := fun c => List.eq_of_mem_replicate
  have hne : List.replicate n 'k' ≠ [] :=
    List.ne_nil_of_length_pos (by rw [List.length_replicate]; omega)
  have hslash : '/' ∉ List.replicate n 'k' := fun h => absurd (hletter _ h) (by decide)
  have hbrace : '{' ∉ List.replicate n 'k' := fun h => absurd (hletter _ h) (by decide)
  have hfirst := fun h => hslash (List.mem_of_mem_head? h)
  have hlast := fun h => hslash (List.mem_of_getLast? h)
  have hplain : slotNames (Piece.scan (List.replicate n 'k')) = [] :=
    (congrArg slotNames (Template.scan_of_not_mem hbrace)).trans (Template.slotNames_chars _)
  have hfold : ∀ c ∈ List.replicate n 'k', ∀ d ∈ List.replicate n 'k',
      Uri.sameLowercase c d = true → sameChar false c d = true := by
    intro c hc d hd _
    rw [hletter c hc, hletter d hd, Template.sameChar_self]
  obtain ⟨r, r', hpair, hcase, hroutes⟩ :=
    exists_static_not_segment hne hfirst hlast hplain (not_withinLimits_segment hn ['x'])
  exact ⟨_, r, r', rfl, hpair, hcase, Uri.normalize_cons_slash hfirst hlast, hfold, hroutes⟩

/-- **A text that is too long for an expression**, though its characters fold as they should. -/
theorem static_not_segment :
    ∃ (text : Text) (r r' : Route Unit), text = List.replicate 100000 'k' ∧
      SegmentPair text ['x'] r r' ∧ r.caseSensitive = false ∧
      Uri.normalize ('/' :: text) = '/' :: text ∧
      (∀ c ∈ text, ∀ d ∈ text, Uri.sameLowercase c d = true → sameChar false c d = true) ∧
      (r.tryMatch { path := '/' :: text }).isSome = true ∧
      r'.tryMatch { path := '/' :: text ++ '/' :: ['v'] } = none :=
  exists_static_not_segment_replicate (by decide)

end Route

end UriRouting
