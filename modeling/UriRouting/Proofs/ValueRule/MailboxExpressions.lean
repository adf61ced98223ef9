import UriRouting.Proofs.Regex.Language
import UriRouting.Proofs.ValueRule.Mailbox
import UriRouting.Regex.Build

/-!
# UriRouting.Proofs.ValueRule.MailboxExpressions

The two parts of a mail address as regular expressions, a local part with regard to case and a
domain without.

* `isMatch_localExpression`, `isMatch_domainExpression` — the expressions match the texts that are
  local parts and domains;
* `isMailbox_iff_isMatch` — a mail address is two texts around an at sign that the expressions
  match, within the limits of length;
* `isMailbox_iff_isAddress` — so the texts that are accepted by way of the expressions are those of
  the grammar of addresses.

A label without hyphens at its ends is a run of letters and digits and then more of them, each
after one hyphen or more (`mem_label_iff`). An expression that asks for such runs accepts the
marks of encoded labels, two hyphens after two letters, without a branch of their own.
-/

namespace UriRouting.ValueRule

open Regex
open Unicode (CharSet)
open scoped Computability

/-! ### The expressions -/

/-- The expression for local parts, as it is written. -/
def localSource : Text :=
  ("^[A-Za-z0-9!#$%&\x27*+/=?^_\x60\x7b|\x7d~-]+" ++
    "(?:\\.[A-Za-z0-9!#$%&\x27*+/=?^_\x60\x7b|\x7d~-]+)*$").toList

/-- The expression for domains, as it is written. -/
def domainSource : Text :=
  ("^(?:[a-z0-9]+(?:-+[a-z0-9]+)*\\.)+" ++
    "(?:[a-z][a-z0-9]*(?:-+[a-z0-9]+)*|xn--[a-z0-9]+)$").toList

/-- The characters of runs. -/
def runSet : CharSet :=
  .unions ([.range 'A' 'Z', .range 'a' 'z', .range '0' '9'] ++
    "!#$%&\x27*+/=?^_\x60\x7b|\x7d~-".toList.map fun c => .oneOf [c])

/-- The letters of domains. -/
def letterSet : CharSet :=
  .folded (.range 'a' 'z')

/-- The letters and digits of domains. -/
def labelSet : CharSet :=
  .unions [letterSet, .folded (.range '0' '9')]

/-- One or more characters of a set. -/
def oneOrMore (set : CharSet) : Regex :=
  rep (char set) 1 none true

/-- Letters and digits after hyphens. -/
def hyphened : Regex :=
  concat [oneOrMore (.oneOf ['-']), oneOrMore labelSet]

/-- A label of a domain. -/
def labelParts : List Regex :=
  [oneOrMore labelSet, rep hyphened 0 none true]

/-- The last label of a domain. -/
def lastLabel : Regex :=
  alt (concat [char letterSet, rep (char labelSet) 0 none true, rep hyphened 0 none true])
    (concat [chars [.oneOf ['x', 'X'], .oneOf ['n', 'N'], .oneOf ['-'], .oneOf ['-']],
      oneOrMore labelSet])

/-- A local part. -/
def localParts : List Regex :=
  [oneOrMore runSet, rep (concat [char (.oneOf ['.']), oneOrMore runSet]) 0 none true]

/-- A domain. -/
def domainParts : List Regex :=
  [rep (concat (labelParts ++ [char (.oneOf ['.'])])) 1 none true, lastLabel]

/-- The expression for local parts. -/
def localExpression : Regex :=
  concat (assert .textStart :: (localParts ++ [assert .textEnd]))

/-- The expression for domains. -/
def domainExpression : Regex :=
  concat (assert .textStart :: (domainParts ++ [assert .textEnd]))

/-- The expression for local parts is built of its text. -/
theorem build_localSource : build localSource false = .ok localExpression := by
  decide +kernel

/-- The expression for domains is built of its text, without regard to case. -/
theorem build_domainSource : build domainSource true = .ok domainExpression := by
  decide +kernel

/-! ### Their characters -/

theorem contains_range {first last c : Char} :
    (CharSet.range first last).contains c = true ↔
      first.toNat ≤ c.toNat ∧ c.toNat ≤ last.toNat := by
  simp [CharSet.range, CharSet.contains, Unicode.Table.contains, Unicode.Span.contains,
    Nat.mod_one]

theorem contains_capitals (c : Char) : (CharSet.range 'A' 'Z').contains c = c.isUpper := by
  rw [Bool.eq_iff_iff, contains_range]
  delta Char.isUpper
  simp [UInt32.le_iff_toNat_le]

theorem contains_smallLetters (c : Char) : (CharSet.range 'a' 'z').contains c = c.isLower := by
  rw [Bool.eq_iff_iff, contains_range]
  delta Char.isLower
  simp [UInt32.le_iff_toNat_le]

theorem contains_digits (c : Char) : (CharSet.range '0' '9').contains c = c.isDigit := by
  rw [Bool.eq_iff_iff, contains_range]
  delta Char.isDigit
  simp [UInt32.le_iff_toNat_le]

theorem contains_runSet (c : Char) : runSet.contains c = isLocalCharacter c := by
  have hmarks (marks : List Char) :
      (marks.map fun m => CharSet.oneOf [m]).any (·.contains c) = marks.elem c := by
    rw [Bool.eq_iff_iff]
    simp [CharSet.contains]
  have halphanum : (c.isUpper || (c.isLower || (c.isDigit || false))) = c.isAlphanum := by
    delta Char.isAlphanum Char.isAlpha
    simp [Bool.or_assoc]
  rw [runSet, CharSet.contains_unions, List.any_append, hmarks]
  simp only [List.any_cons, List.any_nil, contains_capitals, contains_smallLetters,
    contains_digits, halphanum]
  rfl

theorem contains_letterSet (c : Char) : letterSet.contains c = isDomainLetter c := by
  rw [Bool.eq_iff_iff, letterSet, Unicode.contains_folded_iff]
  simp only [contains_smallLetters]
  constructor
  · rintro ⟨d, hfold, hd⟩
    have halpha : d.isAlpha = true := by
      delta Char.isAlpha
      simp [hd]
    have hascii := isAscii_of_isAlpha halpha
    rw [isDomainLetter, ← hfold, Unicode.foldSimple_eq_toLower hascii]
    exact Unicode.of_isAscii (P := fun d => d.isLower = true → d.toLower.isAlpha = true)
      (by decide +kernel) hascii hd
  · intro h
    rcases isDomainLetter_iff.mp h with halpha | rfl | rfl
    · refine ⟨c.toLower, Unicode.foldSimple_toLower c, ?_⟩
      exact Unicode.of_isAscii (P := fun c => c.isAlpha = true → c.toLower.isLower = true)
        (by decide +kernel) (isAscii_of_isAlpha halpha) halpha
    · exact ⟨'s', by decide +kernel⟩
    · exact ⟨'k', by decide +kernel⟩

/-- Only digits fold like digits. -/
theorem contains_folded_digits (c : Char) :
    (CharSet.folded (.range '0' '9')).contains c = c.isDigit := by
  rw [Bool.eq_iff_iff, Unicode.contains_folded_iff]
  simp only [contains_digits]
  constructor
  · rintro ⟨d, hfold, hd⟩
    have hascii : d.toNat < 0x80 := isAscii_of_isAlphanum (by simp [Char.isAlphanum, hd])
    have hlower := Unicode.of_isAscii
      (P := fun d => d.isDigit = true → d.toLower = d) (by decide +kernel) hascii hd
    rw [Unicode.foldSimple_eq_toLower hascii, hlower] at hfold
    rcases Nat.lt_or_ge c.toNat 0x80 with hc | hc
    · rw [Unicode.foldSimple_eq_toLower hc] at hfold
      rw [hfold] at hd
      exact Unicode.of_isAscii (P := fun c => c.toLower.isDigit = true → c.isDigit = true)
        (by decide +kernel) hc hd
    · rcases Unicode.eq_of_foldSimple_isAscii (hfold ▸ hascii) hc with rfl | rfl
      · rw [hfold] at hd
        exact absurd hd (by decide +kernel)
      · rw [hfold] at hd
        exact absurd hd (by decide +kernel)
  · intro h
    exact ⟨c, rfl, h⟩

theorem contains_labelSet (c : Char) :
    labelSet.contains c = true ↔ isDomainLetter c = true ∨ c.isDigit = true := by
  rw [labelSet, CharSet.contains_unions]
  simp [contains_letterSet, contains_folded_digits]

/-! ### Runs -/

variable {set : CharSet} {t : Text}

theorem mem_oneOrMore :
    t ∈ (oneOrMore set).language ↔ t ≠ [] ∧ ∀ c ∈ t, set.contains c = true := by
  rw [oneOrMore, language_rep, language_char, pow_one, mem_letters_mul_kstar]

/-- Any number of rounds of an expression. -/
theorem language_rep_zero (r : Regex) : (rep r 0 none true).language = r.language∗ := by
  rw [language_rep, pow_zero, one_mul]

/-! ### Local parts -/

theorem isRun_iff_mem : IsRun t ↔ t ∈ (oneOrMore runSet).language := by
  rw [mem_oneOrMore, ← isRun_iff]
  simp [contains_runSet]

/-- **The expression for local parts matches the local parts.** -/
theorem isMatch_localExpression (t : Text) : localExpression.isMatch t = isLocalPart t := by
  have hlanguage : (localParts.map language).prod =
      (oneOrMore runSet).language * (letters (.oneOf ['.']) * (oneOrMore runSet).language)∗ := by
    simp only [localParts, List.map_cons, List.map_nil, List.prod_cons, List.prod_nil, mul_one,
      language_rep_zero, language_concat, language_char]
  rw [Bool.eq_iff_iff, localExpression, isMatch_anchored_iff_mem (by decide), hlanguage,
    mem_mul_kstar_sep, isLocalPart_iff]
  simp only [isRun_iff_mem]

/-! ### Labels -/

theorem mem_hyphened_iff :
    t ∈ hyphened.language ↔ ∃ hyphens run, t = hyphens ++ run ∧
      (hyphens ≠ [] ∧ ∀ c ∈ hyphens, c = '-') ∧
      run ≠ [] ∧ ∀ c ∈ run, labelSet.contains c = true := by
  have hhyphen (c : Char) : (CharSet.oneOf ['-']).contains c = true ↔ c = '-' := by
    simp [CharSet.contains]
  rw [hyphened, language_concat]
  simp only [List.map_cons, List.map_nil, List.prod_cons, List.prod_nil, mul_one, Language.mem_mul,
    mem_oneOrMore, hhyphen]
  constructor
  · rintro ⟨hyphens, hhyphens, run, hrun, rfl⟩
    exact ⟨hyphens, run, rfl, hhyphens, hrun⟩
  · rintro ⟨hyphens, run, rfl, hhyphens, hrun⟩
    exact ⟨hyphens, hhyphens, run, hrun, rfl⟩

/-- Iterations of letters and digits after hyphens, by their first round. -/
theorem mem_kstar_hyphened_iff :
    t ∈ hyphened.language∗ ↔
      t = [] ∨ ∃ piece ∈ hyphened.language, ∃ rest ∈ hyphened.language∗, piece ++ rest = t := by
  rw [← Language.one_add_self_mul_kstar_eq_kstar, Language.mem_add, Language.mem_one,
    Language.mem_mul, Language.one_add_self_mul_kstar_eq_kstar]

/-- One more hyphen in front. -/
theorem cons_mem_kstar_hyphened (h : t ∈ hyphened.language∗) (hne : t ≠ []) :
    '-' :: t ∈ hyphened.language∗ := by
  rcases mem_kstar_hyphened_iff.mp h with h | ⟨piece, hpiece, rest, hrest, rfl⟩
  · exact absurd h hne
  · obtain ⟨hyphens, run, rfl, hhyphens, hrun⟩ := mem_hyphened_iff.mp hpiece
    have hpiece : '-' :: (hyphens ++ run) ∈ hyphened.language :=
      mem_hyphened_iff.mpr ⟨'-' :: hyphens, run, rfl,
        ⟨by simp, List.forall_mem_cons.mpr ⟨rfl, hhyphens.2⟩⟩, hrun⟩
    exact mem_kstar_hyphened_iff.mpr (.inr ⟨_, hpiece, rest, hrest, rfl⟩)

/-- Letters, digits and hyphens that do not end with a hyphen are some letters and digits, and
then more of them after hyphens. By induction on the text: a hyphen takes the run behind it. -/
theorem exists_run_append (hall : ∀ c ∈ t, labelSet.contains c = true ∨ c = '-')
    (hlast : t.getLast? ≠ some '-') :
    ∃ run rest, t = run ++ rest ∧ (∀ c ∈ run, labelSet.contains c = true) ∧
      rest ∈ hyphened.language∗ := by
  induction t with
  | nil => exact ⟨[], [], rfl, by simp, Language.nil_mem_kstar _⟩
  | cons c t ih =>
      rw [List.forall_mem_cons] at hall
      have hlast' : t.getLast? ≠ some '-' := fun h => hlast (by simp [List.getLast?_cons, h])
      obtain ⟨run, rest, rfl, hrun, hrest⟩ := ih hall.2 hlast'
      rcases hall.1 with hc | rfl
      · exact ⟨c :: run, rest, rfl, List.forall_mem_cons.mpr ⟨hc, hrun⟩, hrest⟩
      · refine ⟨[], '-' :: (run ++ rest), rfl, by simp, ?_⟩
        by_cases hempty : run = []
        · subst hempty
          refine cons_mem_kstar_hyphened hrest ?_
          rintro rfl
          exact hlast rfl
        · have hpiece : '-' :: run ∈ hyphened.language :=
            mem_hyphened_iff.mpr ⟨['-'], run, rfl, by simp, hempty, hrun⟩
          exact mem_kstar_hyphened_iff.mpr (.inr ⟨_, hpiece, rest, hrest, rfl⟩)

theorem getLast?_append_ne {u : Text} {c : Char} (ht : t.getLast? ≠ some c)
    (hu : u.getLast? ≠ some c) : (t ++ u).getLast? ≠ some c := by
  rw [List.getLast?_append]
  cases hlast : u.getLast? with
  | none => exact ht
  | some d => rwa [hlast] at hu

/-- No hyphen is a letter or digit. -/
theorem hyphen_notMem (h : ∀ c ∈ t, labelSet.contains c = true) : '-' ∉ t :=
  fun hmem => absurd (h _ hmem) (by decide +kernel)

/-- What follows the first run of a label: letters, digits and hyphens that do not end with a
hyphen. -/
theorem of_mem_kstar_hyphened (h : t ∈ hyphened.language∗) :
    (∀ c ∈ t, labelSet.contains c = true ∨ c = '-') ∧ t.getLast? ≠ some '-' := by
  obtain ⟨pieces, rfl, hpieces⟩ := Language.mem_kstar.mp h
  clear h
  induction pieces with
  | nil => simp
  | cons piece pieces ih =>
      rw [List.forall_mem_cons] at hpieces
      obtain ⟨hyphens, run, rfl, ⟨-, hhyphens⟩, hne, hrun⟩ := mem_hyphened_iff.mp hpieces.1
      obtain ⟨hall, hlast⟩ := ih hpieces.2
      have hlastRun : (hyphens ++ run).getLast? ≠ some '-' := by
        rw [List.getLast?_append_of_ne_nil _ hne]
        exact fun h => hyphen_notMem hrun (List.mem_of_getLast? h)
      rw [List.flatten_cons]
      refine ⟨?_, getLast?_append_ne hlastRun hlast⟩
      simp only [List.forall_mem_append]
      exact ⟨⟨fun c hc => .inr (hhyphens c hc), fun c hc => .inl (hrun c hc)⟩, hall⟩

theorem isLabel_iff_ends : isLabel t = true ↔
    t ≠ [] ∧ (∀ c ∈ t, labelSet.contains c = true ∨ c = '-') ∧ t.head? ≠ some '-' ∧
      t.getLast? ≠ some '-' := by
  simp [isLabel, contains_labelSet, and_assoc]

/-- **A label is a run of letters and digits, and then more of them after hyphens.** -/
theorem isLabel_iff_append : isLabel t = true ↔
    ∃ run rest, t = run ++ rest ∧ run ≠ [] ∧ (∀ c ∈ run, labelSet.contains c = true) ∧
      rest ∈ hyphened.language∗ := by
  rw [isLabel_iff_ends]
  constructor
  · rintro ⟨hne, hall, hhead, hlast⟩
    obtain ⟨run, rest, rfl, hrun, hrest⟩ := exists_run_append hall hlast
    refine ⟨run, rest, rfl, ?_, hrun, hrest⟩
    rintro rfl
    -- then the text would start with the hyphens of its first round
    rcases mem_kstar_hyphened_iff.mp hrest with rfl | ⟨piece, hpiece, rest, -, rfl⟩
    · exact hne rfl
    · obtain ⟨hyphens, run, rfl, ⟨hhyphensne, hhyphens⟩, -⟩ := mem_hyphened_iff.mp hpiece
      obtain ⟨c, hyphens, rfl⟩ := List.exists_cons_of_ne_nil hhyphensne
      exact hhead (by simp [hhyphens c (List.mem_cons_self ..)])
  · rintro ⟨run, rest, rfl, hne, hrun, hrest⟩
    obtain ⟨hall, hlast⟩ := of_mem_kstar_hyphened hrest
    have hhyphen := hyphen_notMem hrun
    refine ⟨by simp [hne], ?_, ?_, ?_⟩
    · rw [List.forall_mem_append]
      exact ⟨fun c hc => .inl (hrun c hc), hall⟩
    · rw [List.head?_append_of_ne_nil _ hne]
      exact fun h => hhyphen (List.mem_of_head? h)
    · exact getLast?_append_ne (fun h => hhyphen (List.mem_of_getLast? h)) hlast

theorem mem_label_iff : t ∈ (labelParts.map language).prod ↔ isLabel t = true := by
  rw [isLabel_iff_append]
  simp only [labelParts, List.map_cons, List.map_nil, List.prod_cons, List.prod_nil, mul_one,
    language_rep_zero, Language.mem_mul, mem_oneOrMore]
  constructor
  · rintro ⟨run, hrun, rest, hrest, rfl⟩
    exact ⟨run, rest, rfl, hrun.1, hrun.2, hrest⟩
  · rintro ⟨run, rest, rfl, hne, hrun, hrest⟩
    exact ⟨run, ⟨hne, hrun⟩, rest, hrest, rfl⟩

theorem labelSet_of_letter {c : Char} (h : isDomainLetter c = true) :
    labelSet.contains c = true :=
  (contains_labelSet c).mpr (.inl h)

/-- The marks of an encoded label: two letters, and two hyphens behind them. -/
theorem of_mem_marks (h : t ∈ (chars [.oneOf ['x', 'X'], .oneOf ['n', 'N'], .oneOf ['-'],
    .oneOf ['-']]).language) :
    ∃ x n, t = [x, n, '-', '-'] ∧ isDomainLetter x = true ∧ isDomainLetter n = true := by
  have hmarks := mem_prod_letters.mp h
  simp only [List.forall₂_cons_left_iff, List.forall₂_nil_left_iff] at hmarks
  obtain ⟨x, _, hx, ⟨n, _, hn, ⟨_, _, hhyphen, ⟨_, _, hhyphen', rfl, rfl⟩, rfl⟩, rfl⟩, rfl⟩ :=
    hmarks
  refine ⟨x, n, ?_, ?_, ?_⟩
  · simp only [CharSet.contains, List.elem_iff, List.mem_singleton] at hhyphen hhyphen'
    rw [hhyphen, hhyphen']
  · simp only [CharSet.contains, List.elem_iff, List.mem_cons, List.not_mem_nil, or_false] at hx
    rcases hx with rfl | rfl <;> decide +kernel
  · simp only [CharSet.contains, List.elem_iff, List.mem_cons, List.not_mem_nil, or_false] at hn
    rcases hn with rfl | rfl <;> decide +kernel

/-- The last label is one that begins with a letter. The branch for encoded labels adds none. -/
theorem mem_lastLabel_iff :
    t ∈ lastLabel.language ↔ isLabel t = true ∧ t.head?.any isDomainLetter = true := by
  rw [isLabel_iff_append, lastLabel, language, language_concat, language_concat]
  simp only [List.map_cons, List.map_nil, List.prod_cons, List.prod_nil, mul_one,
    language_rep_zero, language_char, Language.mem_add, Language.mem_mul, mem_oneOrMore,
    mem_letters, mem_kstar_letters, contains_letterSet]
  constructor
  · rintro (⟨_, ⟨c, rfl, hc⟩, _, ⟨run, hrun, rest, hrest, rfl⟩, rfl⟩ |
      ⟨_, hmarks, run, ⟨hne, hrun⟩, rfl⟩)
    · refine ⟨⟨c :: run, rest, rfl, by simp, ?_, hrest⟩, hc⟩
      exact List.forall_mem_cons.mpr ⟨labelSet_of_letter hc, hrun⟩
    · obtain ⟨x, n, rfl, hx, hn⟩ := of_mem_marks hmarks
      have hpiece : ['-', '-'] ++ run ∈ hyphened.language :=
        mem_hyphened_iff.mpr ⟨['-', '-'], run, rfl, by simp, hne, hrun⟩
      refine ⟨⟨[x, n], ['-', '-'] ++ run, rfl, by simp, ?_, ?_⟩, hx⟩
      · simp [labelSet_of_letter hx, labelSet_of_letter hn]
      · exact mem_kstar_hyphened_iff.mpr
          (.inr ⟨_, hpiece, [], Language.nil_mem_kstar _, List.append_nil _⟩)
  · rintro ⟨⟨run, rest, rfl, hne, hrun, hrest⟩, hletter⟩
    obtain ⟨c, run, rfl⟩ := List.exists_cons_of_ne_nil hne
    rw [List.forall_mem_cons] at hrun
    exact .inl ⟨[c], ⟨c, rfl, hletter⟩, run ++ rest, ⟨run, hrun.2, rest, hrest, rfl⟩, rfl⟩

/-! ### Domains -/

/-- A domain is made of labels with dots between them. -/
theorem isDomain_iff_intercalate : isDomain t = true ↔
    ∃ labels, t = ['.'].intercalate labels ∧ 2 ≤ labels.length ∧
      (∀ label ∈ labels, isLabel label = true) ∧
      (labels.getLast?.bind List.head?).any isDomainLetter = true := by
  have hlabels : isDomain t = true ↔ 2 ≤ (t.splitOn '.').length ∧
      (∀ label ∈ t.splitOn '.', isLabel label = true) ∧
      ((t.splitOn '.').getLast?.bind List.head?).any isDomainLetter = true := by
    simp [isDomain, and_assoc]
  rw [hlabels]
  refine Text.splitOn_iff (P := fun labels => 2 ≤ labels.length ∧
    (∀ label ∈ labels, isLabel label = true) ∧
    (labels.getLast?.bind List.head?).any isDomainLetter = true) ?_ t
  rintro labels ⟨hlength, hlabels, -⟩
  refine ⟨List.ne_nil_of_length_pos (by omega), fun label hlabel hdot => ?_⟩
  have hall := (isLabel_iff_ends.mp (hlabels label hlabel)).2.1
  exact absurd (hall '.' hdot) (by decide +kernel)

/-- **The expression for domains matches the domains.** -/
theorem isMatch_domainExpression (t : Text) : domainExpression.isMatch t = isDomain t := by
  have hlanguage : (domainParts.map language).prod =
      (labelParts.map language).prod * letters (.oneOf ['.']) *
        (((labelParts.map language).prod * letters (.oneOf ['.']))∗ * lastLabel.language) := by
    simp only [domainParts, List.map_cons, List.map_nil, List.prod_cons, List.prod_nil, mul_one,
      language_rep, pow_one, language_concat, List.map_append, List.prod_append, language_char,
      mul_assoc]
  rw [Bool.eq_iff_iff, domainExpression, isMatch_anchored_iff_mem (by decide), hlanguage,
    isDomain_iff_intercalate, Language.mem_mul]
  simp only [mem_kstar_sep_mul, mem_lastLabel_iff]
  simp only [Language.mem_mul, mem_label_iff, mem_letters_singleton]
  have hhead (first : Text) (middle : List Text) (last : Text) :
      (first :: (middle ++ [last])).getLast?.bind List.head? = last.head? := by
    rw [← List.cons_append, List.getLast?_concat]
    rfl
  constructor
  · rintro ⟨_, ⟨first, hfirst, _, rfl, rfl⟩, _, ⟨middle, last, rfl, hmiddle, hlast, hletter⟩, rfl⟩
    refine ⟨first :: (middle ++ [last]), ?_, by simp, ?_, by rwa [hhead]⟩
    · exact (intercalate_cons_of_ne_nil '.' first (by simp)).symm
    · rw [List.forall_mem_cons, List.forall_mem_append, List.forall_mem_singleton]
      exact ⟨hfirst, hmiddle, hlast⟩
  · rintro ⟨labels, rfl, hlength, hlabels, hletter⟩
    obtain ⟨first, rest, rfl⟩ := List.exists_cons_of_ne_nil
      (List.ne_nil_of_length_pos (by omega : 0 < labels.length))
    rcases rest.eq_nil_or_concat' with rfl | ⟨middle, last, rfl⟩
    · simp at hlength
    · rw [List.forall_mem_cons, List.forall_mem_append, List.forall_mem_singleton] at hlabels
      obtain ⟨hfirst, hmiddle, hlast⟩ := hlabels
      rw [hhead] at hletter
      exact ⟨first ++ ['.'], ⟨first, hfirst, _, rfl, rfl⟩, _,
        ⟨middle, last, rfl, hmiddle, hlast, hletter⟩,
        (intercalate_cons_of_ne_nil '.' first (by simp)).symm⟩

/-! ### Addresses -/

/-- The texts within the limits of length that two expressions match around the last at sign. -/
def MatchedAround (localPart domain : Regex) (t : Text) : Prop :=
  t.utf8Size ≤ maxAddressSize ∧
    ∃ before after, t.splitLast '@' = some (before, after) ∧
      (before ≠ [] ∧ before.utf8Size ≤ maxLocalSize) ∧
      (∀ label ∈ after.splitOn '.', label.utf8Size ≤ maxLabelSize) ∧
      localPart.isMatch before = true ∧ domain.isMatch after = true

/-- **A mail address is two texts around the last at sign that the expressions match**, within
the limits of length. -/
theorem isMailbox_iff_isMatch (t : Text) :
    isMailbox t = true ↔ MatchedAround localExpression domainExpression t := by
  have hempty : isLocalPart [] = false := rfl
  simp only [MatchedAround, isMailbox_iff_parts, isMatch_localExpression, isMatch_domainExpression]
  refine and_congr_right fun _ => ?_
  constructor
  · rintro ⟨localPart, domain, hsplit, hsize, hlocal, hdomain, hlabels⟩
    refine ⟨localPart, domain, hsplit, ⟨?_, hsize⟩, hlabels, hlocal, hdomain⟩
    rintro rfl
    simp [hempty] at hlocal
  · rintro ⟨localPart, domain, hsplit, ⟨-, hsize⟩, hlabels, hlocal, hdomain⟩
    exact ⟨localPart, domain, hsplit, hsize, hlocal, hdomain, hlabels⟩

/-- **The addresses are the texts of the grammar** with the letters that fold to letters of ASCII.
Those in ASCII are the texts of the grammar with the letters of ASCII. All have one at sign, and
no other characters outside ASCII than the long small s and the kelvin sign. They are the texts
that the expressions match which are built of the two sources. -/
theorem isMailbox_iff_isAddress (t : Text) :
    (isMailbox t = true ↔ IsAddress isDomainLetter t) ∧
      (isMailbox t = true ∧ t.isAscii = true ↔ IsAddress Char.isAlpha t) ∧
      (isMailbox t = true → t.count '@' = 1 ∧
        ∀ c ∈ t, c.toNat < 0x80 ∨ c = 'ſ' ∨ c = Char.ofNat 0x212A) ∧
      ∃ localPart domain, build localSource false = .ok localPart ∧
        build domainSource true = .ok domain ∧
        (isMailbox t = true ↔ MatchedAround localPart domain t) :=
  ⟨isMailbox_iff, isMailbox_and_isAscii_iff, of_isMailbox, localExpression, domainExpression,
    build_localSource, build_domainSource, isMailbox_iff_isMatch t⟩

/-- The long small s can stand in the domain of an address, which is then none of the grammar with
the letters of ASCII. -/
theorem isMailbox_long_s :
    isMailbox "foo@bar.ſom".toList = true ∧ Text.isAscii "foo@bar.ſom".toList = false ∧
      ¬ IsAddress Char.isAlpha "foo@bar.ſom".toList := by
  refine ⟨by decide +kernel, by decide, ?_⟩
  intro haddress
  have hchar := haddress.of_mem (by decide : 'ſ' ∈ "foo@bar.ſom".toList)
  revert hchar
  decide

end UriRouting.ValueRule
