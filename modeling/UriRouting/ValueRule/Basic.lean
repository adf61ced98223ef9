import UriRouting.Regex.Build
import UriRouting.Unicode.Script
import UriRouting.ValueRule.IpAddress
import UriRouting.ValueRule.Mailbox

/-!
# UriRouting.ValueRule.Basic

Rules for the values of variables. A rule is one of a few fixed classes of texts or a
regular expression of the caller's (`CustomRegex`), which has to match the whole value.
No rule accepts the empty value (`ValueRule.accepts`).
-/

namespace UriRouting

/-- Why a rule is refused. -/
inductive RuleError where
  /-- The variable has no name. -/
  | emptyKey
  /-- A regular expression is empty. -/
  | emptyRegex (key : Text)
  /-- A text is no regular expression. -/
  | invalidRegex (key : Text)
  deriving DecidableEq, Repr

/-- The error as a sentence. -/
def RuleError.message : RuleError → String
  | emptyKey => "filter key must not be empty"
  | emptyRegex key =>
    let key := String.ofList key
    s!"regex filter for '{key}' cannot be empty"
  | invalidRegex key =>
    let key := String.ofList key
    s!"regex filter for '{key}' is invalid"

/-- Which letters a rule for letters accepts. -/
inductive LetterCase where
  /-- All letters. -/
  | any
  /-- Capitals only. -/
  | upper
  /-- Small letters only. -/
  | lower
  deriving DecidableEq, Repr

/-- The letters chosen by a switch for capitals. -/
def LetterCase.ofOption : Option Bool → LetterCase
  | none => any
  | some true => upper
  | some false => lower

/-! ### Expressions of the caller's -/

/-- A regular expression of the caller's, for values of a route that regards case and for
values of one that does not. -/
structure CustomRegex where
  /-- The expression without anchors. -/
  source : Text
  /-- The expression with regard to case. -/
  sensitive : Regex
  /-- The expression without regard to case. -/
  insensitive : Regex
  deriving DecidableEq

namespace CustomRegex

/-- The text without one anchor at its start and one at its end. -/
def stripAnchors (raw : Text) : Text :=
  let t := match raw with
    | '^' :: t => t
    | t => t
  match t.reverse with
  | '$' :: r => r.reverse
  | _ => t

/-- The text put between anchors as one group. -/
def anchored (source : Text) : Text :=
  ['^', '(', '?', ':'] ++ source ++ [')', '$']

/-- The expression for the values of a variable, as an engine builds it. -/
def buildWith (engine : Regex.Engine) (key raw : Text) : Except RuleError CustomRegex :=
  let source := stripAnchors raw
  if source.isEmpty then .error (.emptyRegex key)
  else match engine.build (anchored source) false, engine.build (anchored source) true with
    | .ok sensitive, .ok insensitive => .ok ⟨source, sensitive, insensitive⟩
    | _, _ => .error (.invalidRegex key)

/-- The expression for the values of a variable, as the standard engine builds it. -/
def build (key raw : Text) : Except RuleError CustomRegex :=
  buildWith .standard key raw

/-- Whether the expression matches a value. -/
def isMatch (r : CustomRegex) (value : Text) (caseSensitive : Bool) : Bool :=
  if caseSensitive then r.sensitive.isMatch value else r.insensitive.isMatch value

end CustomRegex

/-! ### Rules -/

/-- A rule for the values of a variable. -/
inductive ValueRule where
  /-- Visible characters of ASCII. -/
  | graph
  /-- Letters of ASCII. -/
  | alpha (letters : LetterCase)
  /-- Digits of ASCII. -/
  | digit
  /-- Letters and digits of ASCII and, if allowed, underscores. -/
  | alnum (underscore : Bool)
  /-- Internet addresses. -/
  | ip (ipv6 special : Bool)
  /-- Mail addresses. -/
  | email
  /-- Han characters. -/
  | zh
  /-- Han characters, letters and digits of ASCII, and underscores. -/
  | zhNick
  /-- What an expression of the caller's matches as a whole. -/
  | regex (expression : CustomRegex)
  deriving DecidableEq

namespace ValueRule

/-- Whether a character is visible in ASCII. -/
def isGraphic (c : Char) : Bool :=
  0x21 ≤ c.toNat && c.toNat ≤ 0x7E

/-- Whether a character belongs to the Han script. -/
def isHan (c : Char) : Bool :=
  Unicode.Script.han.contains c

/-- Whether a rule accepts a value. The flag tells whether the route regards case. -/
def accepts (rule : ValueRule) (value : Text) (caseSensitive : Bool) : Bool :=
  !value.isEmpty && match rule with
    | graph => value.all isGraphic
    | alpha .any => value.all Char.isAlpha
    | alpha .upper => value.all Char.isUpper
    | alpha .lower => value.all Char.isLower
    | digit => value.all Char.isDigit
    | alnum underscore => value.all fun c => c.isAlphanum || (underscore && c == '_')
    | ip ipv6 special => isValidIp value ipv6 special
    | email => isMailbox value
    | zh => value.all isHan
    | zhNick => value.all fun c => isHan c || isAsciiWordCharacter c
    | regex expression => expression.isMatch value caseSensitive

/-- Whether two rules are the same; expressions are compared by their texts. -/
def same : ValueRule → ValueRule → Bool
  | regex e, regex f => e.source == f.source
  | regex _, _ | _, regex _ => false
  | graph, graph | digit, digit | email, email | zh, zh | zhNick, zhNick => true
  | alpha c, alpha d => c == d
  | alnum u, alnum v => u == v
  | ip v s, ip w u => v == w && s == u
  | _, _ => false

end ValueRule

end UriRouting
