import UriRouting.Template.Token
import UriRouting.Regex.Build
import UriRouting.Uri.Comparison

/-!
# UriRouting.Template.Compiled

Templates ready for matching. A template without variables is compared with a subject as a
text; one with variables has a regular expression, which is tried on subjects that start
with the literal text of the template (`Compiled.lead`). `Compiled.captures` gives the
values of the variables.
-/

namespace UriRouting.Template

/-- A regular expression and the text that it was read from. -/
structure Matcher where
  /-- The text. -/
  source : Text
  /-- The expression. -/
  regex : Regex
  deriving DecidableEq

/-- A template ready for matching. -/
structure Compiled where
  /-- The template. -/
  pattern : Text
  /-- Its tokens. -/
  tokens : List Token
  /-- The names of its variables, in order. -/
  names : List Text
  /-- The literal text that it starts with, if it has variables. -/
  lead : Option Text
  /-- Its regular expression, if it has variables. -/
  matcher : Option Matcher
  /-- Whether case counts. -/
  caseSensitive : Bool
  deriving DecidableEq

/-- The literal text that some tokens start with. -/
def leadOf : List Token → Option Text
  | .literal text :: _ => some text
  | _ => none

/-- Makes a template ready for matching, given its pieces and the names of the variables
that take every text. -/
def compilePieces (pattern : Text) (ps : List Piece) (caseSensitive : Bool)
    (anything : List Text) : Except TemplateError Compiled :=
  let tokens := tokenize ps anything
  let compiled : Compiled :=
    { pattern := pattern, tokens := tokens, names := slotNames ps, lead := none,
      matcher := none, caseSensitive := caseSensitive }
  if compiled.names.isEmpty then .ok compiled
  else
    let source := regexSource tokens
    match Regex.build source (!caseSensitive) with
    | .ok regex => .ok { compiled with lead := leadOf tokens, matcher := some ⟨source, regex⟩ }
    | .error _ => .error (.uncompilable pattern)

/-- Makes a template ready for matching. -/
def compile (pattern : Text) (caseSensitive : Bool) (anything : List Text) :
    Except TemplateError Compiled := do
  compilePieces pattern (← scan pattern) caseSensitive anything

namespace Compiled

/-- Whether the template has no variables. -/
def isStatic (c : Compiled) : Bool :=
  c.matcher.isNone

/-- Whether a subject starts as the template demands. -/
def admitsLead (c : Compiled) (subject : Text) : Bool :=
  c.lead.all fun lead => Uri.startsWithFolded subject lead c.caseSensitive

/-- The variables with their values in a match. An empty value counts as none. -/
def readCaptures (c : Compiled) (subject : Text) (caps : Regex.Captures) :
    List (Variable × Option Text) :=
  (c.tokens.filterMap Token.var?).map fun v =>
    (v, (caps.text? v.name subject).filter (!·.isEmpty))

/-- The variables of the template with their values in a subject, or nothing if the subject
is not of the template's form. -/
def captures (c : Compiled) (subject : Text) : Option (List (Variable × Option Text)) :=
  match c.matcher with
  | none => if Uri.eqFolded c.pattern subject c.caseSensitive then some [] else none
  | some m =>
    if c.admitsLead subject then (m.regex.search subject).map (c.readCaptures subject)
    else none

end Compiled

end UriRouting.Template
