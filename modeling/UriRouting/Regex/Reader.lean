import UriRouting.Regex.Class

/-!
# UriRouting.Regex.Reader

Reading a written regular expression. The reader goes through the text once, from left to
right, and keeps the groups that are open on a stack (`State.groups`). What is read is
built at once, under the settings that hold at that place:

* a settings group changes them up to the end of the group around it, across branches;
* each part carries how deeply it is nested (`Part.depth`), for `Regex.build` to limit.
-/

namespace UriRouting.Regex

/-- A part of an expression that has been read. -/
structure Part where
  /-- The expression. -/
  regex : Regex
  /-- The depth of nesting: classes, repetitions, groups, sequences and alternatives count. -/
  depth : Nat
  /-- Whether it can be repeated; settings cannot. -/
  repeatable : Bool := true

/-- What has been read of the innermost open group. -/
structure Level where
  /-- The finished branches, the last one first. -/
  branches : List Part := []
  /-- The parts of the current branch, the last one first. -/
  parts : List Part := []

/-- A group that is open, and what it interrupted. -/
structure OpenGroup where
  /-- The name that it captures under. -/
  name : Option Text
  /-- The settings outside. -/
  flags : Flags
  /-- What has been read outside. -/
  level : Level

/-- How far the reader has come. -/
structure State where
  /-- The settings in force. -/
  flags : Flags
  /-- What has been read of the innermost open group. -/
  level : Level := {}
  /-- The open groups, the innermost first. -/
  groups : List OpenGroup := []
  /-- The names of the groups so far. -/
  names : List Text := []

/-! ### Parts and levels -/

/-- The greatest depth among some parts. -/
def maxDepth (parts : List Part) : Nat :=
  parts.foldl (fun depth p => max depth p.depth) 0

namespace Level

/-- The current branch as one part. -/
def branch (l : Level) : Part :=
  match l.parts with
  | [] => { regex := empty, depth := 0 }
  | [part] => part
  | parts => { regex := concat (parts.reverse.map (·.regex)), depth := maxDepth parts + 1 }

/-- The level as one part. -/
def close (l : Level) : Part :=
  match l.branches.reverse with
  | [] => l.branch
  | first :: rest =>
    { regex := alternatives first.regex ((rest ++ [l.branch]).map (·.regex))
      depth := maxDepth (first :: rest ++ [l.branch]) + 1 }

/-- The level with another part. -/
def push (l : Level) (part : Part) : Level :=
  { l with parts := part :: l.parts }

end Level

namespace State

/-- The state with another part. -/
def push (st : State) (part : Part) : State :=
  { st with level := st.level.push part }

/-- The state after the bar between two branches. -/
def nextBranch (st : State) : State :=
  { st with level := { branches := st.level.branch :: st.level.branches } }

/-- The state inside a group that has just been opened. -/
def enter (st : State) (name : Option Text) (flags : Flags) : State :=
  { st with
    flags := flags
    level := {}
    groups := ⟨name, st.flags, st.level⟩ :: st.groups
    names := name.toList ++ st.names }

/-- The state after the innermost group has been closed. -/
def leave (st : State) : Except ReadError State :=
  match st.groups with
  | [] => .error .unopenedGroup
  | g :: groups =>
    let inner := st.level.close
    let regex := match g.name with
      | some name => group name inner.regex
      | none => inner.regex
    .ok { st with
      flags := g.flags
      level := g.level.push { regex := regex, depth := inner.depth + 1 }
      groups := groups }

/-- The state after the last part has been put under a repetition. -/
def repeatLast (st : State) (least : Nat) (most : Option Nat) (greedy : Bool) :
    Except ReadError State :=
  match st.level.parts with
  | [] => .error .nothingToRepeat
  | part :: parts =>
    if !part.repeatable then .error .nothingToRepeat
    else if most.any (· < least) then .error .repetitionRange
    else
      let regex := repeated part.regex least most (greedy != st.flags.swapGreed)
      let level : Level :=
        { st.level with parts := { regex := regex, depth := part.depth + 1 } :: parts }
      .ok { st with level := level }

/-- The whole expression, once the text is at its end. -/
def finish (st : State) : Except ReadError Part :=
  if st.groups.isEmpty then .ok st.level.close else .error .unclosedGroup

end State

/-! ### Groups -/

/-- Whether a character can stand in the name of a group. -/
def isNameCharacter (first : Bool) (c : Char) : Bool :=
  if first then c == '_' || c.isAlpha || Unicode.Property.alphabetic.contains c
  else isAsciiWordCharacter c || c == '.' || c == '[' || c == ']' ||
    Unicode.Property.alphabetic.contains c || Unicode.Property.number.contains c

/-- Reads the name of a group up to its closing bracket. -/
def readGroupName (taken : List Text) (t : Text) : Except ReadError (Text × Text) :=
  match t.span (· != '>') with
  | (c :: name, _ :: rest) =>
    if !(isNameCharacter true c && name.all (isNameCharacter false)) then .error .groupName
    else if taken.elem (c :: name) then .error .duplicateGroupName
    else .ok (c :: name, rest)
  | _ => .error .groupName

/-- Reads settings up to the character that ends them, a colon or a closing bracket. The
result has them in order, with the sign of each. `seen` are those before, `negated` tells
whether a hyphen came among them and `dangling` whether it was the last. -/
def readFlags (seen : List (Flag × Bool)) (negated dangling : Bool) :
    Text → Except ReadError (List (Flag × Bool) × Char × Text)
  | [] => .error .flags
  | c :: t =>
    if c == ':' || c == ')' then
      if dangling then .error .flags else .ok (seen.reverse, c, t)
    else if c == '-' then
      if negated then .error .flags else readFlags seen true true t
    else match Flag.ofChar? c with
      | none => .error .flags
      | some flag =>
        if seen.any (·.1 == flag) then .error .flags
        else readFlags ((flag, !negated) :: seen) negated false t

/-- Whether a condition on what comes before or after starts here. -/
def isLookAround : Text → Bool
  | '?' :: '=' :: _ | '?' :: '!' :: _ | '?' :: '<' :: '=' :: _ | '?' :: '<' :: '!' :: _ => true
  | _ => false

/-- Reads the start of a group, after the opening bracket. Settings on their own are read
whole, as a part that matches the empty text. -/
def readGroupStart (st : State) (t : Text) : Except ReadError (State × Text) := do
  let t := skip st.flags.verbose t
  if isLookAround t then throw .lookAround
  match t with
  | '?' :: 'P' :: '<' :: t | '?' :: '<' :: t =>
    let (name, rest) ← readGroupName st.names t
    return (st.enter (some name) st.flags, rest)
  | '?' :: t =>
    let (changes, stop, rest) ← readFlags [] false false t
    let flags := changes.foldl (fun fs change => fs.set change.1 change.2) st.flags
    if stop == ':' then return (st.enter none flags, rest)
    else if changes.isEmpty then throw .nothingToRepeat
    else return ({ st with flags := flags }.push ⟨empty, 0, false⟩, rest)
  | t => return (st.enter none st.flags, t)

/-! ### Repetitions -/

/-- Reads the mark for a repetition that prefers an end. -/
def readGreed : Text → Bool × Text
  | '?' :: t => (false, t)
  | t => (true, t)

/-- Reads bounds, after the opening brace: the least and the greatest number of rounds.
White space may stand around the numbers. -/
def readBounds (verbose : Bool) (t : Text) : Except ReadError (Nat × Option Nat × Text) :=
  let (low, t) := readDecimal verbose (skip verbose t)
  match bound? low, t with
  | some least, '}' :: t => .ok (least, some least, skip verbose t)
  | some least, ',' :: t =>
    match skip verbose t with
    | '}' :: t => .ok (least, none, skip verbose t)
    | t =>
      let (high, t) := readDecimal verbose t
      match bound? high, t with
      | some most, '}' :: t => .ok (least, some most, skip verbose t)
      | _, _ => .error .repetitionBounds
  | _, _ => .error .repetitionBounds

/-! ### Whole expressions -/

/-- Reads an expression up to the end of the text. Each round takes at least a character,
so that a fuel above the length of the text suffices. -/
def readFrom : Nat → State → Text → Except ReadError Part
  | 0, _, _ => .error .tooLarge
  | fuel + 1, st, t =>
    let repeated (least : Nat) (most : Option Nat) (t : Text) : Except ReadError Part := do
      let (greedy, t) := readGreed t
      readFrom fuel (← st.repeatLast least most greedy) t
    match skip st.flags.verbose t with
    | [] => st.finish
    | '(' :: t => do
      let (st, t) ← readGroupStart st t
      readFrom fuel st t
    | ')' :: t => do readFrom fuel (← st.leave) t
    | '|' :: t => readFrom fuel st.nextBranch t
    | '[' :: t => do
      let (part, t) ← readClass st.flags t
      readFrom fuel (st.push { regex := char part.set, depth := part.depth }) t
    | '?' :: t => repeated 0 (some 1) t
    | '*' :: t => repeated 0 none t
    | '+' :: t => repeated 1 none t
    | '{' :: t => do
      let (least, most, t) ← readBounds st.flags.verbose t
      repeated least most t
    | c :: t => do
      let (primitive, t) ← readPrimitive st.flags c t
      readFrom fuel (st.push { regex := ← primitive.regex st.flags, depth := 0 }) t

/-- Reads a text as an expression. -/
def read (flags : Flags) (t : Text) : Except ReadError Part :=
  readFrom (t.length + 1) { flags := flags } t

end UriRouting.Regex
