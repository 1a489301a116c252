import DeviceClaims.Text.Pattern.Class

namespace DeviceClaims.Pattern

/-- What a text is as a pattern. A pattern's groups and classes are closed, repetitions follow what can
be repeated, escapes are known, names of groups differ and not too much is nested. Counts of repetitions
are left out, for their braces have another meaning where patterns are used. -/
inductive Verdict
  | sound
  | unsound
  /-- It is a pattern that asks for the ends of words, with letters of all scripts in them. -/
  | wordEnds
  deriving DecidableEq, Repr

/-- Parts that follow each other: how many there are, how deep the deepest is, and how deep the last
one is if it can be repeated. -/
structure Sequence where
  count : Nat := 0
  deepest : Nat := 0
  last : Option Nat := none
  deriving DecidableEq, Repr

namespace Sequence

def add (s : Sequence) (depth : Nat) : Sequence :=
  { count := s.count + 1, deepest := max s.deepest depth, last := some depth }

/-- The sequence with a part that cannot be repeated. -/
def addSetting (s : Sequence) : Sequence := { s with count := s.count + 1, last := none }

def repeatLast? (s : Sequence) : Option Sequence :=
  s.last.map fun d => { s with deepest := max s.deepest (d + 1), last := some (d + 1) }

/-- How deep it is: one part stands for itself. -/
def depth (s : Sequence) : Nat := if s.count ≤ 1 then s.deepest else s.deepest + 1

end Sequence

/-- What stands in a group: the sequence that is being read, and how deep the deepest one before it
is. -/
structure Choice where
  before : Option Nat := none
  here : Sequence := {}
  deriving DecidableEq, Repr

namespace Choice

def depth (c : Choice) : Nat := match c.before with
  | none => c.here.depth
  | some before => max before c.here.depth + 1

def next (c : Choice) : Choice := { before := some (max (c.before.getD 0) c.here.depth) }

/-- The choice with one more part in the sequence that is being read. -/
def add (c : Choice) (depth : Nat) : Choice := { c with here := c.here.add depth }

end Choice

/-- What is known of a pattern up to a place. -/
structure Reader where
  mode : Mode := {}
  choice : Choice := {}
  /-- The groups that are open around it, with the modes that they return to. -/
  around : List (Mode × Choice) := []
  names : List (List Char) := []
  /-- Whether the ends of words were asked for. -/
  wordEnds : Bool := false

namespace Reader

def add (r : Reader) (depth : Nat) : Reader := { r with choice := r.choice.add depth }

/-- After a character or an escape, if it may stand there. -/
def addItem? (r : Reader) (i : Item) : Option Reader :=
  if i.isSound r.mode then
    some { r.add 0 with wordEnds := r.wordEnds || (i = .place true && r.mode.wide) }
  else none

/-- In a group with a mode of its own. -/
def enter (r : Reader) (m : Mode) : Reader :=
  { r with mode := m, choice := {}, around := (r.mode, r.choice) :: r.around }

/-- After the end of a group, if one is open. -/
def leave? (r : Reader) : Option Reader := match r.around with
  | [] => none
  | (m, outer) :: around =>
    some { r with mode := m, choice := outer.add (r.choice.depth + 1), around }

/-- After the beginning of a group, with the rest of the text. -/
def opened? (r : Reader) : Opening → Option (Reader × List Char)
  | .group m cs => some (r.enter m, cs)
  | .named name cs =>
    if r.names.contains name then none
    else some ({ r.enter r.mode with names := name :: r.names }, cs)
  | .setting m cs =>
    some ({ r with mode := m, choice.here := r.choice.here.addSetting }, cs)

/-- After the next part, with the rest of the text. -/
def step? (r : Reader) (c : Char) (cs : List Char) : Option (Reader × List Char) :=
  match c with
  | '(' => (readOpening r.mode cs).bind r.opened?
  | ')' => r.leave?.map (·, cs)
  | '|' => some ({ r with choice := r.choice.next }, cs)
  | '[' =>
    if r.mode.wide && r.mode.caseless then none
    else do
      let (k, cs) ← openClass r.mode cs
      let (depth, cs) ← readClass r.mode k [] (cs.length + 1) cs
      return (r.add depth, cs)
  | '?' | '*' | '+' => r.choice.here.repeatLast?.map fun here =>
    ({ r with choice.here := here }, if cs.head? = some '?' then cs.drop 1 else cs)
  | '{' => none
  | '.' => if r.mode.wide then some (r.add 0, cs) else none
  | '^' | '$' => some (r.add 0, cs)
  | '\\' => do
    let (i, cs) ← readEscape r.mode cs
    return (← r.addItem? i, cs)
  | c => (r.addItem? (.char c false)).map (·, cs)

def read (r : Reader) : Nat → List Char → Option Reader
  | 0, _ => none
  | fuel + 1, cs => match r.mode.skip cs with
    | [] => some r
    | c :: cs => (r.step? c cs).bind fun (r, cs) => r.read fuel cs

end Reader

/-- How deeply parts may be nested. -/
def maxDepth : Nat := 250

def judge (text : List Char) : Verdict := match ({} : Reader).read (text.length + 1) text with
  | none => .unsound
  | some r =>
    if !r.around.isEmpty ∨ maxDepth < r.choice.depth then .unsound
    else if r.wordEnds then .wordEnds
    else .sound

end DeviceClaims.Pattern
