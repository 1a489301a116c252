import DeviceClaims.Text.Pattern.Item

namespace DeviceClaims.Pattern

/-- A class that is being read: how many members follow the last operator and how deep the deepest of
them is, and how deep what stands before the operator is. Of a class that can be read only its depth is
kept, which is how deeply classes, operators and lists of more than one member are nested in it. -/
structure CharClass where
  count : Nat := 0
  deepest : Nat := 0
  before : Option Nat := none
  deriving DecidableEq, Repr

namespace CharClass

def add (k : CharClass) (depth : Nat) : CharClass :=
  { k with count := k.count + 1, deepest := max k.deepest depth }

def depth (k : CharClass) : Nat :=
  let list := if k.count ≤ 1 then k.deepest else k.deepest + 1
  match k.before with
  | none => list
  | some before => max before list + 1

def operator (k : CharClass) : CharClass := { before := some k.depth }

end CharClass

/-- Reads hyphens at the beginning of a class. -/
def readHyphens (m : Mode) (k : CharClass) : Nat → List Char → CharClass × List Char
  | fuel + 1, '-' :: cs => readHyphens m (k.add 0) fuel (m.skip cs)
  | _, cs => (k, cs)

/-- Reads the beginning of a class after its bracket. A closing bracket there is a member. -/
def openClass (m : Mode) (cs : List Char) : Option (CharClass × List Char) :=
  let begin (cs : List Char) : CharClass × List Char :=
    match readHyphens m {} cs.length cs with
    | (k, ']' :: cs) => if k.count = 0 then (k.add 0, m.skip cs) else (k, ']' :: cs)
    | r => r
  match m.skip cs with
  | '^' :: cs => if m.wide then some (begin (m.skip cs)) else none
  | cs => some (begin cs)

def classNames : List String :=
  ["alnum", "alpha", "ascii", "blank", "cntrl", "digit", "graph", "lower", "print", "punct",
    "space", "upper", "word", "xdigit"]

/-- Reads a named class after its first bracket, and says whether it stands for all others. -/
def readNamed (cs : List Char) : Option (Bool × List Char) :=
  match cs with
  | ':' :: cs =>
    let (negated, cs) := match cs with
      | '^' :: cs => (true, cs)
      | cs => (false, cs)
    if classNames.contains (String.ofList (cs.takeWhile (· ≠ ':'))) then
      match cs.dropWhile (· ≠ ':') with
      | ':' :: ']' :: cs => some (negated, cs)
      | _ => none
    else none
  | _ => none

def readItem (m : Mode) : List Char → Option (Item × List Char)
  | [] => none
  | '\\' :: cs => readEscape m cs
  | c :: cs => some (.char c false, cs)

/-- Reads a member of a class or a range, whose ends are characters in their order. -/
def readMember (m : Mode) (cs : List Char) : Option (List Char) := do
  let (first, cs) ← readItem m cs
  if !first.isMember m then none
  else match m.skip cs with
    | '-' :: cs =>
      if m.peek cs = some ']' ∨ m.peek cs = some '-' then some ('-' :: cs)
      else do
        let (last, cs) ← readItem m (m.skip cs)
        match first, last with
        | .char a _, .char b _ => if last.isMember m && a ≤ b then some cs else none
        | _, _ => none
    | cs => some cs

/-- Reads a class up to its end and says how deep it is. `around` holds the classes that are open
around it. -/
def readClass (m : Mode) (k : CharClass) (around : List CharClass) :
    Nat → List Char → Option (Nat × List Char)
  | 0, _ => none
  | fuel + 1, cs => match m.skip cs with
    | [] => none
    | '&' :: '&' :: cs | '-' :: '-' :: cs | '~' :: '~' :: cs =>
      readClass m k.operator around fuel cs
    | '[' :: cs => match readNamed cs with
      | some (negated, cs) =>
        if negated && !m.wide then none else readClass m (k.add 0) around fuel cs
      | none => (openClass m cs).bind fun (inner, cs) => readClass m inner (k :: around) fuel cs
    | ']' :: cs => match around with
      | [] => some (k.depth + 1, cs)
      | outer :: around => readClass m (outer.add (k.depth + 1)) around fuel cs
    | cs => (readMember m cs).bind (readClass m (k.add 0) around fuel)

end DeviceClaims.Pattern
