import DeviceClaims.Config
import DeviceClaims.Text.Pattern

namespace DeviceClaims.LogFilter

/-- Why a directive cannot be read. A filter is a list of directives divided by commas: a level, or the
name of a target or a span with a level after an equals sign. A directive that cannot be read is named
in a complaint and left out. -/
inductive Fault
  | form
  | level
  /-- A condition on a field asks for what is no pattern. -/
  | pattern
  /-- A condition on a field asks for the ends of words. -/
  | wordEnds
  /-- A part begins or ends inside a character. -/
  | split
  deriving DecidableEq, Repr

def Fault.message : Fault → String
  | form => "invalid filter directive"
  | level => "error parsing level filter: expected one of \"off\", \"error\", \"warn\", \"info\", " ++
      "\"debug\", \"trace\", or a number 0-5"
  | pattern => "invalid field filter: error building NFA"
  | wordEnds => "invalid field filter: unsupported regex feature for DFAs: cannot build DFAs for " ++
      "regexes with Unicode word boundaries; switch to ASCII word boundaries, or heuristically " ++
      "enable Unicode word boundaries or use a different regex engine"
  | split => "a part of a filter directive is not text"

def levels : List String := ["off", "error", "warn", "info", "debug", "trace"]

/-- Whether a text is a level: a name in either case, or its number. -/
def isLevel (text : List Char) : Bool :=
  levels.contains (String.ofList (text.map Char.toLower)) ||
    match readNumber (2 ^ 64) (String.ofList text) with
    | .ok n => n < levels.length
    | .error _ => false

/-- Whether a character can begin the name of a target. -/
def beginsName (c : Char) : Bool := c = '-' || c = ':' || c = '_' || Letter.isLetterOrDigit c

/-- Whether a text is a number without a sign. -/
def isNumeral (text : List Char) : Bool :=
  let rest := text.dropWhile Decimal.isDigit
  let fraction := if rest.head? = some '.' then rest.drop 1 else []
  let power := if rest.head? = some '.' then fraction.dropWhile Decimal.isDigit else rest
  let hasDigit := ((text.head?).any Decimal.isDigit) || ((fraction.head?).any Decimal.isDigit)
  ["inf", "infinity", "nan"].contains (String.ofList (text.map Char.toLower)) ||
    hasDigit && match power with
    | [] => true
    | e :: digits =>
      let digits := if digits.head? = some '+' ∨ digits.head? = some '-' then digits.drop 1 else digits
      (e = 'e' || e = 'E') && !digits.isEmpty && digits.all Decimal.isDigit

/-- Reads a condition on a field: what follows its first equals sign, up to the next one, is a number
or a pattern. -/
def checkCondition (condition : List Char) : Except Fault Unit :=
  let value := ((condition.dropWhile (· ≠ '=')).drop 1).takeWhile (· ≠ '=')
  if value.head? = some '+' && isNumeral (value.drop 1) then .ok ()
  else match Pattern.judge value with
    | .sound => .ok ()
    | .unsound => .error .pattern
    | .wordEnds => .error .wordEnds

/-- A text without so many bytes at its front, if they end with a character. -/
def dropBytes? : Nat → List Char → Option (List Char)
  | 0, cs => some cs
  | _ + 1, [] => none
  | n + 1, c :: cs => if c.utf8Size ≤ n + 1 then dropBytes? (n + 1 - c.utf8Size) cs else none
  termination_by _ cs => cs.length

/-- What is left of a text after so many bytes. -/
def suffix (text : List Char) (first : Nat) : Except Fault (List Char) :=
  match dropBytes? first text with
  | some cs => .ok cs
  | none => .error .split

/-- A part of a text, from and up to so many bytes. -/
def part (text : List Char) (first last : Nat) : Except Fault (List Char) := do
  let cs ← suffix text first
  let rest ← suffix text last
  return cs.take (cs.length - rest.length)

/-- What a directive is read up to, with the number of bytes before the part that is being read. -/
inductive Stage
  | start
  /-- In a level or the name of a target. -/
  | name (first : Nat)
  | span (first : Nat)
  /-- In a condition on a field. -/
  | field (first : Nat)
  | fields
  | target
  | level (first : Nat)
  deriving DecidableEq, Repr

/-- The stage after a character that so many bytes stand in front of. Parts that end there are taken
from `whole`. -/
def Stage.next (whole : List Char) (i : Nat) : Stage → Char → Except Fault Stage
  | start, '[' => .ok (span (i + 1))
  | start, c => if beginsName c then .ok (name i) else .error .form
  | name first, '=' => (part whole first i).map fun _ => level (i + 1)
  | name first, '[' => (part whole first i).map fun _ => span (i + 1)
  | span first, ']' => (part whole first i).map fun _ => target
  | span first, '{' => (part whole first i).map fun _ => field (i + 1)
  | field first, '}' => do
    let condition ← part whole first i
    if condition = [] then .error .form
    else (checkCondition condition).map fun _ => fields
  | fields, ']' => .ok target
  | fields, _ => .error .form
  | target, '=' => .ok (level (i + 1))
  | target, _ => .error .form
  | stage, _ => .ok stage

def Stage.finish (whole : List Char) : Stage → Except Fault Unit
  | name first => (suffix whole first).map fun _ => ()
  | level first => do
    let level ← suffix whole first
    if level = [] ∨ isLevel level then .ok () else .error .level
  | target => .ok ()
  | _ => .error .form

/-- Reads the rest of a directive that so many bytes stand in front of. -/
def readFrom (whole : List Char) (stage : Stage) (i : Nat) : List Char → Except Fault Unit
  | [] => stage.finish whole
  | c :: cs => do
    let stage ← stage.next whole i c
    readFrom whole stage (i + c.utf8Size) cs

/-- The characters of a text without blanks at either end. -/
def trim (cs : List Char) : List Char :=
  ((cs.dropWhile Letter.isBlank).reverse.dropWhile Letter.isBlank).reverse

/-- The parts of a directive are found in its text without the blanks around it, but they are taken from
the directive as it stands, at the same numbers of bytes. So blanks at its beginning shift every part,
and where a part would begin or end inside a character the process crashes. -/
def read (directive : String) : Except Fault Unit :=
  readFrom directive.toList .start 0 (trim directive.toList)

def directives (filter : String) : List String := (filter.splitOn ",").filter (· ≠ "")

/-- What is wrong with a directive of a filter; nothing is said if the process crashes over it. -/
def complaint? (directive : String) : Option (List String) := match read directive with
  | .ok () => some []
  | .error .split => none
  | .error f => some ["ignoring \x60" ++ directive ++ "\x60: " ++ f.message]

/-- The complaints about a filter, unless the process crashes over it. -/
def complaints? (filter : String) : Option (List String) :=
  ((directives filter).mapM complaint?).map List.flatten

/-- The complaints about a filter that gives way to another one if nothing is wrong with that. The
other one is read up to the first directive that is wrong. -/
def complaintsUnless? (preferred : Option String) (filter : String) : Option (List String) :=
  match preferred.map fun p => (directives p).find? fun d => complaint? d ≠ some [] with
  | none => complaints? filter
  | some none => some []
  | some (some d) => (complaint? d).bind fun _ => complaints? filter

end DeviceClaims.LogFilter
