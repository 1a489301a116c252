import DeviceClaims.Text.Hex
import DeviceClaims.Text.Letter

namespace DeviceClaims.Pattern

/-- How a pattern is read from a place on. -/
structure Mode where
  /-- Letters stand for those of either case. -/
  caseless : Bool := false
  /-- A pattern is about characters; else it is about bytes. -/
  wide : Bool := true
  /-- Blanks and remarks are passed over. -/
  spaced : Bool := false
  deriving DecidableEq, Repr

/-- The text after blanks and remarks. A remark begins with a number sign and ends with its line. -/
def skipBlanks (remark : Bool) : List Char → List Char
  | [] => []
  | c :: cs =>
    if remark then skipBlanks (c ≠ '\n') cs
    else if Letter.isBlank c then skipBlanks false cs
    else if c = '#' then skipBlanks true cs
    else c :: cs

/-- The text after what is passed over. -/
def Mode.skip (m : Mode) (cs : List Char) : List Char :=
  if m.spaced then skipBlanks false cs else cs

/-- What follows what is passed over, as far as it is looked at: of a remark the first character. -/
def Mode.peek (m : Mode) (cs : List Char) : Option Char :=
  if m.spaced then match cs.dropWhile Letter.isBlank with
    | '#' :: cs => (cs.dropWhile Letter.isBlank).head?
    | cs => cs.head?
  else cs.head?

/-- What a character or an escape stands for. Nothing is known of how letters of either case belong
together, nor of families of characters beyond ASCII, so patterns that ask for those are unsound. -/
inductive Item
  /-- A character; `byte` if it is given by two digits. -/
  | char (c : Char) (byte : Bool)
  /-- The members of a family of characters, or all others. -/
  | family (negated : Bool)
  /-- A place between characters; `word` if it is one where a word begins or ends, or does not. -/
  | place (word : Bool)
  deriving DecidableEq, Repr

namespace Item

def isSound (m : Mode) : Item → Bool
  | char c byte => if m.wide then !m.caseless else !byte || c.toNat < 0x80
  | family negated => !m.wide && !negated
  | place _ => true

def isMember (m : Mode) : Item → Bool
  | char c _ => m.wide || c.toNat < 0x80
  | family negated => !m.wide && !negated
  | place _ => false

end Item

/-- Whether a character that is escaped stands for itself. -/
def isMark (c : Char) : Bool := c.toNat < 0x80 && !c.isAlphanum && c ≠ '<' && c ≠ '>'

/-- The letters that stand for control characters. -/
def controls : List (Char × Char) :=
  [('a', '\x07'), ('f', '\x0c'), ('t', '\t'), ('n', '\n'), ('r', '\r'), ('v', '\x0b')]

/-- Reads so many hexadecimal digits, after a number. -/
def readHex (m : Mode) (n : Nat) : Nat → List Char → Option (Nat × List Char)
  | 0, cs => some (n, cs)
  | left + 1, cs => match m.skip cs with
    | [] => none
    | c :: cs => (Hex.value? c).bind fun v => readHex m (16 * n + v) left cs

def readCode (m : Mode) (digits : Nat) (cs : List Char) : Option (Item × List Char) :=
  (readHex m 0 digits cs).bind fun (n, cs) =>
    if n.isValidChar then some (.char (Char.ofNat n) (digits = 2), cs) else none

def readEscape (m : Mode) : List Char → Option (Item × List Char)
  | [] => none
  | c :: cs =>
    if isMark c then some (.char c false, cs)
    else match controls.lookup c with
      | some c => some (.char c false, cs)
      | none => match c with
        | 'x' => readCode m 2 cs
        | 'u' => readCode m 4 cs
        | 'U' => readCode m 8 cs
        | 'd' | 's' | 'w' => some (.family false, cs)
        | 'D' | 'S' | 'W' => some (.family true, cs)
        | 'A' | 'z' => some (.place false, cs)
        | 'b' => if cs.head? = some '{' then none else some (.place true, cs)
        | 'B' | '<' | '>' => some (.place true, cs)
        | _ => none

/-- The letters that say how the rest of a group is read. -/
def modeLetters : List Char := ['i', 'm', 's', 'U', 'u', 'R', 'x']

def Mode.set (m : Mode) (letter : Char) (on : Bool) : Mode :=
  match letter with
  | 'i' => { m with caseless := on }
  | 'u' => { m with wide := on }
  | 'x' => { m with spaced := on }
  | _ => m

/-- Reads letters that say how a group is read, up to a colon or the end of the group, and says
whether it was a colon. No letter may stand there twice; those after a hyphen say no. -/
def readMode (m : Mode) (seen : List Char) (off hyphen : Bool) :
    List Char → Option (Mode × Bool × List Char)
  | [] => none
  | ':' :: cs => if hyphen then none else some (m, true, cs)
  | ')' :: cs => if hyphen || seen.isEmpty then none else some (m, false, cs)
  | '-' :: cs => if off then none else readMode m seen true true cs
  | c :: cs =>
    if modeLetters.contains c && !seen.contains c then
      readMode (m.set c (!off)) (c :: seen) off false cs
    else none

/-- Reads the name of a group up to its end; `name` holds what was read of it, the last first. -/
def readName (name : List Char) : List Char → Option (List Char × List Char)
  | [] => none
  | '>' :: cs => if name = [] then none else some (name, cs)
  | c :: cs =>
    let fits := if name = [] then c = '_' || Letter.isLetter c
      else ['_', '.', '[', ']'].contains c || Letter.isLetterOrDigit c
    if fits then readName (c :: name) cs else none

/-- How a group begins. -/
inductive Opening
  | group (mode : Mode) (rest : List Char)
  | named (name rest : List Char)
  /-- It is no group but says how the rest of the group around it is read. -/
  | setting (mode : Mode) (rest : List Char)

/-- Reads what follows an opening parenthesis. Groups that look ahead or back are not known. -/
def readOpening (m : Mode) (cs : List Char) : Option Opening :=
  match m.skip cs with
  | '?' :: cs => match cs with
    | '=' :: _ | '!' :: _ | '<' :: '=' :: _ | '<' :: '!' :: _ => none
    | '<' :: cs | 'P' :: '<' :: cs => (readName [] cs).map fun (name, cs) => .named name cs
    | cs => (readMode m [] false false cs).map fun (m, colon, cs) =>
      if colon then .group m cs else .setting m cs
  | cs => some (.group m cs)

end DeviceClaims.Pattern
