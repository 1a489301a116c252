import DeviceClaims.Json.Number
import DeviceClaims.Text.Hex

namespace DeviceClaims.Json

/-- A token of JSON text. A token can be well formed and yet stand for nothing: a number that is too
large, or a string that names half of a surrogate pair. Where the text is no token at all the list ends
with `broken`. -/
inductive Token
  | openArr
  | closeArr
  | openObj
  | closeObj
  | comma
  | colon
  | scalar (value : Json)
  | str (s : String)
  | voidNumber
  | voidStr
  | broken
  deriving DecidableEq

namespace Token

/-- The character that a letter after a backslash stands for. -/
def unescape? (c : Char) : Option Char :=
  if c = '"' then some '"'
  else if c = '\\' then some '\\'
  else if c = '/' then some '/'
  else if c = 'b' then some '\x08'
  else if c = 'f' then some '\x0c'
  else if c = 'n' then some '\n'
  else if c = 'r' then some '\r'
  else if c = 't' then some '\t'
  else none

def code? (a b c d : Char) : Option Nat := do
  let a ← Hex.value? a
  let b ← Hex.value? b
  let c ← Hex.value? c
  let d ← Hex.value? d
  return ((a * 16 + b) * 16 + c) * 16 + d

/-- Reads a string up to its closing quote. `acc` holds the characters so far, the last first;
`high` is the first half of a surrogate pair whose second half has yet to come; `sound` is whether
all escapes so far name characters. Of a string that is not sound only the end is found. -/
def readStr (acc : List Char) (high : Option Nat) (sound : Bool) :
    List Char → Option (Option (List Char) × List Char)
  | [] => none
  | '"' :: rest => some (if sound && high.isNone then some acc.reverse else none, rest)
  | '\\' :: 'u' :: a :: b :: c :: d :: rest =>
    match code? a b c d with
    | none => none
    | some n =>
      if 0xdc00 ≤ n ∧ n < 0xe000 then
        match high with
        | some h =>
          readStr (Char.ofNat (0x10000 + (h - 0xd800) * 0x400 + (n - 0xdc00)) :: acc) none sound rest
        | none => readStr acc none false rest
      else if 0xd800 ≤ n ∧ n < 0xdc00 then readStr acc (some n) (sound && high.isNone) rest
      else readStr (Char.ofNat n :: acc) none (sound && high.isNone) rest
  | '\\' :: c :: rest =>
    match unescape? c with
    | none => none
    | some c => readStr (c :: acc) none (sound && high.isNone) rest
  | c :: rest =>
    if c.toNat < 0x20 ∨ c = '\\' then none
    else readStr (c :: acc) none (sound && high.isNone) rest

def isBlank (c : Char) : Bool := c = ' ' || c = '\n' || c = '\t' || c = '\r'

/-- The rest of a text after a given beginning. -/
def after? : List Char → List Char → Option (List Char)
  | [], cs => some cs
  | _ :: _, [] => none
  | w :: ws, c :: cs => if w = c then after? ws cs else none

/-- Reads one token at the beginning of a text that begins with no white space. -/
def read? : List Char → Option (Token × List Char)
  | [] => none
  | c :: cs =>
    if c = '[' then some (.openArr, cs)
    else if c = ']' then some (.closeArr, cs)
    else if c = '\x7b' then some (.openObj, cs)
    else if c = '\x7d' then some (.closeObj, cs)
    else if c = ',' then some (.comma, cs)
    else if c = ':' then some (.colon, cs)
    else if c = '"' then
      match readStr [] none true cs with
      | none => none
      | some (some s, rest) => some (.str (String.ofList s), rest)
      | some (none, rest) => some (.voidStr, rest)
    else if c = 'n' then (after? ['u', 'l', 'l'] cs).map (.scalar .null, ·)
    else if c = 't' then (after? ['r', 'u', 'e'] cs).map (.scalar (.bool true), ·)
    else if c = 'f' then (after? ['a', 'l', 's', 'e'] cs).map (.scalar (.bool false), ·)
    else match Numeral.read? (c :: cs) with
      | none => none
      | some (z, rest) => match z.value with
        | none => some (.voidNumber, rest)
        | some v => some (.scalar v, rest)

/-- The tokens of a text; `fuel` bounds their number. -/
def tokenize : Nat → List Char → List Token
  | 0, _ => []
  | fuel + 1, cs =>
    match cs.dropWhile isBlank with
    | [] => []
    | c :: cs => match read? (c :: cs) with
      | none => [.broken]
      | some (t, rest) => t :: tokenize fuel rest

/-- The tokens of a text, which has at least one character for each. -/
def ofText (cs : List Char) : List Token := tokenize cs.length cs

end Token

end DeviceClaims.Json
