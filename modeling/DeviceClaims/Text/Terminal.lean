namespace DeviceClaims.Terminal

def bold (s : String) : String := "\x1b[1m" ++ s ++ "\x1b[0m"

/-- A text in bold with a line under it. -/
def heading (s : String) : String := "\x1b[1m\x1b[4m" ++ s ++ "\x1b[0m"

/-- What a terminal is reading. A sequence begins with an escape; where it ends is found as a terminal
finds it, character by character. Where it is broken by a character that shows, the text goes on, but
the next control character resumes the sequence. -/
inductive State
  | ground
  | escaped
  /-- An escape with signs that qualify it. -/
  | qualified
  | control
  /-- The parameters of a string that is meant for the device. -/
  | parameters
  /-- A string that ends with the character of that name. -/
  | string
  /-- A string that may also end with a bell. -/
  | command
  deriving DecidableEq, Repr

/-- Whether a byte that ends strings is part of a character. -/
def endsString (c : Char) : Bool := (String.utf8EncodeChar c).contains 0x9c

/-- The state after a character that does not show, if it is another. -/
def change (s : State) (c : Char) : Option State :=
  let n := c.toNat
  if c = '\x18' ∨ c = '\x1a' then some .ground
  else if c = '\x1b' then some .escaped
  else match s with
  | .ground => none
  | .escaped =>
    if n < 0x20 ∨ 0x7f ≤ n then none
    else if n < 0x30 then some .qualified
    else match c with
      | '[' => some .control
      | ']' => some .command
      | 'P' => some .parameters
      | 'X' | '^' | '_' => some .string
      | _ => some .ground
  | .qualified => if 0x30 ≤ n ∧ n < 0x7f then some .ground else none
  | .control => if 0x40 ≤ n ∧ n < 0x7f then some .ground else none
  | .parameters => if 0x40 ≤ n ∧ n < 0x7f then some .string else none
  | .string => if endsString c then some .ground else none
  | .command => if c = '\x07' then some .ground else none

/-- Whether a character shows in a state. -/
def shows (s : State) (c : Char) : Bool :=
  if c.isWhitespace ∨ c = '\x0c' then match s with
    | .ground => true
    | .escaped | .qualified | .control => c ≠ ' '
    | _ => false
  else s = .ground ∧ 0x20 < c.toNat ∧ c ≠ '\x7f'

/-- What is left of characters that follow one that showed or one that did not. -/
def strip (shown : Bool) (s : State) : List Char → List Char
  | [] => []
  | c :: cs =>
    if shows (if shown then .ground else s) c then
      c :: strip true (if c.toNat < 0x80 then s else .ground) cs
    else strip false ((change s c).getD s) cs

/-- What is left of a text where there is no terminal. -/
def plain (s : String) : String := String.ofList (strip false .ground s.toList)

end DeviceClaims.Terminal
