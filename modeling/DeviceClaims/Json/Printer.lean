import DeviceClaims.Json.Basic
import DeviceClaims.Double.Shortest
import DeviceClaims.Text.Hex

namespace DeviceClaims.Json

def escape (c : Char) : List Char :=
  if c = '"' then ['\\', '"']
  else if c = '\\' then ['\\', '\\']
  else if c = '\x08' then ['\\', 'b']
  else if c = '\t' then ['\\', 't']
  else if c = '\n' then ['\\', 'n']
  else if c = '\x0c' then ['\\', 'f']
  else if c = '\r' then ['\\', 'r']
  else if c.toNat < 0x20 then
    ['\\', 'u', '0', '0', Hex.digit (c.toNat / 16), Hex.digit (c.toNat % 16)]
  else [c]

def writeStr (s : String) : List Char := '"' :: (s.toList.flatMap escape ++ ['"'])

/-- The text of a value that holds no others. -/
def writeScalar : Json → List Char
  | bool true => ['t', 'r', 'u', 'e']
  | bool false => ['f', 'a', 'l', 's', 'e']
  | int i => Decimal.ofInt i
  | float x => x.write
  | str s => writeStr s
  | _ => ['n', 'u', 'l', 'l']

mutual

def write : Json → List Char
  | arr items => '[' :: (writeItems items ++ [']'])
  | obj members => '\x7b' :: (writeMembers members ++ ['\x7d'])
  | v => writeScalar v

def writeItems : List Json → List Char
  | [] => []
  | [j] => write j
  | j :: rest => write j ++ ',' :: writeItems rest

def writeMembers : List (String × Json) → List Char
  | [] => []
  | [(k, j)] => writeStr k ++ ':' :: write j
  | (k, j) :: rest => writeStr k ++ ':' :: (write j ++ ',' :: writeMembers rest)

end

/-- The beginning of a line at a level of nesting. -/
def newLine (level : Nat) : List Char := '\n' :: List.replicate (2 * level) ' '

mutual

/-- The text of a value on indented lines. An empty container takes no line of its own. -/
def writePretty (level : Nat) : Json → List Char
  | arr [] => ['[', ']']
  | arr items => '[' :: (writePrettyItems (level + 1) items ++ (newLine level ++ [']']))
  | obj [] => ['\x7b', '\x7d']
  | obj members => '\x7b' :: (writePrettyMembers (level + 1) members ++ (newLine level ++ ['\x7d']))
  | v => writeScalar v

def writePrettyItems (level : Nat) : List Json → List Char
  | [] => []
  | [j] => newLine level ++ writePretty level j
  | j :: rest => newLine level ++ (writePretty level j ++ ',' :: writePrettyItems level rest)

def writePrettyMembers (level : Nat) : List (String × Json) → List Char
  | [] => []
  | [(k, j)] => newLine level ++ (writeStr k ++ ':' :: ' ' :: writePretty level j)
  | (k, j) :: rest => newLine level ++
      (writeStr k ++ ':' :: ' ' :: (writePretty level j ++ ',' :: writePrettyMembers level rest))

end

def text (j : Json) : String := String.ofList j.write

/-- The text of a value on indented lines. -/
def prettyText (j : Json) : String := String.ofList (j.writePretty 0)

end DeviceClaims.Json
