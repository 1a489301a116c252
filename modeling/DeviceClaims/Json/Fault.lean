import DeviceClaims.Ident
import DeviceClaims.Json.Reading
import DeviceClaims.Double.Shortest
import DeviceClaims.Text.Place
import DeviceClaims.Text.Quoted

namespace DeviceClaims.Json

/-- What was found where something of another type was wanted. -/
inductive Found
  | null
  | bool (b : Bool)
  | int (i : Int)
  | float (x : Double)
  | str (s : String)
  | sequence
  | map
  deriving DecidableEq

/-- Why a reading is not of a type. -/
inductive Fault
  | malformed
  | wrongType (found : Found) (wanted : String)
  | outOfRange (i : Int) (wanted : String)
  | missingField (name : String)
  | duplicateField (name : String)
  | unknownVariant (found : String) (known : List String)
  | tooFew (found : Nat) (record : String) (size : Nat)
  | surplus (found size : Nat)
  | surplusItems (found : Nat)
  | badId (fault : IdError)
  deriving DecidableEq

/-- What is said of a value that was found. -/
def Found.message : Found → String
  | null => "null"
  | bool true => "boolean \x60true\x60"
  | bool false => "boolean \x60false\x60"
  | int i => "integer \x60" ++ String.ofList (Decimal.ofInt i) ++ "\x60"
  | float x => "floating point \x60" ++ String.ofList x.write ++ "\x60"
  | str s => "string " ++ Quoted.write s
  | sequence => "sequence"
  | map => "map"

namespace Fault

/-- A name in the marks that set it off from a sentence. -/
def marked (name : String) : String := "\x60" ++ name ++ "\x60"

def alternatives : List String → String
  | [] => "there are no variants"
  | [a] => "expected " ++ marked a
  | [a, b] => "expected " ++ marked a ++ " or " ++ marked b
  | names => "expected one of " ++ ", ".intercalate (names.map marked)

def elements (n : Nat) : String := if n = 1 then "1 element" else Decimal.text n ++ " elements"

def message : Fault → String
  | malformed => "malformed JSON"
  | wrongType found wanted => "invalid type: " ++ found.message ++ ", expected " ++ wanted
  | outOfRange i wanted =>
    "invalid value: " ++ (Found.int i).message ++ ", expected " ++ wanted
  | missingField name => "missing field " ++ marked name
  | duplicateField name => "duplicate field " ++ marked name
  | unknownVariant found known => "unknown variant " ++ marked found ++ ", " ++ alternatives known
  | tooFew found record size => "invalid length " ++ Decimal.text found ++ ", expected struct " ++
      record ++ " with " ++ elements size
  | surplus found size => "invalid length " ++ Decimal.text found ++ ", expected " ++
      elements size ++ " in sequence"
  | surplusItems found => "invalid length " ++ Decimal.text found ++
      ", expected fewer elements in array"
  | badId fault => fault.message

def about? : Fault → Option String
  | wrongType (.str s) _ | unknownVariant s _ => some s
  | _ => none

/-- The text after the first string in it that reads as given. -/
def afterString? (s : String) : Nat → List Char → Option (List Char)
  | 0, _ => none
  | fuel + 1, cs => (Token.read? (cs.dropWhile Token.isBlank)).bind fun (t, rest) =>
    if t = .str s then some rest else afterString? s fuel rest

/-- Where the fault lies in a text, if it is about a string: right after the string. -/
def place? (f : Fault) (text : String) : Option TextPlace :=
  let cs := text.toList
  (f.about?.bind fun s => afterString? s cs.length cs).map fun rest =>
    .after (cs.take (cs.length - rest.length))

end Fault

end DeviceClaims.Json
