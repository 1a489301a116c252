import DeviceClaims.Json.Access
import DeviceClaims.SortedMap
import DeviceClaims.Wire.Record

namespace DeviceClaims.Wire

def textBytes (s : String) : List UInt8 := s.toUTF8.data.toList

def readText? (bs : List UInt8) : Option String := String.fromUTF8? ⟨bs.toArray⟩

/-- How a field of a message is written and read. Of the records read, a later one replaces an earlier
text, is added to a list, or is merged into an earlier message. Records of other numbers are passed
over. -/
structure Field (M : Type) where
  number : Nat
  name : String
  /-- Whether the content is taken as bytes whatever form a record gives for it. -/
  framed : Bool := false
  write : M → List UInt8
  /-- The length of what is written. -/
  size : M → Nat
  /-- The message after one more record of the field, if it has the right form; the first argument
  says how deep its content may be nested. -/
  merge : Nat → M → Payload → Option M
  toJson : M → Json
  /-- The message with the field as a JSON value gives it. -/
  ofJson : M → Json → M

/-- How a message is written and read. -/
structure Codec (M : Type) where
  /-- The message of which no field is written. -/
  zero : M
  fields : List (Field M)

namespace Codec

variable {M : Type}

/-- Writes a message, field by field. -/
def write (c : Codec M) (m : M) : List UInt8 := c.fields.flatMap fun f => f.write m

def size (c : Codec M) (m : M) : Nat := (c.fields.map fun f => f.size m).sum

/-- Whether a record of a number holds bytes whatever form it gives. -/
def framed (c : Codec M) (number : Nat) : Bool := c.fields.any fun f => f.number = number && f.framed

def mergeRecord (c : Codec M) (depth : Nat) (m : M) (r : Record) : Option M :=
  match c.fields.find? (·.number = r.number) with
  | none => some m
  | some f => f.merge depth m r.payload

def merge (c : Codec M) (depth : Nat) (m : M) (bs : List UInt8) : Option M := do
  let rs ← Record.readAll c.framed depth bs
  rs.foldlM (c.mergeRecord depth) m

/-- The message inside another that is read from a record's content. -/
def mergeInner (c : Codec M) (depth : Nat) (m : M) (p : Payload) : Option M :=
  match depth, p with
  | depth + 1, .bytes bs => c.merge depth m bs
  | _, _ => none

def read (c : Codec M) (bs : List UInt8) : Option M := c.merge Record.maxDepth c.zero bs

def toJson (c : Codec M) (m : M) : Json := .obj (c.fields.map fun f => (f.name, f.toJson m))

/-- The message of a JSON form. Fields that are not there are as in the message without fields. -/
def ofJson (c : Codec M) (j : Json) : M :=
  c.fields.foldl (fun m f => match j.member? f.name with
    | some v => f.ofJson m v
    | none => m) c.zero

end Codec

namespace Field

variable {M V : Type}

def textOf? : Payload → Option String
  | .bytes bs => readText? bs
  | _ => none

def writeText (number : Nat) (s : String) : List UInt8 := Record.write number (textBytes s)

def textSize (number : Nat) (s : String) : Nat := Record.size number s.utf8ByteSize

/-- A text, which is not written if it is empty. -/
def text (number : Nat) (name : String) (get : M → String) (set : String → M → M) : Field M where
  number := number
  name := name
  write m := if get m = "" then [] else writeText number (get m)
  size m := if get m = "" then 0 else textSize number (get m)
  merge _ m p := (textOf? p).map (set · m)
  toJson m := .str (get m)
  ofJson m j := set j.asText m

/-- A text that may be missing, which is written even if it is empty. -/
def optionalText (number : Nat) (name : String) (get : M → Option String) (set : Option String → M → M) :
    Field M where
  number := number
  name := name
  write m := match get m with
    | none => []
    | some s => writeText number s
  size m := match get m with
    | none => 0
    | some s => textSize number s
  merge _ m p := (textOf? p).map fun s => set (some s) m
  toJson m := ((get m).map .str).getD .null
  ofJson m j := set (if j = .null then none else some j.asText) m

def texts (number : Nat) (name : String) (get : M → List String) (set : List String → M → M) : Field M where
  number := number
  name := name
  write m := (get m).flatMap (writeText number)
  size m := ((get m).map (textSize number)).sum
  merge _ m p := (textOf? p).map fun s => set (get m ++ [s]) m
  toJson m := .arr ((get m).map .str)
  ofJson m j := set (j.items.map (·.asText)) m

def writeMessage (c : Codec V) (number : Nat) (v : V) : List UInt8 := Record.write number (c.write v)

def messageSize (c : Codec V) (number : Nat) (v : V) : Nat := Record.size number (c.size v)

/-- A message, which is not written if nothing of it would be. -/
def message [DecidableEq V] (c : Codec V) (number : Nat) (name : String) (get : M → V) (set : V → M → M) :
    Field M where
  number := number
  name := name
  write m := if get m = c.zero then [] else writeMessage c number (get m)
  size m := if get m = c.zero then 0 else messageSize c number (get m)
  merge depth m p := (c.mergeInner depth (get m) p).map (set · m)
  toJson m := c.toJson (get m)
  ofJson m j := set (c.ofJson j) m

def optionalMessage (c : Codec V) (number : Nat) (name : String) (get : M → Option V) (set : Option V → M → M) :
    Field M where
  number := number
  name := name
  write m := match get m with
    | none => []
    | some v => writeMessage c number v
  size m := match get m with
    | none => 0
    | some v => messageSize c number v
  merge depth m p := (c.mergeInner depth ((get m).getD c.zero) p).map fun v => set (some v) m
  toJson m := ((get m).map c.toJson).getD .null
  ofJson m j := set (if j = .null then none else some (c.ofJson j)) m

def messages (c : Codec V) (number : Nat) (name : String) (get : M → List V) (set : List V → M → M) : Field M where
  number := number
  name := name
  write m := (get m).flatMap (writeMessage c number)
  size m := ((get m).map (messageSize c number)).sum
  merge depth m p := (c.mergeInner depth c.zero p).map fun v => set (get m ++ [v]) m
  toJson m := .arr ((get m).map c.toJson)
  ofJson m j := set (j.items.map c.ofJson) m

/-- An entry of a map, a message of a key and a value. -/
def entry [DecidableEq V] (c : Codec V) : Codec (String × V) where
  zero := ("", c.zero)
  fields := [text 1 "key" (·.1) (fun k e => (k, e.2)),
    message c 2 "value" (·.2) (fun v e => (e.1, v))]

/-- A map, written as a list of its entries; of two entries with the same key the later counts. -/
def table [DecidableEq V] (c : Codec V) (number : Nat) (name : String) (get : M → SortedMap String V)
    (set : SortedMap String V → M → M) : Field M where
  number := number
  name := name
  framed := true
  write m := (get m).entries.flatMap (writeMessage (entry c) number)
  size m := ((get m).entries.map (messageSize (entry c) number)).sum
  merge depth m p := ((entry c).mergeInner depth ("", c.zero) p).map fun e =>
    set ((get m).insert e.1 e.2) m
  toJson m := .obj ((get m).entries.map fun e => (e.1, c.toJson e.2))
  ofJson m j := set (.ofList (j.members.map fun e => (e.1, c.ofJson e.2))) m

end Field

namespace Codec

def unit : Codec Unit := ⟨(), []⟩

def text (name : String) : Codec String := ⟨"", [.text 1 name id (fun s _ => s)]⟩

def texts (name : String) : Codec (List String) := ⟨[], [.texts 1 name id (fun s _ => s)]⟩

/-- A message that is another one, which may be missing. -/
def optional {V : Type} (name : String) (c : Codec V) : Codec (Option V) :=
  ⟨none, [.optionalMessage c 1 name id (fun v _ => v)]⟩

def list {V : Type} (name : String) (c : Codec V) : Codec (List V) :=
  ⟨[], [.messages c 1 name id (fun v _ => v)]⟩

def table {V : Type} [DecidableEq V] (name : String) (c : Codec V) : Codec (SortedMap String V) :=
  ⟨.empty, [.table c 1 name id (fun v _ => v)]⟩

end Codec

end DeviceClaims.Wire
