import DeviceClaims.Json.Fault

namespace DeviceClaims.Json

/-- What a reading is part of: a text, contents that were read as a whole before, or a value. -/
inductive Origin
  | text
  | buffered
  | value
  deriving DecidableEq

/-- Where a reading stands: what it is part of and how many containers surround it. -/
structure Place where
  origin : Origin
  depth : Nat

def Place.inner (p : Place) : Place := { p with depth := p.depth + 1 }

/-- How deeply containers may be nested. -/
def maxDepth : Nat := 127

/-- Reads a value of a type. A decoder goes through a reading from left to right and reports the first
fault it meets. -/
abbrev Decoder (α : Type) := Place → Reading → Except Fault α

/-- The fault of a reading that is of no wanted type. -/
def wrongType (wanted : String) : Reading → Fault
  | .scalar .null => .wrongType .null wanted
  | .scalar (.bool b) => .wrongType (.bool b) wanted
  | .scalar (.int i) => .wrongType (.int i) wanted
  | .scalar (.float x) => .wrongType (.float x) wanted
  | .str s => .wrongType (.str s) wanted
  | .arr _ _ => .wrongType .sequence wanted
  | .obj _ _ => .wrongType .map wanted
  | _ => .malformed

namespace Decoder

variable {α β κ : Type}

def str : Decoder String := fun _ r => match r with
  | .str s => .ok s
  | r => .error (wrongType "a string" r)

def bool : Decoder Bool := fun _ r => match r with
  | .scalar (.bool b) => .ok b
  | r => .error (wrongType "a boolean" r)

/-- A whole number below a bound. -/
def natBelow (bound : Nat) (wanted : String) : Decoder Nat := fun _ r => match r with
  | .scalar (.int i) => if 0 ≤ i ∧ i < bound then .ok i.toNat else .error (.outOfRange i wanted)
  | r => .error (wrongType wanted r)

def u32 : Decoder UInt32 := fun p r => (natBelow (2 ^ 32) "u32" p r).map UInt32.ofNat

def u64 : Decoder UInt64 := fun p r => (natBelow (2 ^ 64) "u64" p r).map UInt64.ofNat

/-- A value that may be null. -/
def option (d : Decoder α) : Decoder (Option α) := fun p r => match r with
  | .scalar .null => .ok none
  | r => (d p r).map some

/-- A value of free form. -/
def freeForm : Decoder FreeForm := fun p r => match r.freeForm? (maxDepth - p.depth) with
  | some v => .ok v
  | none => .error .malformed

def ident (parse : String → Except IdError α) : Decoder α := fun p r => match str p r with
  | .error f => .error f
  | .ok s => match parse s with
    | .error e => .error (.badId e)
    | .ok a => .ok a

def items (d : Decoder α) (p : Place) : List Reading → Except Fault (List α)
  | [] => .ok []
  | r :: rest => match d p r with
    | .error f => .error f
    | .ok a => (items d p rest).map (a :: ·)

/-- A list, read from an array. -/
def list (d : Decoder α) : Decoder (List α) := fun p r => match r with
  | .arr rs whole => match items d p.inner rs with
    | .error f => .error f
    | .ok as => if whole then .ok as else .error .malformed
  | r => .error (wrongType "a sequence" r)

/-- The members of an object with their keys read. -/
def members (key : String → Except IdError κ) (d : Decoder α) (p : Place) :
    List (Option String × Reading) → Except Fault (List (κ × α))
  | [] => .ok []
  | (none, _) :: _ => .error .malformed
  | (some k, r) :: rest => match key k with
    | .error e => .error (.badId e)
    | .ok k => match d p r with
      | .error f => .error f
      | .ok a => (members key d p rest).map ((k, a) :: ·)

/-- A map, read from an object. Of members whose keys read the same the last counts. -/
def map [KeyOrder κ] (key : String → Except IdError κ) (d : Decoder α) : Decoder (SortedMap κ α) :=
  fun p r => match r with
  | .obj ms whole => match members key d p.inner ms with
    | .error f => .error f
    | .ok es => if whole then .ok (SortedMap.ofList es) else .error .malformed
  | r => .error (wrongType "a map" r)

def variantName (known : List String) : Decoder String := fun _ r => match r with
  | .str s => if s ∈ known then .ok s else .error (.unknownVariant s known)
  | r => .error (wrongType "variant identifier" r)

def pick (variants : List (String × α)) (name : String) : Option α :=
  (variants.find? (·.1 = name)).map (·.2)

/-- One of several names, as a string or as the key of a null. -/
def enumeration (variants : List (String × α)) : Decoder α := fun p r =>
  let known := variants.map (·.1)
  let named (s : String) : Except Fault α := match pick variants s with
    | some a => .ok a
    | none => .error (.unknownVariant s known)
  match r with
  | .str s => named s
  | .obj ((some k, v) :: rest) whole => match named k with
    | .error f => .error f
    | .ok a => match v with
      | .scalar .null =>
        if rest.isEmpty && whole then .ok a
        else if p.origin = .text then .error .malformed
        else .error (.wrongType .map "map with a single key")
      | v => .error (wrongType "unit" v)
  | r => if p.origin = .text then .error .malformed else .error (wrongType "string or map" r)

end Decoder

/-- A result whose fault says at which step of going through a record it was met. -/
def Timed (α : Type) := Except (Nat × Fault) α

namespace Timed

variable {α β : Type}

/-- A result that no step can spoil. -/
def ok (a : α) : Timed α := Except.ok a

/-- Both results; of two faults the one that is met first, and at the same step the left one. -/
def both (f : Timed (α → β)) (a : Timed α) : Timed β :=
  match f, a with
  | .ok f, .ok a => .ok (f a)
  | .ok _, .error e => .error e
  | .error e, .ok _ => .error e
  | .error e, .error e' => .error (if e'.1 < e.1 then e' else e)

instance : Applicative Timed where
  pure := ok
  map f a := both (ok f) a
  seq f a := both f (a ())

end Timed

/-- The contents of a record. -/
inductive Contents
  | members (ms : List (Option String × Reading))
  | items (rs : List Reading) (whole : Bool)

/-- A record that is being read. Members of other names are passed over and none may occur twice; an
array has the fields in their order. -/
structure RecordReading where
  place : Place
  name : String
  size : Nat
  contents : Contents

namespace RecordReading

variable {α : Type}

/-- The first member with a name, and how many stand before it. -/
def find? (name : String) : List (Option String × Reading) → Option (Nat × Reading)
  | [] => none
  | (k, r) :: rest =>
    if k = some name then some (0, r) else (find? name rest).map fun (i, r) => (i + 1, r)

def decodeAt (r : RecordReading) (d : Decoder α) (step : Nat) (v : Reading) : Timed α :=
  match d r.place v with
  | .ok a => .ok a
  | .error f => .error (step, f)

/-- The field at an index; what is said if it is absent is met after all that is present. -/
def fieldAt (r : RecordReading) (index : Nat) (name : String) (d : Decoder α)
    (absent : Option α) : Timed α :=
  match r.contents with
  | .members ms => match find? name ms with
    | some (i, v) => r.decodeAt d i v
    | none => match absent with
      | some a => .ok a
      | none => .error (ms.length, .missingField name)
  | .items rs whole => match rs[index]? with
    | some v => r.decodeAt d index v
    | none =>
      if whole then match absent with
        | some a => .ok a
        | none => .error (rs.length, .tooFew index r.name r.size)
      else .error (rs.length, .malformed)

def field (r : RecordReading) (index : Nat) (name : String) (d : Decoder α) : Timed α :=
  r.fieldAt index name d none

/-- A field that has a value when it is absent. -/
def fieldOr (r : RecordReading) (index : Nat) (name : String) (d : Decoder α) (absent : α) :
    Timed α :=
  r.fieldAt index name d (some absent)

end RecordReading

namespace Decoder

variable {α : Type}

/-- Goes through the members of an object: no known name may occur twice, and the value of another
name must keep to the grammar. -/
def survey (known : List String) (whole : Bool) (seen : List String) (step : Nat) :
    List (Option String × Reading) → Timed Unit
  | [] => if whole then .ok () else .error (step, .malformed)
  | (none, _) :: _ => .error (step, .malformed)
  | (some k, r) :: rest =>
    if k ∈ known then
      if k ∈ seen then .error (step, .duplicateField k)
      else survey known whole (k :: seen) (step + 1) rest
    else if r.skippable then survey known whole seen (step + 1) rest
    else .error (step, .malformed)

/-- Whether an array holds no more items than a record has fields. -/
def noSurplus (origin : Origin) (size found : Nat) (whole : Bool) : Except Fault Unit :=
  if found ≤ size ∧ whole then .ok ()
  else match origin with
    | .text => .error .malformed
    | .buffered => .error (.surplus found size)
    | .value => .error (.surplusItems found)

def record (name : String) (fields : List String) (build : RecordReading → Timed α) : Decoder α :=
  fun p r => match r with
  | .obj ms whole =>
    match (Timed.both ((fun _ a => a) <$> survey fields whole [] 0 ms)
        (build ⟨p.inner, name, fields.length, .members ms⟩)) with
    | .ok a => .ok a
    | .error (_, f) => .error f
  | .arr rs whole =>
    match build ⟨p.inner, name, fields.length, .items rs whole⟩ with
    | .error (_, f) => .error f
    | .ok a => (noSurplus p.origin fields.length rs.length whole).map fun _ => a
  | r => .error (wrongType ("struct " ++ name) r)

/-- Goes through the members of an object that carries its tag: the tag, and the other members,
which must all have values. -/
def untag (tag : String) (known : List String) (p : Place) (found : Option String) :
    List (Option String × Reading) →
    Except Fault (Option String × List (Option String × Reading))
  | [] => .ok (found, [])
  | (none, _) :: _ => .error .malformed
  | (some k, r) :: rest =>
    if k = tag then
      if found.isSome then .error (.duplicateField tag)
      else match variantName known p r with
        | .error f => .error f
        | .ok v => untag tag known p (some v) rest
    else match r.freeForm? (maxDepth - p.depth) with
      | none => .error .malformed
      | some _ => (untag tag known p found rest).map fun (v, ms) => (v, (some k, r) :: ms)

/-- A sum whose variants carry their name under a tag among their own fields, or as the first item
of an array. -/
def tagged (name tag : String) (variants : List (String × Decoder α)) : Decoder α :=
  fun p r =>
  let known := variants.map (·.1)
  let contents (v : String) (r : Reading) : Except Fault α := match pick variants v with
    | none => .error (.unknownVariant v known)
    | some d => d { p with origin := .buffered } r
  match r with
  | .obj ms whole => match untag tag known p.inner none ms with
    | .error f => .error f
    | .ok (found, ms) =>
      if !whole then .error .malformed
      else match found with
        | none => .error (.missingField tag)
        | some v => contents v (.obj ms true)
  | .arr [] whole => if whole then .error (.missingField tag) else .error .malformed
  | .arr (r :: rest) whole => match variantName known p.inner r with
    | .error f => .error f
    | .ok v =>
      if whole && rest.all (fun r => (r.freeForm? (maxDepth - p.inner.depth)).isSome) then
        contents v (.arr rest true)
      else .error .malformed
  | r => .error (wrongType ("internally tagged enum " ++ name) r)

/-- Decodes a text, which must hold nothing but the value. -/
def run (d : Decoder α) (s : String) : Except Fault α :=
  let (r, whole) := Reading.ofText s.toList
  match d ⟨.text, 0⟩ r with
  | .error f => .error f
  | .ok a => if whole then .ok a else .error .malformed

def ofValue (d : Decoder α) (j : Json) : Except Fault α := d ⟨.value, 0⟩ (Reading.ofJson j)

end Decoder

end DeviceClaims.Json
