import DeviceClaims.Json.Basic

namespace DeviceClaims.Json

/-- A record of the fields that have a value. -/
def ofFields (fields : List (String × Option Json)) : Json :=
  .obj (fields.filterMap fun f => f.2.map fun j => (f.1, j))

def ofStrings (ss : List String) : Json := .arr (ss.map .str)

def ofU32 (n : UInt32) : Json := .int n.toNat

def ofU64 (n : UInt64) : Json := .int n.toNat

/-- A list, left out if it is empty. -/
def unlessEmpty {α : Type} (f : α → Json) (as : List α) : Option Json :=
  if as.isEmpty then none else some (.arr (as.map f))

/-- A map as an object, its keys in their order. -/
def ofMap {κ α : Type} [KeyOrder κ] (key : κ → String) (f : α → Json) (m : SortedMap κ α) : Json :=
  .obj (m.entries.map fun e => (key e.1, f e.2))

/-- A map, left out if it is empty. -/
def unlessEmptyMap {κ α : Type} [KeyOrder κ] (key : κ → String) (f : α → Json)
    (m : SortedMap κ α) : Option Json :=
  if m.isEmpty then none else some (ofMap key f m)

/-- A number, left out if it is zero. -/
def unlessZero (n : UInt32) : Option Json := if n = 0 then none else some (ofU32 n)

end DeviceClaims.Json
