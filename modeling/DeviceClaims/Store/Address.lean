import DeviceClaims.Disk
import DeviceClaims.Store.Backend
import DeviceClaims.Text.Percent
import DeviceClaims.Text.Utf8

namespace DeviceClaims

/-- How a file may be used. -/
inductive AccessMode
  | read
  | write
  /-- It may be written and made. -/
  | create
  /-- There is no file. -/
  | memory
  deriving DecidableEq, Repr

namespace AccessMode

def ofName? : String → Option AccessMode
  | "ro" => some read
  | "rw" => some write
  | "rwc" => some create
  | "memory" => some memory
  | _ => none

def extent : AccessMode → Nat
  | read => 1
  | write => 2
  | create => 6
  | memory => 128

/-- How much must be allowed for a mode to be chosen. -/
def demand : AccessMode → Nat
  | memory => 0
  | mode => mode.extent

end AccessMode

/-- Where a store is and how it is opened. An address is a path, or a URI of the form
`file:path?name=value&name=value`, whose options say how the file is opened. Some addresses name no
file: their store begins empty and is not kept. -/
structure StoreAddress where
  path : String
  mode : AccessMode := .create
  /-- Whether nobody else changes the file, so that it is only read. -/
  immutable : Option Bool := none
  /-- Whether the file is used without locks. -/
  unlocked : Option Bool := none
  /-- The layer that files are used through. -/
  layer : String := "unix"
  /-- The file after which a file is made that has to be made. -/
  likeness : Option String := none
  deriving DecidableEq, Repr

namespace StoreAddress

/-- A part of a URI without its escapes. It ends where a zero byte is escaped. -/
def plain (part : List Char) : String :=
  Utf8.repair ((Percent.decode (Utf8.bytes (String.ofList part))).takeWhile (· ≠ 0))

/-- The number that hexadecimal digits spell, if there are digits only and no more than eight after
the zeros at the front. -/
def hexNumber? (text : List Char) : Option Nat :=
  let digits := (text.takeWhile fun c => (Hex.value? c).isSome)
  let significant := digits.dropWhile (· = '0')
  if digits.isEmpty ∨ 8 < significant.length then none
  else some ((significant.filterMap Hex.value?).foldl (16 * · + ·) 0)

/-- The number at the front of a text, which is zero if it needs more than 31 bits. -/
def frontNumber (text : List Char) : Nat :=
  let decimal := Decimal.toNat (text.takeWhile Decimal.isDigit)
  let n := match text with
    | '0' :: x :: digits => if x = 'x' ∨ x = 'X' then (hexNumber? digits).getD 0 else decimal
    | _ => decimal
  if n < 2 ^ 31 then n else 0

/-- Whether a text says yes: a number other than zero in its lowest eight bits, or a word. -/
def isYes (text : String) : Bool :=
  if (text.toList.head?).any Decimal.isDigit then frontNumber text.toList % 256 ≠ 0
  else ["on", "yes", "true"].contains (String.ofList (text.toList.map Char.toLower))

/-- The address with an option. Options that are not known change nothing; of those that do not say
which layer, cache or mode is used the first counts. -/
def setOption (a : StoreAddress) (name value : String) : Except DatabaseFault StoreAddress :=
  match name with
  | "vfs" => .ok { a with layer := value }
  | "cache" => if value = "shared" ∨ value = "private" then .ok a else .error (.noMode "cache" value)
  | "mode" => match AccessMode.ofName? value with
    | none => .error (.noMode "access" value)
    | some mode =>
      if a.mode.extent < mode.demand then .error (.refusedMode value) else .ok { a with mode }
  | "immutable" => .ok { a with immutable := a.immutable.or (some (isYes value)) }
  | "nolock" => .ok { a with unlocked := a.unlocked.or (some (isYes value)) }
  | "modeof" => .ok { a with likeness := a.likeness.or (some value) }
  | _ => .ok a

/-- The name and the value of an option; what stands in front of no equals sign is a name. -/
def splitOption (text : String) : String × String :=
  (plain (text.toList.takeWhile (· ≠ '=')), plain ((text.toList.dropWhile (· ≠ '=')).drop 1))

def layers : List String := ["unix", "unix-excl", "unix-dotfile", "unix-none", "memdb"]

/-- Reads what follows the authority of a URI. A number sign ends it. -/
def readPlace (text : List Char) : Except DatabaseFault StoreAddress := do
  let text := text.takeWhile (· ≠ '#')
  let options := ((String.ofList ((text.dropWhile (· ≠ '?')).drop 1)).splitOn "&").map splitOption
  let a ← (options.filter (·.1 ≠ "")).foldlM (fun a o => setOption a o.1 o.2)
    { path := plain (text.takeWhile (· ≠ '?')) }
  if layers.contains a.layer then return a else .error (.noLayer a.layer)

/-- Reads an address. The authority of a URI may only be the machine itself. -/
def parse (text : String) : Except DatabaseFault StoreAddress :=
  match stripMark? "file:".toList text.toList with
  | none => .ok { path := text }
  | some ('/' :: '/' :: rest) =>
    let authority := String.ofList (rest.takeWhile (· ≠ '/'))
    if authority = "" ∨ authority = "localhost" then readPlace (rest.dropWhile (· ≠ '/'))
    else .error (.authority authority)
  | some rest => readPlace rest

def isTransient (a : StoreAddress) : Bool :=
  a.path = "" || a.path = ":memory:" || a.mode = .memory || a.layer = "memdb"

def isReadOnly (a : StoreAddress) : Bool :=
  a.mode = .read || (!a.isTransient && a.immutable = some true)

/-- Whether others that use the same file cannot be told apart, so that a store that was made to be
shared does not open. -/
def isUnshared (a : StoreAddress) : Bool :=
  a.unlocked = some true || a.layer = "unix-none" || a.layer = "unix-dotfile"

end StoreAddress

/-- What stands where a store is looked for. -/
inductive StoreFile
  | held (store : TableStore)
  /-- A file that holds something else. -/
  | foreign
  /-- A file that does not keep what is written to it. -/
  | sink
  /-- A directory, which can only be opened to be read. -/
  | directory
  /-- A directory that shows nothing to a reader. -/
  | view
  /-- Nothing, and a file can be made. -/
  | free
  | blocked
  /-- The file is missing after which this one is to be made. -/
  | unlike
  deriving DecidableEq, Inhabited

namespace StoreFile

/-- The store that is opened at an address that leads here. A new store is written to. -/
def openAt (f : StoreFile) (text : String) (a : StoreAddress) : Except DatabaseFault Backend :=
  let new : Except DatabaseFault Backend :=
    if a.isReadOnly then .error .readOnly else .ok (.table {})
  let unopened : Except DatabaseFault Backend := .error (.unopened (some text))
  if a.isTransient then new
  else match f with
    | blocked => unopened
    | unlike => .error .device
    | foreign => .error .noDatabase
    | sink => .error (if a.isReadOnly then .readOnly else .device)
    | directory => if a.mode = .read then .error .device else unopened
    | view => if a.mode = .read then .error .readOnly else unopened
    | free => if a.mode = .create then new else unopened
    | held t =>
      if a.immutable = some true then .ok (.readOnly t)
      else if a.isUnshared then .error (.unopened none)
      else .ok (if a.isReadOnly then .readOnly t else .table t)

end StoreFile

namespace Disk

/-- The longest path of a store from the root, in bytes, beside what is added to it for the files
that are kept with the store. -/
def maxStorePath : Nat := 504

/-- The longest path on the way there. -/
def maxStoreWay : Nat := 511

/-- Where a store is whose path is given. -/
def storePlace? (d : Disk) (path : String) : Option (List String) :=
  (d.settle (maxStoreWay + 1) maxLinks (origin d.home path) (names path)).filter fun place =>
    place ≠ [] && pathSize place ≤ maxStorePath

/-- What stands at an address on a disk on which one file holds a store. -/
def storeAt (d : Disk) (holder : String) (t : TableStore) (a : StoreAddress) : StoreFile :=
  let held := d.storePlace? holder
  let d := d.put (held.getD []) .bytes
  match d.storePlace? a.path with
  | none => .blocked
  | some place =>
    if a.likeness.any fun path => !d.holds path then .unlike
    else if some place = held then .held t
    else match d.entry? place with
      | some .directory => .directory
      | some .view => .view
      | some .sink => .sink
      | some (.text _) | some .bytes => .foreign
      | some (.link _) => .blocked
      | none => if d.isOpen place then .free else .blocked

end Disk

end DeviceClaims
