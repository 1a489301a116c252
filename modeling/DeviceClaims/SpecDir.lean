import DeviceClaims.Api.DeviceSpec
import DeviceClaims.Json.Printer

namespace DeviceClaims

/-- One request to a directory of specifications. -/
inductive SpecAccess
  | writeCommon (spec : DeviceSpec)
  | writeClaim (claim : ClaimUid) (spec : DeviceSpec)
  | deleteClaim (claim : ClaimUid)
  deriving DecidableEq

/-- What a directory answers: nothing, or why it failed. -/
abbrev SpecAccess.Answer := Except String Unit

/-- The files of a directory, which may itself be missing. There is one file for the common device and
one for every prepared claim. -/
structure SpecDir where
  present : Bool := true
  common : Option DeviceSpec := none
  claims : SortedMap ClaimUid DeviceSpec := .empty
  deriving DecidableEq, Inhabited

namespace SpecDir

/-- The failure to write into a directory that is not there. -/
def missing : String := "No such file or directory (os error 2)"

/-- Answers a request. To delete what is not there succeeds. -/
def apply (d : SpecDir) : SpecAccess → SpecAccess.Answer × SpecDir
  | .writeCommon spec =>
    if d.present then (.ok (), { d with common := some spec }) else (.error missing, d)
  | .writeClaim claim spec =>
    if d.present then (.ok (), { d with claims := d.claims.insert claim spec })
    else (.error missing, d)
  | .deleteClaim claim => (.ok (), { d with claims := d.claims.erase claim })

def rmdir (_ : SpecDir) : SpecDir := { present := false }

def mkdir (d : SpecDir) : SpecDir := { d with present := true }

def files (d : SpecDir) : List (String × String) :=
  (match d.common with
    | some spec => [(DeviceSpec.fileName DeviceSpec.commonName, spec.toJson.prettyText)]
    | none => []) ++
  d.claims.entries.map fun e => (DeviceSpec.fileName e.1.text, e.2.toJson.prettyText)

end SpecDir

/-- A directory and how many of the next requests of each sort fail. -/
structure FaultySpecDir where
  inner : SpecDir := {}
  failCommon : Nat := 0
  failWrites : Nat := 0
  failDeletes : Nat := 0
  deriving DecidableEq, Inhabited

namespace FaultySpecDir

/-- What is said of a planned failure. -/
def planned : String := "injected cdi failure"

/-- Answers a request that no failure is planned for. -/
def pass (d : FaultySpecDir) (a : SpecAccess) : SpecAccess.Answer × FaultySpecDir :=
  let (answer, inner) := d.inner.apply a
  (answer, { d with inner })

/-- Answers a request; one that fails changes no file. -/
def apply (d : FaultySpecDir) (a : SpecAccess) : SpecAccess.Answer × FaultySpecDir :=
  match a with
  | .writeCommon _ => match d.failCommon with
    | 0 => d.pass a
    | n + 1 => (.error planned, { d with failCommon := n })
  | .writeClaim .. => match d.failWrites with
    | 0 => d.pass a
    | n + 1 => (.error planned, { d with failWrites := n })
  | .deleteClaim _ => match d.failDeletes with
    | 0 => d.pass a
    | n + 1 => (.error planned, { d with failDeletes := n })

end FaultySpecDir

end DeviceClaims
