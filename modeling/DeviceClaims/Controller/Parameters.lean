import DeviceClaims.Api.Parameters

namespace DeviceClaims

open Json

/-- The contents of a file of parameters. -/
structure ParametersFile where
  classes : List ClassParametersObject := []
  claims : List ClaimParametersObject := []
  deriving DecidableEq, Inhabited

def ParametersFile.decode : Decoder ParametersFile :=
  .record "ParametersFile" ["deviceClassParameters", "fakeClaimParameters"] fun r =>
    .mk <$> r.fieldOr 0 "deviceClassParameters" (.list ClassParametersObject.decode) []
      <*> r.fieldOr 1 "fakeClaimParameters" (.list ClaimParametersObject.decode) []

/-- Stored parameters: those of classes by name, those of claims by namespace and name. -/
structure ParametersStore where
  classes : SortedMap String ClassParameters := .empty
  claims : SortedMap ObjectKey ClaimParametersObject := .empty
  deriving DecidableEq, Inhabited

namespace ParametersStore

def putClass (s : ParametersStore) (p : ClassParametersObject) : ParametersStore :=
  { s with classes := s.classes.insert p.metadata.name p.spec }

def putClaim (s : ParametersStore) (p : ClaimParametersObject) : ParametersStore :=
  { s with claims := s.claims.insert p.metadata.key p }

/-- Stores what a file lists, one object after the other. -/
def ofFile (f : ParametersFile) : ParametersStore :=
  f.claims.foldl putClaim (f.classes.foldl putClass {})

def parse (text : String) : Except Fault ParametersStore :=
  (ParametersFile.decode.run text).map ofFile

def classParameters (s : ParametersStore) (name : String) : Option ClassParameters :=
  s.classes.get? name

def claimParameters (s : ParametersStore) (key : ObjectKey) : Option ClaimParameters :=
  (s.claims.get? key).map (·.spec)

/-- The parameters of all claims, by namespace and then by name. -/
def claimList (s : ParametersStore) : List ClaimParametersObject := s.claims.values

end ParametersStore

end DeviceClaims
