import DeviceClaims.Json.Decode
import DeviceClaims.Json.Encode

namespace DeviceClaims

open Json

/-- What identifies an object and the write that made it. Every write raises the version. -/
structure ObjectMeta where
  name : String
  space : String := ""
  version : UInt64 := 0
  deriving DecidableEq, Inhabited

/-- A namespace and a name in it. -/
structure ObjectKey where
  space : String
  name : String
  deriving DecidableEq, Inhabited

namespace ObjectKey

/-- Keys are ordered by namespace first. -/
instance : KeyOrder ObjectKey := KeyOrder.ofCode (fun k => [k.space, k.name]) fun {a b} h => by
  cases a; cases b; simp_all

/-- The key as it is written: the namespace, a slash and the name. -/
def text (k : ObjectKey) : String := k.space ++ "/" ++ k.name

end ObjectKey

namespace ObjectMeta

def key (m : ObjectMeta) : ObjectKey := ⟨m.space, m.name⟩

def toJson (m : ObjectMeta) : Json := ofFields
  [("name", some (.str m.name)), ("namespace", some (.str m.space)),
    ("resourceVersion", some (ofU64 m.version))]

def decode : Decoder ObjectMeta :=
  .record "ObjectMeta" ["name", "namespace", "resourceVersion"] fun r =>
    .mk <$> r.field 0 "name" .str <*> r.fieldOr 1 "namespace" .str ""
      <*> r.fieldOr 2 "resourceVersion" .u64 0

end ObjectMeta

end DeviceClaims
