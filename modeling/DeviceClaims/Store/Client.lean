import DeviceClaims.Program

namespace DeviceClaims.StoreClient

def get (key : ObjectKey) : Prog (Except StoreError NodeRecord) := .store (.get key)

/-- Creates the record empty and not ready. -/
def create (key : ObjectKey) : Prog (Except StoreError NodeRecord) :=
  .store (.create (.new key.name key.space))

/-- Reads the record, or creates it if there is none. -/
def getOrCreate (key : ObjectKey) : Prog (Except StoreError NodeRecord) := do
  match ← get key with
  | .ok r => return .ok r
  | .error e => if e.isNotFound then create key else return .error e

/-- Writes a record that was read with other contents. -/
def updateSpec (base : NodeRecord) (spec : NodeSpec) : Prog (Except StoreError NodeRecord) :=
  .store (.update { base with spec })

/-- Writes a record that was read with another status. -/
def updateStatus (base : NodeRecord) (status : Readiness) : Prog (Except StoreError NodeRecord) :=
  .store (.update { base with status })

/-- Deletes the record if there is one. -/
def delete (key : ObjectKey) : Prog (Except StoreError Unit) := do
  match (← Prog.store (.delete key) : Except StoreError Unit) with
  | .ok () => return .ok ()
  | .error e => if e.isNotFound then return .ok () else return .error e

def setStatus (key : ObjectKey) (status : Readiness) : Prog (Except StoreError NodeRecord) :=
  (get key).thenOk fun base => updateStatus base status

end DeviceClaims.StoreClient
