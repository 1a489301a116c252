import DeviceClaims.Api.Claim
import DeviceClaims.Api.DeviceSpec
import DeviceClaims.Api.Inventory
import DeviceClaims.Proofs.Json.FreeForm
import DeviceClaims.Proofs.StoredForm

namespace DeviceClaims

open Json Decoder

theorem ParametersRef.reads_toJson (p : ParametersRef) : decode.Reads p.toJson p 1 := by
  have group := readsField_str p.apiGroup (some "") 0
  have kind := readsField_str p.kind none 0
  have name := readsField_str p.name none 0
  refine reads_record (.cons group (.cons kind (.cons name .nil))) (by simp) (by simp) fun r found => ?_
  rw [RecordReading.fieldOr, RecordReading.field, RecordReading.field, found 0 (by simp) group,
    found 1 (by simp) kind, found 2 (by simp) name]
  rfl

theorem ResourceClass.reads_toJson (c : ResourceClass) : decode.Reads c.toJson c 2 := by
  have name := readsField_str c.name none 1
  have reference : ReadsField (option ParametersRef.decode) (some none) c.parametersRef 1
      (c.parametersRef.map ParametersRef.toJson) := readsField_map (fun p _ => p.reads_toJson) nofun
  refine reads_record (.cons name (.cons reference .nil)) (by simp) (by simp) fun r found => ?_
  rw [RecordReading.field, RecordReading.fieldOr, found 0 (by simp) name, found 1 (by simp) reference]
  rfl

theorem SelectorOperator.reads_toJson (o : SelectorOperator) : decode.Reads o.toJson o 0 := by
  cases o <;> exact reads_enumeration rfl

theorem NodeRequirement.reads_toJson (q : NodeRequirement) : decode.Reads q.toJson q 2 := by
  have key := readsField_str q.key none 1
  have operator : ReadsField SelectorOperator.decode none q.operator 1 _ :=
    .present (q.operator.reads_toJson.mono (by decide))
  have values : ReadsField (list str) (some []) q.values 1 (some (ofStrings q.values)) :=
    .present (reads_list fun s _ => reads_str s)
  refine reads_record (.cons key (.cons operator (.cons values .nil))) (by simp) (by simp)
    fun r found => ?_
  rw [RecordReading.field, RecordReading.field, RecordReading.fieldOr, found 0 (by simp) key,
    found 1 (by simp) operator, found 2 (by simp) values]
  rfl

theorem NodeTerm.reads_toJson (t : NodeTerm) : decode.Reads t.toJson t 4 := by
  have fields : ReadsField (list NodeRequirement.decode) (some []) t.matchFields 3 _ :=
    .present (reads_list fun q _ => q.reads_toJson)
  refine reads_record (.cons fields .nil) (by simp) (by simp) fun r found => ?_
  rw [RecordReading.fieldOr, found 0 (by simp) fields]
  rfl

theorem NodeSelector.reads_toJson (s : NodeSelector) : decode.Reads s.toJson s 6 := by
  have terms : ReadsField (list NodeTerm.decode) (some []) s.terms 5 _ :=
    .present (reads_list fun t _ => t.reads_toJson)
  refine reads_record (.cons terms .nil) (by simp) (by simp) fun r found => ?_
  rw [RecordReading.fieldOr, found 0 (by simp) terms]
  rfl

theorem AllocationResult.reads_toJson (a : AllocationResult) : decode.Reads a.toJson a 7 := by
  have nodes : ReadsField (option NodeSelector.decode) (some none) a.availableOnNodes 6
      (a.availableOnNodes.map NodeSelector.toJson) := readsField_map (fun s _ => s.reads_toJson) nofun
  have shareable : ReadsField bool (some false) a.shareable 6 _ :=
    .present ((reads_bool a.shareable).mono (by decide))
  refine reads_record (.cons nodes (.cons shareable .nil)) (by simp) (by simp) fun r found => ?_
  rw [RecordReading.fieldOr, RecordReading.fieldOr, found 0 (by simp) nodes,
    found 1 (by simp) shareable]
  rfl

/-- The text of where a claim was allocated is read as that again. -/
theorem AllocationResult.run_text (a : AllocationResult) : decode.run a.toJson.text = .ok a :=
  a.reads_toJson.run_eq_ok (by decide)

theorem ResourceClaim.reads_toJson (c : ResourceClaim) : decode.Reads c.toJson c 8 := by
  have uid : ReadsField (ident ClaimUid.parse) none c.uid 7 _ :=
    .present ((reads_ident c.uid.parse_text).mono (by decide))
  have name := readsField_str c.name none 7
  have space := readsField_str c.space (some "") 7
  have reference : ReadsField (option ParametersRef.decode) (some none) c.parametersRef 7
      (c.parametersRef.map ParametersRef.toJson) :=
    readsField_map (fun p _ => p.reads_toJson.mono (by decide)) nofun
  have allocation : ReadsField (option AllocationResult.decode) (some none) c.allocation 7
      (c.allocation.map AllocationResult.toJson) := readsField_map (fun a _ => a.reads_toJson) nofun
  refine reads_record (.cons uid (.cons name (.cons space (.cons reference (.cons allocation .nil)))))
    (by simp) (by simp) fun r found => ?_
  rw [RecordReading.field, RecordReading.field, RecordReading.fieldOr, RecordReading.fieldOr,
    RecordReading.fieldOr, found 0 (by simp) uid, found 1 (by simp) name, found 2 (by simp) space,
    found 3 (by simp) reference, found 4 (by simp) allocation]
  rfl

theorem FakeSelector.reads_toJson (s : FakeSelector) : decode.Reads s.toJson s 1 := by
  have model : ReadsField (option str) (some none) s.model 0 (s.model.map .str) :=
    readsField_map (fun model _ => reads_str model) nofun
  refine reads_record (.cons model .nil) (by simp) (by simp) fun r found => ?_
  rw [RecordReading.fieldOr, found 0 (by simp) model]
  rfl

namespace ClaimParameters

variable (p : ClaimParameters)

theorem readsField_count : ReadsField u32 (some 1) p.count 1 (some (ofU32 p.count)) :=
  .present ((reads_u32 p.count).mono (by decide))

theorem readsField_selector : ReadsField (option FakeSelector.decode) (some none) p.selector 1
    (p.selector.map FakeSelector.toJson) := readsField_map (fun s _ => s.reads_toJson) nofun

/-- The fields of a claim's parameters are read as they were written, their usual contents included. -/
theorem reads_specToJson : decodeSpec.Reads p.specToJson p 2 := by
  have split := readsField_unlessZero p.split 1
  refine reads_record (.cons p.readsField_count (.cons split (.cons p.readsField_selector .nil)))
    (by simp [fields]) (by simp [fields]) fun r found => ?_
  rw [RecordReading.fieldOr, RecordReading.fieldOr, RecordReading.fieldOr,
    found 0 (by simp [fields]) p.readsField_count, found 1 (by simp [fields]) split,
    found 2 (by simp [fields]) p.readsField_selector]
  rfl

theorem reads_toJson : decode.Reads p.toJson p 2 :=
  p.reads_specToJson.tagged rfl (by simp [fields])

end ClaimParameters

theorem ClaimParametersObject.reads_toJson (p : ClaimParametersObject) : decode.Reads p.toJson p 3 := by
  have metadata : ReadsField ObjectMeta.decode none p.metadata 2 _ :=
    .present (p.metadata.reads_toJson.mono (by decide))
  have spec : ReadsField ClaimParameters.decodeSpec (some {}) p.spec 2 _ :=
    .present p.spec.reads_specToJson
  refine reads_record (.cons metadata (.cons spec .nil)) (by simp) (by simp) fun r found => ?_
  rw [RecordReading.field, RecordReading.fieldOr, found 0 (by simp) metadata, found 1 (by simp) spec]
  rfl

theorem DeviceKind.reads_toJson (k : DeviceKind) : decode.Reads k.toJson k 0 := by
  cases k
  exact reads_enumeration rfl

theorem DeviceSelector.reads_toJson (s : DeviceSelector) : decode.Reads s.toJson s 1 := by
  have kind : ReadsField DeviceKind.decode none s.kind 0 _ := .present s.kind.reads_toJson
  have name := readsField_str s.name none 0
  refine reads_record (.cons kind (.cons name .nil)) (by simp) (by simp) fun r found => ?_
  rw [RecordReading.field, RecordReading.field, found 0 (by simp) kind, found 1 (by simp) name]
  rfl

theorem ClassParameters.reads_toJson (p : ClassParameters) : decode.Reads p.toJson p 3 := by
  have selectors : ReadsField (list DeviceSelector.decode) none p.selectors 2 _ :=
    .present (reads_list fun s _ => s.reads_toJson)
  refine reads_record (.cons selectors .nil) (by simp) (by simp) fun r found => ?_
  rw [RecordReading.field, found 0 (by simp) selectors]
  rfl

theorem ClaimAllocation.reads_toJson (a : ClaimAllocation) : decode.Reads a.toJson a 9 := by
  have claim : ReadsField ResourceClaim.decode none a.claim 8 _ := .present a.claim.reads_toJson
  have named : ReadsField ResourceClass.decode none a.resourceClass 8 _ :=
    .present (a.resourceClass.reads_toJson.mono (by decide))
  have parameters : ReadsField ClaimParameters.decode none a.claimParameters 8 _ :=
    .present (a.claimParameters.reads_toJson.mono (by decide))
  have classParameters : ReadsField ClassParameters.decode none a.classParameters 8 _ :=
    .present (a.classParameters.reads_toJson.mono (by decide))
  have nodes : ReadsField (list str) (some []) a.unsuitableNodes 8 (some (ofStrings a.unsuitableNodes)) :=
    .present ((reads_list fun s _ => reads_str s).mono (by decide))
  refine reads_record
    (.cons claim (.cons named (.cons parameters (.cons classParameters (.cons nodes .nil)))))
    (by simp) (by simp) fun r found => ?_
  rw [RecordReading.field, RecordReading.field, RecordReading.field, RecordReading.field,
    RecordReading.fieldOr, found 0 (by simp) claim, found 1 (by simp) named,
    found 2 (by simp) parameters, found 3 (by simp) classParameters, found 4 (by simp) nodes]
  rfl

theorem Attribute.reads_toJson (a : Attribute) : decode.Reads a.toJson a 1 := by
  have name := readsField_str a.name none 0
  have value : ReadsField (option str) (some none) a.stringValue 0 (a.stringValue.map .str) :=
    readsField_map (fun s _ => reads_str s) nofun
  refine reads_record (.cons name (.cons value .nil)) (by simp) (by simp) fun r found => ?_
  rw [RecordReading.field, RecordReading.fieldOr, found 0 (by simp) name, found 1 (by simp) value]
  rfl

theorem NamedResource.reads_toJson (n : NamedResource) : decode.Reads n.toJson n 3 := by
  have name := readsField_str n.name none 2
  have attributes : ReadsField (list Attribute.decode) (some []) n.attributes 2 _ :=
    .present (reads_list fun a _ => a.reads_toJson)
  refine reads_record (.cons name (.cons attributes .nil)) (by simp) (by simp) fun r found => ?_
  rw [RecordReading.field, RecordReading.fieldOr, found 0 (by simp) name,
    found 1 (by simp) attributes]
  rfl

theorem ResourceModel.reads_toJson (m : ResourceModel) : decode.Reads m.toJson m 6 := by
  have instances : ReadsField (list NamedResource.decode) (some []) m.instances 4 _ :=
    .present (reads_list fun n _ => n.reads_toJson)
  have resources : ReadsField (record "NamedResourcesResources" ["instances"] fun r =>
      ResourceModel.mk <$> r.fieldOr 0 "instances" (.list NamedResource.decode) []) none m 5
      (some (ofFields [("instances", some (.arr (m.instances.map NamedResource.toJson)))])) := by
    refine .present (reads_record (.cons instances .nil) (by simp) (by simp) fun r found => ?_)
    rw [RecordReading.fieldOr, found 0 (by simp) instances]
    rfl
  refine reads_record (.cons resources .nil) (by simp) (by simp) fun r found => ?_
  rw [RecordReading.field, found 0 (by simp) resources]

theorem RuntimeDevice.reads_toJson (d : RuntimeDevice) : decode.Reads d.toJson d 3 := by
  have name := readsField_str d.name none 2
  have env : ReadsField (list str) (some []) d.env 1 (unlessEmpty .str d.env) :=
    readsField_unlessEmpty fun s _ => reads_str s
  have edits : ReadsField (record "ContainerEdits" ["env"] fun r => r.fieldOr 0 "env" (.list .str) [])
      none d.env 2 (some (ofFields [("env", unlessEmpty .str d.env)])) := by
    refine .present (reads_record (.cons env .nil) (by simp) (by simp) fun r found => ?_)
    rw [RecordReading.fieldOr, found 0 (by simp) env]
  refine reads_record (.cons name (.cons edits .nil)) (by simp) (by simp) fun r found => ?_
  rw [RecordReading.field, RecordReading.field, found 0 (by simp) name, found 1 (by simp) edits]
  rfl

theorem DeviceSpec.reads_toJson (s : DeviceSpec) : decode.Reads s.toJson s 5 := by
  have version := readsField_str s.cdiVersion none 4
  have kind := readsField_str s.kind none 4
  have devices : ReadsField (list RuntimeDevice.decode) none s.devices 4 _ :=
    .present (reads_list fun d _ => d.reads_toJson)
  refine reads_record (.cons version (.cons kind (.cons devices .nil))) (by simp) (by simp)
    fun r found => ?_
  rw [RecordReading.field, RecordReading.field, RecordReading.field, found 0 (by simp) version,
    found 1 (by simp) kind, found 2 (by simp) devices]
  rfl

section FreeForms

variable {levels : Nat}

theorem GeneratedFrom.reads_toJson (g : GeneratedFrom) : decode.Reads g.toJson g 1 := by
  have group := readsField_str g.apiGroup none 0
  have kind := readsField_str g.kind none 0
  have name := readsField_str g.name none 0
  refine reads_record (.cons group (.cons kind (.cons name .nil))) (by simp) (by simp) fun r found => ?_
  rw [RecordReading.field, RecordReading.field, RecordReading.field, found 0 (by simp) group,
    found 1 (by simp) kind, found 2 (by simp) name]
  rfl

/-- What names a resource in a record of its own. -/
theorem reads_named {outer inner field : String} (s : String) :
    (record outer ["namedResources"] fun r => r.field 0 "namedResources"
      (record inner [field] fun r => r.field 0 field str)).Reads
        (ofFields [("namedResources", some (ofFields [(field, some (.str s))]))]) s 2 := by
  have name := readsField_str s none 0
  have named : ReadsField (record inner [field] fun r => r.field 0 field str) none s 1
      (some (ofFields [(field, some (.str s))])) := by
    refine .present (reads_record (.cons name .nil) (by simp) (by simp) fun r found => ?_)
    rw [RecordReading.field, found 0 (by simp) name]
  refine reads_record (.cons named .nil) (by simp) (by simp) fun r found => ?_
  rw [RecordReading.field, found 0 (by simp) named]

/-- A driver's requests are read as they were written if their own parameters have no fractions and are
not nested too deeply. -/
theorem DriverRequests.reads_toJson {d : DriverRequests} (free : d.vendorParameters.json.floatFree = true)
    (shallow : d.vendorParameters.json.height ≤ levels) :
    decode.Reads d.toJson d (max 3 levels + 1) := by
  have driver := readsField_str d.driverName none (max 3 levels)
  have parameters : ReadsField freeForm none d.vendorParameters (max 3 levels) _ :=
    .present ((reads_freeForm free shallow).mono (Nat.le_max_right 3 levels))
  have requests : ReadsField (list decodeRequest) none d.selectors (max 3 levels)
      (some (.arr (d.selectors.map requestToJson))) :=
    .present ((reads_list fun s _ => reads_named s).mono (Nat.le_max_left 3 levels))
  refine reads_record (.cons driver (.cons parameters (.cons requests .nil))) (by simp) (by simp)
    fun r found => ?_
  rw [RecordReading.field, RecordReading.field, RecordReading.field, found 0 (by simp) driver,
    found 1 (by simp) parameters, found 2 (by simp) requests]
  rfl

/-- Structured parameters are read as they were written if what they hold in free form is. -/
theorem StructuredParameters.reads_toJson {p : StructuredParameters}
    (free : ∀ d ∈ p.driverRequests, d.vendorParameters.json.floatFree = true)
    (shallow : ∀ d ∈ p.driverRequests, d.vendorParameters.json.height ≤ levels) :
    decode.Reads p.toJson p (max 3 levels + 3) := by
  have metadata : ReadsField ObjectMeta.decode none p.metadata (max 3 levels + 2) _ :=
    .present (p.metadata.reads_toJson.mono (by omega))
  have source : ReadsField GeneratedFrom.decode none p.generatedFrom (max 3 levels + 2) _ :=
    .present (p.generatedFrom.reads_toJson.mono (by omega))
  have requests : ReadsField (list DriverRequests.decode) none p.driverRequests (max 3 levels + 2) _ :=
    .present (reads_list fun d member => DriverRequests.reads_toJson (free d member) (shallow d member))
  have shareable : ReadsField bool none p.shareable (max 3 levels + 2) _ :=
    .present ((reads_bool p.shareable).mono (by omega))
  refine reads_record (.cons metadata (.cons source (.cons requests (.cons shareable .nil)))) (by simp)
    (by simp) fun r found => ?_
  rw [RecordReading.field, RecordReading.field, RecordReading.field, RecordReading.field,
    found 0 (by simp) metadata, found 1 (by simp) source, found 2 (by simp) requests,
    found 3 (by simp) shareable]
  rfl

/-- A null would be read as no parameters. -/
theorem StructuredHandle.reads_toJson {h : StructuredHandle}
    (free : ∀ v ∈ h.vendorParameters, v.json.floatFree = true)
    (shallow : ∀ v ∈ h.vendorParameters, v.json.height ≤ levels)
    (present : ∀ v ∈ h.vendorParameters, v.json ≠ .null) :
    decode.Reads h.toJson h (max 3 levels + 1) := by
  have parameters : ReadsField (option freeForm) (some none) h.vendorParameters (max 3 levels)
      (h.vendorParameters.map (·.json)) :=
    readsField_map (fun v member => (reads_freeForm (free v member) (shallow v member)).mono
      (Nat.le_max_right 3 levels)) present
  have node := readsField_str h.nodeName (some "") (max 3 levels)
  have results : ReadsField (list decodeResult) (some []) h.results (max 3 levels)
      (some (.arr (h.results.map resultToJson))) :=
    .present ((reads_list fun s _ => reads_named s).mono (Nat.le_max_left 3 levels))
  refine reads_record (.cons parameters (.cons node (.cons results .nil))) (by simp) (by simp)
    fun r found => ?_
  rw [RecordReading.fieldOr, RecordReading.fieldOr, RecordReading.fieldOr,
    found 0 (by simp) parameters, found 1 (by simp) node, found 2 (by simp) results]
  rfl

end FreeForms

end DeviceClaims
