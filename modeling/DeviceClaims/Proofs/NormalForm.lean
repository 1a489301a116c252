import DeviceClaims.Api.Forms
import DeviceClaims.Proofs.ClaimForm
import DeviceClaims.Proofs.Json.Nesting

namespace DeviceClaims

open Json Decoder

/-- The driver's parameters in a request have room where they stand. -/
theorem DriverRequests.ensures_decode :
    decode.Ensures fun n (d : DriverRequests) => d.vendorParameters.json.height ≤ maxDepth - (n + 1) := by
  refine ensures_record (fun n (d : DriverRequests) => d.vendorParameters.json.height ≤ maxDepth - n)
    fun flat made => ?_
  obtain ⟨_, _, made₁, -, rfl⟩ := Timed.of_seq made
  obtain ⟨_, _, made₀, parameters, rfl⟩ := Timed.of_seq made₁
  obtain ⟨_, -, rfl⟩ := Timed.of_map made₀
  exact (ensures_freeForm.of_fieldAt flat parameters).resolve_right nofun

/-- Structured parameters that were read are nested no more deeply than the text may be. -/
theorem StructuredParameters.ensures_decode :
    decode.Ensures fun n (p : StructuredParameters) => ∀ d ∈ p.driverRequests,
      d.vendorParameters.json.height ≤ maxDepth - (n + 3) := by
  refine ensures_record (fun n (p : StructuredParameters) => ∀ d ∈ p.driverRequests,
    d.vendorParameters.json.height ≤ maxDepth - (n + 2)) fun flat made => ?_
  obtain ⟨_, _, made₂, -, rfl⟩ := Timed.of_seq made
  obtain ⟨_, _, made₁, requests, rfl⟩ := Timed.of_seq made₂
  obtain ⟨_, _, made₀, -, rfl⟩ := Timed.of_seq made₁
  obtain ⟨_, -, rfl⟩ := Timed.of_map made₀
  exact (DriverRequests.ensures_decode.list.of_fieldAt flat requests).resolve_right nofun

/-- A handle that was read holds parameters that are nested no more deeply than the text may be. -/
theorem StructuredHandle.ensures_decode :
    decode.Ensures fun n (h : StructuredHandle) => ∀ v ∈ h.vendorParameters,
      v.json.height ≤ maxDepth - (n + 1) ∧ v.json ≠ .null := by
  refine ensures_record (fun n (h : StructuredHandle) => ∀ v ∈ h.vendorParameters,
    v.json.height ≤ maxDepth - n ∧ v.json ≠ .null) fun flat made => ?_
  obtain ⟨_, _, made₁, -, rfl⟩ := Timed.of_seq made
  obtain ⟨_, _, made₀, -, rfl⟩ := Timed.of_seq made₁
  obtain ⟨_, parameters, rfl⟩ := Timed.of_map made₀
  rcases ensures_optionFreeForm.of_fieldAt flat parameters with read | usual
  · exact read
  · cases usual
    exact nofun

/-- The forms in which objects, claims, parameters and specifications are kept and passed on. -/
inductive Form
  | nodeRecord
  | resourceClaim
  | resourceClass
  | claimAllocation
  | claimParameters
  | classParameters
  | claimParametersObject
  | allocationResult
  | resourceModel
  | structuredParameters
  | deviceSpec
  | structuredHandle

namespace Form

def Value : Form → Type
  | nodeRecord => NodeRecord
  | resourceClaim => ResourceClaim
  | resourceClass => ResourceClass
  | claimAllocation => ClaimAllocation
  | claimParameters => ClaimParameters
  | classParameters => ClassParameters
  | claimParametersObject => ClaimParametersObject
  | allocationResult => AllocationResult
  | resourceModel => ResourceModel
  | structuredParameters => StructuredParameters
  | deviceSpec => DeviceSpec
  | structuredHandle => StructuredHandle

def decode : (f : Form) → Decoder f.Value
  | nodeRecord => NodeRecord.decode
  | resourceClaim => ResourceClaim.decode
  | resourceClass => ResourceClass.decode
  | claimAllocation => ClaimAllocation.decode
  | claimParameters => ClaimParameters.decode
  | classParameters => ClassParameters.decode
  | claimParametersObject => ClaimParametersObject.decode
  | allocationResult => AllocationResult.decode
  | resourceModel => ResourceModel.decode
  | structuredParameters => StructuredParameters.decode
  | deviceSpec => DeviceSpec.decode
  | structuredHandle => StructuredHandle.decode

def toJson : (f : Form) → f.Value → Json
  | nodeRecord => NodeRecord.toJson
  | resourceClaim => ResourceClaim.toJson
  | resourceClass => ResourceClass.toJson
  | claimAllocation => ClaimAllocation.toJson
  | claimParameters => ClaimParameters.toJson
  | classParameters => ClassParameters.toJson
  | claimParametersObject => ClaimParametersObject.toJson
  | allocationResult => AllocationResult.toJson
  | resourceModel => ResourceModel.toJson
  | structuredParameters => StructuredParameters.toJson
  | deviceSpec => DeviceSpec.toJson
  | structuredHandle => StructuredHandle.toJson

/-- The values of free form in a value, each with the number of containers that surround it. -/
def freeForms : (f : Form) → f.Value → List (Nat × FreeForm)
  | structuredParameters, (p : StructuredParameters) =>
    p.driverRequests.map fun d => (3, d.vendorParameters)
  | structuredHandle, (h : StructuredHandle) => h.vendorParameters.toList.map fun v => (1, v)
  | _, _ => []

/-- No number with a fraction or exponent occurs in the values of free form. -/
def FloatFree (f : Form) (a : f.Value) : Prop := ∀ e ∈ f.freeForms a, e.2.json.floatFree = true

/-- The values of free form are nested no deeper than a text may be where they stand. -/
def Shallow (f : Form) (a : f.Value) : Prop := ∀ e ∈ f.freeForms a, e.1 + e.2.json.height ≤ maxDepth

/-- A handle has no parameters that are null. -/
def Present (f : Form) (a : f.Value) : Prop :=
  f = structuredHandle → ∀ e ∈ f.freeForms a, e.2.json ≠ .null

theorem run_text : ∀ (f : Form) (a : f.Value), f.FloatFree a → f.Shallow a → f.Present a →
    f.decode.run (f.toJson a).text = .ok a
  | nodeRecord, a, _, _, _ => NodeRecord.run_text a
  | resourceClaim, a, _, _, _ => (ResourceClaim.reads_toJson a).run_eq_ok (by decide)
  | resourceClass, a, _, _, _ => (ResourceClass.reads_toJson a).run_eq_ok (by decide)
  | claimAllocation, a, _, _, _ => (ClaimAllocation.reads_toJson a).run_eq_ok (by decide)
  | claimParameters, a, _, _, _ => (ClaimParameters.reads_toJson a).run_eq_ok (by decide)
  | classParameters, a, _, _, _ => (ClassParameters.reads_toJson a).run_eq_ok (by decide)
  | claimParametersObject, a, _, _, _ => (ClaimParametersObject.reads_toJson a).run_eq_ok (by decide)
  | allocationResult, a, _, _, _ => AllocationResult.run_text a
  | resourceModel, a, _, _, _ => (ResourceModel.reads_toJson a).run_eq_ok (by decide)
  | deviceSpec, a, _, _, _ => (DeviceSpec.reads_toJson a).run_eq_ok (by decide)
  | structuredParameters, (p : StructuredParameters), free, shallow, _ => by
    have free : ∀ d ∈ p.driverRequests, d.vendorParameters.json.floatFree = true :=
      List.forall_mem_map.mp free
    have shallow : ∀ d ∈ p.driverRequests, d.vendorParameters.json.height ≤ maxDepth - 3 :=
      fun d member => Nat.le_sub_of_add_le' (List.forall_mem_map.mp shallow d member)
    exact (p.reads_toJson free shallow).run_eq_ok (by decide)
  | structuredHandle, (h : StructuredHandle), free, shallow, present => by
    have within {v : FreeForm} (member : v ∈ h.vendorParameters) :
        (1, v) ∈ structuredHandle.freeForms h := List.mem_map_of_mem (Option.mem_toList.mpr member)
    have free : ∀ v ∈ h.vendorParameters, v.json.floatFree = true := fun v member => free _ (within member)
    have shallow : ∀ v ∈ h.vendorParameters, v.json.height ≤ maxDepth - 1 := fun v member =>
      Nat.le_sub_of_add_le' (shallow _ (within member))
    have present : ∀ v ∈ h.vendorParameters, v.json ≠ .null := fun v member =>
      present rfl _ (within member)
    exact (h.reads_toJson free shallow present).run_eq_ok (by decide)

/-- What is read of a text fits into a text again. -/
theorem of_run : ∀ (f : Form) {text : String} {a : f.Value}, f.decode.run text = .ok a →
    f.Shallow a ∧ f.Present a
  | structuredParameters, _, p, decoded => by
    refine ⟨List.forall_mem_map.mpr fun d member => ?_, nofun⟩
    have room : 3 ≤ maxDepth := by decide
    exact Nat.add_le_of_le_sub' room (StructuredParameters.ensures_decode.of_run decoded d member)
  | structuredHandle, _, h, decoded => by
    have each := StructuredHandle.ensures_decode.of_run decoded
    have room : 1 ≤ maxDepth := by decide
    refine ⟨List.forall_mem_map.mpr fun v member => ?_, fun _ => List.forall_mem_map.mpr fun v member => ?_⟩
    · exact Nat.add_le_of_le_sub' room (each v (Option.mem_toList.mp member)).1
    · exact (each v (Option.mem_toList.mp member)).2
  | nodeRecord, _, _, _ | resourceClaim, _, _, _ | resourceClass, _, _, _ | claimAllocation, _, _, _
  | claimParameters, _, _, _ | classParameters, _, _, _ | claimParametersObject, _, _, _
  | allocationResult, _, _, _ | resourceModel, _, _, _ | deviceSpec, _, _, _ => ⟨nofun, nofun⟩

/-- What is written of a value is read as the value, if the values of free form in it are without
fractions and exponents and fit into a text; for a handle, whose parameters must not be null, if it was
read from a text. So what is written of what was read from a text is a normal form of the text, and the
normal form of that is itself. -/
theorem loses_nothing (f : Form) :
    (f ≠ structuredHandle → ∀ a, f.FloatFree a → f.Shallow a → f.decode.run (f.toJson a).text = .ok a) ∧
      ∀ text a, f.decode.run text = .ok a → f.FloatFree a →
        f.decode.run (f.toJson a).text = .ok a ∧
        Forms.normal f.decode f.toJson text = .ok (f.toJson a).text ∧
        Forms.normal f.decode f.toJson (f.toJson a).text = .ok (f.toJson a).text := by
  refine ⟨fun other a free shallow => f.run_text a free shallow fun same => absurd same other,
    fun text a decoded free => ?_⟩
  obtain ⟨shallow, present⟩ := f.of_run decoded
  have again := f.run_text a free shallow present
  refine ⟨again, ?_, ?_⟩
  · rw [Forms.normal, decoded]
    rfl
  · rw [Forms.normal, again]
    rfl

end Form

namespace Nested

/-- Parameters that hold others, and texts that are escaped. -/
def parameters : FreeForm :=
  ⟨.obj [("limits", .arr [.int (-1), .null, .obj []]), ("model", .str "a\"b\n")], by decide +kernel⟩

def structured : StructuredParameters where
  metadata := { name := "claim", space := "default" }
  generatedFrom := ⟨driverName, ClaimParameters.kind, "claim"⟩
  driverRequests := [⟨driverName, parameters, ["true"]⟩]
  shareable := false

/-- Blanks, an unknown member and what is usual anyway are not kept. -/
def source : String :=
  "\x7b\"results\": [], \"other\": 1.5, \"vendorClaimParameters\": \x7b\"b\": 2, \"a\": [[]]\x7d\x7d"

def handle : StructuredHandle where
  vendorParameters := some ⟨.obj [("a", .arr [.arr []]), ("b", .int 2)], by decide +kernel⟩

end Nested

open Nested in
/-- Structured parameters and a handle with nested contents, and a text that is not in normal form. -/
theorem Form.loses_nothing_nested :
    Form.structuredParameters.decode.run (structured.toJson).text = .ok structured ∧
      Form.structuredHandle.decode.run source = .ok handle ∧
      Form.structuredHandle.decode.run handle.toJson.text = .ok handle ∧
      source ≠ handle.toJson.text := by
  have shown : (StructuredHandle.decode.run source).toOption = some handle := by decide +kernel
  have read : Form.structuredHandle.decode.run source = .ok handle := by
    change StructuredHandle.decode.run source = .ok handle
    cases decoded : StructuredHandle.decode.run source with
    | error => simp [decoded, Except.toOption] at shown
    | ok => simpa [decoded, Except.toOption] using shown
  have printed := (loses_nothing .structuredParameters).1 nofun structured
    (List.forall_mem_singleton.mpr rfl) (List.forall_mem_singleton.mpr (by decide +kernel))
  have stable := ((loses_nothing .structuredHandle).2 source handle read (List.forall_mem_singleton.mpr rfl)).1
  exact ⟨printed, read, stable, by decide +kernel⟩

end DeviceClaims
