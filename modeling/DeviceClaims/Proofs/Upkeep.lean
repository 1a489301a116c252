import DeviceClaims.Proofs.Custody
import DeviceClaims.Proofs.Discipline.Plugins

namespace DeviceClaims

/-- Conditions on what a plugin knows and on what its record says is prepared, if there is one; which
claims are given up, with how many devices the plugin is started, and with what that fails. -/
structure Upkeep where
  key : ObjectKey
  knows : DeviceState → Prop
  shows : Option (SortedMap ClaimUid (List PreparedDevice)) → Prop
  released : ClaimUid → Prop := fun _ => True
  started : Nat → Prop := fun _ => True
  fails : Nat → PluginError → Prop := fun _ _ => True

namespace Upkeep

/-- The conditions hold: between calls, what the plugin knows satisfies its one. -/
structure Kept (U : Upkeep) (w : World) : Prop where
  up : ∀ s, w.plugins U.key = .up s → U.knows s
  shows : U.shows (w.published U.key)

/-- A plugin that starts with so many devices makes of its record what it may know, or fails as it
may. -/
structure Restores (U : Upkeep) (count : Nat) : Prop where
  restore : ∀ spec s, U.shows (some spec.prepared) →
    (DeviceState.ofDevices (Emulator.devices U.key.name count)).sync spec = .ok s → U.knows s
  refuse : ∀ spec e, U.shows (some spec.prepared) →
    (DeviceState.ofDevices (Emulator.devices U.key.name count)).sync spec = .error e → U.fails count e
  store : ∀ e, U.fails count (.store e)
  specFile : ∀ detail, U.fails count (.specFile detail)

/-- Whatever the plugin does with its devices keeps the conditions. -/
structure Closed (U : Upkeep) : Prop where
  publish : ∀ s, U.knows s → U.shows (some s.recorded)
  prepare : ∀ s claim devices ds, U.knows s → s.prepared.get? claim = none →
    s.expandAll devices = .ok ds → U.knows { s with prepared := s.prepared.insert claim ds }
  release : ∀ s claim, U.knows s → U.released claim →
    U.knows { s with prepared := s.prepared.erase claim }
  create : U.shows none → U.shows (some .empty)
  restores : ∀ count, U.started count → U.Restores count

/-- No call relies on anything but that the conditions hold. -/
def discipline (U : Upkeep) : Discipline where
  inv := U.Kept
  rely _ _ _ := True
  rely_refl _ _ := trivial
  rely_trans _ _ := trivial

variable {U : Upkeep} {S : Setting} {call : Nat} {op : Operation} {w w' : World} {α : Type}

/-- What is known of what the plugin knows, which is no condition on the world. -/
abbrev fact (U : Upkeep) (call : Nat) (holds : Prop) : U.discipline.Lasting call :=
  .fact U.discipline call holds

theorem Kept.permits_of_kept (kept : U.Kept w') : U.discipline.Permits call op w w' :=
  ⟨fun _ _ => trivial, kept, trivial⟩

/-- The conditions are on the plugin and on what its record says is prepared only. -/
theorem Kept.congr (kept : U.Kept w) (plugins : w'.plugins = w.plugins)
    (published : w'.published U.key = w.published U.key) : U.Kept w' :=
  ⟨fun s up => kept.up s (plugins ▸ up), published ▸ kept.shows⟩

theorem Kept.put {r : NodeRecord} (kept : U.Kept w) (key : r.key = U.key)
    (shows : U.shows (some r.spec.prepared)) : U.Kept (w.put r) := by
  have at_key : (w.put r).record U.key = some r := key ▸ World.record_put_self w r
  refine ⟨kept.up, ?_⟩
  rw [World.published_of_record at_key]
  exact shows

theorem Kept.setPlugin (kept : U.Kept w) {phase : PluginPhase}
    (up : ∀ s, phase = .up s → U.knows s) : U.Kept (w.setPlugin U.key phase) := by
  refine ⟨fun s at_up => up s ?_, kept.shows⟩
  exact (Function.update_self ..).symm.trans at_up

theorem Kept.shows_of_record (kept : U.Kept w) {r : NodeRecord} (at_key : w.record U.key = some r) :
    U.shows (some r.spec.prepared) :=
  World.published_of_record at_key ▸ kept.shows

open Discipline

/-- The plugin may make a change that keeps the condition on the record. -/
theorem writes_of_shows {change : Change} {r : NodeRecord} {before after : Prop} (key : r.key = U.key)
    (keeps : before → U.shows (some r.spec.prepared) → U.shows (some (change.on r).spec.prepared))
    (gives : before → U.shows (some r.spec.prepared) → after) :
    U.discipline.Writes S call op change r (U.fact call before)
      (U.fact call after) := by
  intro v later _ at_key holds
  have kept : U.Kept v := later.inv
  have shows := kept.shows_of_record (key ▸ at_key)
  have after : U.Kept (v.put (change.on r)) := kept.put ((change.on_key r).trans key) (keeps holds shows)
  exact ⟨after.permits_of_kept, gives holds shows⟩

/-- Requests about specifications do not touch the conditions. -/
theorem files_of_imp {a : SpecAccess} {before done failed : Prop} (gives : before → done)
    (leaves : before → failed) :
    U.discipline.Files S call op a (U.fact call before) (U.fact call done)
      (U.fact call failed) := by
  intro w holds
  refine Meets.ask_spec (fun v later key _ => ?_) fun v _ _ detail _ _ => leaves holds
  have kept : U.Kept v := later.inv
  have after : U.Kept (v.setSpecs key ((v.specs key).apply a).2) := kept.congr rfl rfl
  refine ⟨after.permits_of_kept, fun w' _ => ?_⟩
  generalize ((v.specs key).apply a).1 = answer
  cases answer with
  | ok => exact gives holds
  | error detail => exact leaves holds

end Upkeep

end DeviceClaims
