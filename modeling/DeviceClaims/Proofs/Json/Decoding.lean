import DeviceClaims.Json.Encode
import DeviceClaims.Proofs.Json.Reading

namespace DeviceClaims.Json

theorem arePlain_iff {js : List Json} : arePlain js = true ↔ ∀ j ∈ js, j.isPlain = true := by
  induction js with
  | nil => simp [arePlain]
  | cons j js ih => simp [arePlain, ih]

theorem havePlain_iff {ms : List (String × Json)} :
    havePlain ms = true ↔ ∀ m ∈ ms, m.2.isPlain = true := by
  induction ms with
  | nil => simp [havePlain]
  | cons m ms ih => simp [havePlain, ih]

theorem heightItems_le {js : List Json} {n : Nat} : heightItems js ≤ n ↔ ∀ j ∈ js, j.height ≤ n := by
  induction js with
  | nil => simp [heightItems]
  | cons j js ih => simp only [heightItems, Nat.max_le, ih, List.forall_mem_cons]

theorem heightMembers_le {ms : List (String × Json)} {n : Nat} :
    heightMembers ms ≤ n ↔ ∀ m ∈ ms, m.2.height ≤ n := by
  induction ms with
  | nil => simp [heightMembers]
  | cons m ms ih => simp only [heightMembers, Nat.max_le, ih, List.forall_mem_cons]

/-- The members of a record: its fields that have a value. -/
def written (fields : List (String × Option Json)) : List (String × Json) :=
  fields.filterMap fun f => f.2.map fun j => (f.1, j)

theorem mem_written {fields : List (String × Option Json)} {m : String × Json} :
    m ∈ written fields ↔ (m.1, some m.2) ∈ fields := by
  obtain ⟨k, j⟩ := m
  simp only [written, List.mem_filterMap, Option.map_eq_some_iff]
  constructor
  · rintro ⟨⟨_, v⟩, member, _, rfl, same⟩
    cases same
    exact member
  · intro member
    exact ⟨_, member, j, rfl, rfl⟩

theorem written_cons (k : String) (j : Json) (fields : List (String × Option Json)) :
    written ((k, some j) :: fields) = (k, j) :: written fields := rfl

@[simp] theorem Place.depth_inner (p : Place) : p.inner.depth = p.depth + 1 := rfl

namespace RecordReading

variable {α : Type} {fields : List (String × Option Json)}

theorem find?_absent {k : String} {ms : List (String × Json)} (absent : ∀ m ∈ ms, m.1 ≠ k) :
    find? k (Reading.ofMembers ms) = none := by
  induction ms with
  | nil => rfl
  | cons m ms ih =>
    obtain ⟨l, j⟩ := m
    obtain ⟨first, others⟩ := List.forall_mem_cons.mp absent
    rw [Reading.ofMembers, find?, if_neg (by simpa using first), ih others]
    rfl

theorem find?_written {k : String} {v : Option Json} (distinct : (fields.map (·.1)).Nodup)
    (member : (k, v) ∈ fields) :
    (find? k (Reading.ofMembers (written fields))).map (·.2) = v.map Reading.ofJson := by
  induction fields with
  | nil => cases member
  | cons f fields ih =>
    obtain ⟨apart, others⟩ := List.nodup_cons.mp distinct
    rcases List.mem_cons.mp member with rfl | later
    · cases v with
      | none =>
        have absent : ∀ m ∈ written fields, m.1 ≠ k := by
          rintro m there rfl
          exact apart (List.mem_map.mpr ⟨_, mem_written.mp there, rfl⟩)
        exact congrArg _ (find?_absent absent)
      | some j => simp [written_cons, Reading.ofMembers, find?]
    · obtain ⟨l, w⟩ := f
      have other : l ≠ k := fun same => apart (List.mem_map.mpr ⟨_, later, same.symm⟩)
      cases w with
      | none => exact ih others later
      | some j =>
        rw [written_cons, Reading.ofMembers, find?, if_neg (by simpa using other), Option.map_map,
          ← ih others later]
        rfl

end RecordReading

namespace Decoder

variable {α κ : Type}

/-- A value that a decoder reads as `a` where there is room for so many levels of containers. -/
structure Reads (d : Decoder α) (j : Json) (a : α) (levels : Nat) : Prop where
  plain : j.isPlain = true
  height_le : j.height ≤ levels
  result : ∀ {p : Place}, p.depth + levels ≤ maxDepth → d p (Reading.ofJson j) = .ok a

/-- A text is decoded as the value that it was written of. -/
theorem Reads.run_eq_ok {d : Decoder α} {j : Json} {a : α} {levels : Nat} (reads : d.Reads j a levels)
    (room : levels ≤ maxDepth) : d.run j.text = .ok a :=
  run_text reads.plain (reads.result (by simpa using room))

theorem Reads.mono {d : Decoder α} {j : Json} {a : α} {levels more : Nat} (reads : d.Reads j a levels)
    (le : levels ≤ more) : d.Reads j a more where
  plain := reads.plain
  height_le := Nat.le_trans reads.height_le le
  result := fun room => reads.result (by omega)

theorem reads_str (s : String) : str.Reads (.str s) s 0 := ⟨rfl, Nat.le_refl 0, fun _ => rfl⟩

theorem reads_bool (b : Bool) : bool.Reads (.bool b) b 0 := ⟨rfl, Nat.le_refl 0, fun _ => rfl⟩

theorem natBelow_ofNat {n bound : Nat} (below : n < bound) (wanted : String) (p : Place) :
    natBelow bound wanted p (.scalar (.int n)) = .ok n := by
  have inside : 0 ≤ (n : Int) ∧ (n : Int) < bound := by omega
  rw [natBelow, if_pos inside]
  rfl

theorem reads_u32 (n : UInt32) : u32.Reads (ofU32 n) n 0 where
  plain := by
    have below := n.toNat_lt
    simp only [ofU32, isPlain, fitsWord, Bool.and_eq_true, decide_eq_true_eq]
    omega
  height_le := Nat.le_refl 0
  result := by
    intro p _
    have read := natBelow_ofNat n.toNat_lt "u32" p
    simp only [ofU32, Reading.ofJson, u32, read]
    exact congrArg Except.ok (UInt32.ofNat_toNat)

theorem reads_u64 (n : UInt64) : u64.Reads (ofU64 n) n 0 where
  plain := by
    have below := n.toNat_lt
    simp only [ofU64, isPlain, fitsWord, Bool.and_eq_true, decide_eq_true_eq]
    omega
  height_le := Nat.le_refl 0
  result := by
    intro p _
    have read := natBelow_ofNat n.toNat_lt "u64" p
    simp only [ofU64, Reading.ofJson, u64, read]
    exact congrArg Except.ok (UInt64.ofNat_toNat)

theorem reads_ident {parse : String → Except IdError α} {s : String} {a : α} (parsed : parse s = .ok a) :
    (ident parse).Reads (.str s) a 0 where
  plain := rfl
  height_le := Nat.le_refl 0
  result := by
    intro p _
    simp only [ident, str, Reading.ofJson, parsed]

theorem reads_enumeration {variants : List (String × α)} {name : String} {a : α}
    (known : pick variants name = some a) : (enumeration variants).Reads (.str name) a 0 where
  plain := rfl
  height_le := Nat.le_refl 0
  result := by
    intro p _
    simp only [enumeration, Reading.ofJson, known]

theorem Reads.option {d : Decoder α} {j : Json} {a : α} {levels : Nat} (reads : d.Reads j a levels)
    (present : j ≠ .null) : d.option.Reads j (some a) levels where
  plain := reads.plain
  height_le := reads.height_le
  result := by
    intro p room
    have read := reads.result room
    unfold Decoder.option
    split
    · next same =>
      cases j <;> simp_all [Reading.ofJson]
    · rw [read]
      rfl

theorem items_ofItems {d : Decoder α} {f : α → Json} {p : Place} {as : List α}
    (reads : ∀ a ∈ as, d p (Reading.ofJson (f a)) = .ok a) :
    items d p (Reading.ofItems (as.map f)) = .ok as := by
  induction as with
  | nil => rfl
  | cons a as ih =>
    have first := reads a List.mem_cons_self
    have others := ih fun b member => reads b (List.mem_cons_of_mem _ member)
    simp only [List.map_cons, Reading.ofItems, items, first, others]
    rfl

theorem reads_list {d : Decoder α} {f : α → Json} {as : List α} {levels : Nat}
    (reads : ∀ a ∈ as, d.Reads (f a) a levels) : (list d).Reads (.arr (as.map f)) as (levels + 1) where
  plain := by
    rw [isPlain, arePlain_iff]
    exact List.forall_mem_map.mpr fun a member => (reads a member).plain
  height_le := by
    rw [height, Nat.add_le_add_iff_right, heightItems_le]
    exact List.forall_mem_map.mpr fun a member => (reads a member).height_le
  result := by
    intro p room
    have inside := items_ofItems (p := p.inner) fun a member =>
      (reads a member).result (by rw [Place.depth_inner]; omega)
    simp only [list, Reading.ofJson, inside, if_true]

theorem members_ofMembers [KeyOrder κ] {key : String → Except IdError κ} {name : κ → String}
    (named : ∀ k, key (name k) = .ok k) {d : Decoder α} {f : α → Json} {p : Place} {es : List (κ × α)}
    (reads : ∀ e ∈ es, d p (Reading.ofJson (f e.2)) = .ok e.2) :
    members key d p (Reading.ofMembers (es.map fun e => (name e.1, f e.2))) = .ok es := by
  induction es with
  | nil => rfl
  | cons e es ih =>
    have first := reads e List.mem_cons_self
    have others := ih fun b member => reads b (List.mem_cons_of_mem _ member)
    simp only [List.map_cons, Reading.ofMembers, members, named, first, others]
    rfl

theorem reads_map [KeyOrder κ] {key : String → Except IdError κ} {name : κ → String}
    (named : ∀ k, key (name k) = .ok k) {d : Decoder α} {f : α → Json} {m : SortedMap κ α} {levels : Nat}
    (reads : ∀ e ∈ m.entries, d.Reads (f e.2) e.2 levels) :
    (map key d).Reads (ofMap name f m) m (levels + 1) where
  plain := by
    rw [ofMap, isPlain, havePlain_iff]
    exact List.forall_mem_map.mpr fun e member => (reads e member).plain
  height_le := by
    rw [ofMap, height, Nat.add_le_add_iff_right, heightMembers_le]
    exact List.forall_mem_map.mpr fun e member => (reads e member).height_le
  result := by
    intro p room
    have inside := members_ofMembers named (p := p.inner) fun e member =>
      (reads e member).result (by rw [Place.depth_inner]; omega)
    simp only [map, ofMap, Reading.ofJson, inside, if_true, SortedMap.ofList_sorted m.sorted]

/-- A field that a decoder reads as `a`, also where it is left out. -/
inductive ReadsField (d : Decoder α) (absent : Option α) (a : α) (levels : Nat) : Option Json → Prop
  | present {j : Json} (reads : d.Reads j a levels) : ReadsField d absent a levels (some j)
  | omitted (usual : absent = some a) : ReadsField d absent a levels none

theorem readsField_str (s : String) (absent : Option String) (levels : Nat) :
    ReadsField str absent s levels (some (.str s)) :=
  .present ((reads_str s).mono (Nat.zero_le levels))

/-- Zero is left out, and read where it is. -/
theorem readsField_unlessZero (n : UInt32) (levels : Nat) :
    ReadsField u32 (some 0) n levels (unlessZero n) := by
  unfold unlessZero
  split
  · next zero => exact .omitted (congrArg some zero.symm)
  · exact .present ((reads_u32 n).mono (Nat.zero_le levels))

/-- An empty list is left out, and read where it is. -/
theorem readsField_unlessEmpty {d : Decoder α} {f : α → Json} {as : List α} {levels : Nat}
    (reads : ∀ a ∈ as, d.Reads (f a) a levels) :
    ReadsField (list d) (some []) as (levels + 1) (unlessEmpty f as) := by
  unfold unlessEmpty
  split
  · next empty => exact .omitted (congrArg some (List.isEmpty_iff.mp empty).symm)
  · exact .present (reads_list reads)

/-- A field that may have no value is left out if it has none. -/
theorem readsField_map {d : Decoder α} {f : α → Json} {o : Option α} {levels : Nat}
    (reads : ∀ a ∈ o, d.Reads (f a) a levels) (present : ∀ a ∈ o, f a ≠ .null) :
    ReadsField (Decoder.option d) (some none) o levels (o.map f) := by
  cases o with
  | none => exact .omitted rfl
  | some a => exact .present ((reads a rfl).option (present a rfl))

/-- A field is read from a record that was written with it or without. -/
theorem ReadsField.fieldAt_eq {d : Decoder α} {absent : Option α} {a : α} {levels : Nat} {v : Option Json}
    (reads : ReadsField d absent a levels v) {fields : List (String × Option Json)} {k : String}
    (distinct : (fields.map (·.1)).Nodup) (member : (k, v) ∈ fields) {p : Place}
    (room : p.depth + levels ≤ maxDepth) (name : String) (size index : Nat) :
    RecordReading.fieldAt ⟨p, name, size, .members (Reading.ofMembers (written fields))⟩ index k d absent =
      Timed.ok a := by
  have found := RecordReading.find?_written distinct member
  cases reads with
  | @present j reads =>
    obtain ⟨⟨i, r⟩, found, rfl⟩ := Option.map_eq_some_iff.mp found
    simp only [RecordReading.fieldAt, found, RecordReading.decodeAt, reads.result room]
  | omitted usual =>
    have found := Option.map_eq_none_iff.mp found
    simp only [RecordReading.fieldAt, found, usual]

theorem survey_ofMembers {known seen : List String} {ms : List (String × Json)} {step : Nat}
    (allKnown : ∀ m ∈ ms, m.1 ∈ known) (distinct : (ms.map (·.1)).Nodup)
    (unseen : ∀ m ∈ ms, m.1 ∉ seen) :
    survey known true seen step (Reading.ofMembers ms) = Timed.ok () := by
  induction ms generalizing seen step with
  | nil => rfl
  | cons m ms ih =>
    obtain ⟨k, j⟩ := m
    obtain ⟨apart, distinct⟩ := List.nodup_cons.mp distinct
    obtain ⟨here, allKnown⟩ := List.forall_mem_cons.mp allKnown
    obtain ⟨fresh, unseen⟩ := List.forall_mem_cons.mp unseen
    simp only [Reading.ofMembers, survey, here, fresh, if_true]
    refine ih allKnown distinct fun m member seen => ?_
    rcases List.mem_cons.mp seen with rfl | seen
    · exact apart (List.mem_map.mpr ⟨m, member, rfl⟩)
    · exact unseen m member seen

theorem nodup_written {fields : List (String × Option Json)} (distinct : (fields.map (·.1)).Nodup) :
    ((written fields).map (·.1)).Nodup := by
  induction fields with
  | nil => exact .nil
  | cons f fields ih =>
    obtain ⟨apart, others⟩ := List.nodup_cons.mp distinct
    obtain ⟨k, v⟩ := f
    cases v with
    | none => exact ih others
    | some j =>
      refine List.nodup_cons.mpr ⟨fun there => ?_, ih others⟩
      obtain ⟨m, member, rfl⟩ := List.mem_map.mp there
      exact apart (List.mem_map.mpr ⟨_, mem_written.mp member, rfl⟩)

/-- What the fields of a record are written as is plain and nested at most so deep. -/
def Shallow (fields : List (String × Option Json)) (levels : Nat) : Prop :=
  ∀ f ∈ fields, ∀ j ∈ f.2, j.isPlain = true ∧ j.height ≤ levels

theorem Shallow.nil {levels : Nat} : Shallow [] levels := fun _ none => absurd none List.not_mem_nil

theorem Shallow.cons {d : Decoder α} {absent : Option α} {a : α} {levels : Nat} {v : Option Json}
    {k : String} {fields : List (String × Option Json)} (reads : ReadsField d absent a levels v)
    (shallow : Shallow fields levels) : Shallow ((k, v) :: fields) levels := by
  refine List.forall_mem_cons.mpr ⟨fun j there => ?_, shallow⟩
  cases reads with
  | present reads =>
    cases there
    exact ⟨reads.plain, reads.height_le⟩
  | omitted => cases there

theorem Shallow.isPlain_ofFields {fields : List (String × Option Json)} {levels : Nat}
    (shallow : Shallow fields levels) : (ofFields fields).isPlain = true := by
  rw [ofFields, isPlain, havePlain_iff]
  exact fun m member => (shallow _ (mem_written.mp member) m.2 rfl).1

/-- A record is nested one level more deeply than its fields. -/
theorem Shallow.height_le {fields : List (String × Option Json)} {levels : Nat}
    (shallow : Shallow fields levels) : (ofFields fields).height ≤ levels + 1 := by
  rw [ofFields, height, Nat.add_le_add_iff_right, heightMembers_le]
  exact fun m member => (shallow _ (mem_written.mp member) m.2 rfl).2

/-- A record is read from what its fields are written as, if it is made of what they are read as. -/
theorem reads_record {name : String} {known : List String} {build : RecordReading → Timed α}
    {fields : List (String × Option Json)} {a : α} {levels : Nat} (shallow : Shallow fields levels)
    (distinct : (fields.map (·.1)).Nodup) (allKnown : ∀ f ∈ fields, f.1 ∈ known)
    (built : ∀ r : RecordReading,
      (∀ {β : Type} {d : Decoder β} {absent : Option β} {b : β} {k : String} {v : Option Json}
        (index : Nat), (k, v) ∈ fields → ReadsField d absent b levels v →
        r.fieldAt index k d absent = Timed.ok b) → build r = Timed.ok a) :
    (record name known build).Reads (ofFields fields) a (levels + 1) where
  plain := shallow.isPlain_ofFields
  height_le := shallow.height_le
  result := by
    intro p room
    have surveyed : survey known true [] 0 (Reading.ofMembers (written fields)) = Timed.ok () :=
      survey_ofMembers (fun m member => allKnown _ (mem_written.mp member)) (nodup_written distinct)
        fun _ _ => List.not_mem_nil
    have inside : p.inner.depth + levels ≤ maxDepth := by
      rw [Place.depth_inner]
      omega
    have built := built ⟨p.inner, name, known.length, .members (Reading.ofMembers (written fields))⟩
      fun index member reads => reads.fieldAt_eq distinct member inside name known.length index
    simp only [written] at surveyed built
    simp only [ofFields, Reading.ofJson, record, surveyed, built]
    rfl

/-- Where no member is the tag, what was found before stays found and the members keep their order. -/
theorem untag_ofMembers {tag : String} {known : List String} {p : Place} {found : Option String}
    {ms : List (String × Json)} (apart : ∀ m ∈ ms, m.1 ≠ tag) (plain : ∀ m ∈ ms, m.2.isPlain = true)
    (shallow : ∀ m ∈ ms, m.2.height ≤ maxDepth - p.depth) :
    untag tag known p found (Reading.ofMembers ms) = .ok (found, Reading.ofMembers ms) := by
  induction ms with
  | nil => rfl
  | cons m ms ih =>
    obtain ⟨k, j⟩ := m
    obtain ⟨other, apart⟩ := List.forall_mem_cons.mp apart
    obtain ⟨first, plain⟩ := List.forall_mem_cons.mp plain
    obtain ⟨fits, shallow⟩ := List.forall_mem_cons.mp shallow
    obtain ⟨v, read⟩ := Option.isSome_iff_exists.mp (Reading.freeForm?_ofJson j first fits)
    rw [Reading.ofMembers, untag, if_neg other, read, ih apart plain shallow]
    rfl

/-- A variant that is written with its tag first. -/
theorem Reads.tagged {name tag variant : String} {variants : List (String × Decoder α)} {d : Decoder α}
    {fields : List (String × Option Json)} {a : α} {levels : Nat}
    (known : pick variants variant = some d) (apart : tag ∉ fields.map (·.1))
    (reads : d.Reads (ofFields fields) a levels) :
    (Decoder.tagged name tag variants).Reads (ofFields ((tag, some (.str variant)) :: fields)) a levels where
  plain := by
    have plain := reads.plain
    rw [ofFields, isPlain] at plain ⊢
    exact plain
  height_le := by
    have shallow : heightMembers (written fields) + 1 ≤ levels := reads.height_le
    have tagged : (ofFields ((tag, some (.str variant)) :: fields)).height =
        max 0 (heightMembers (written fields)) + 1 := rfl
    omega
  result := by
    intro p room
    have plain : ∀ m ∈ written fields, m.2.isPlain = true := havePlain_iff.mp reads.plain
    have shallow : heightMembers (written fields) + 1 ≤ levels := reads.height_le
    have others : untag tag (variants.map (·.1)) p.inner (some variant)
        (Reading.ofMembers (written fields)) = .ok (some variant, Reading.ofMembers (written fields)) := by
      refine untag_ofMembers ?_ plain (heightMembers_le.mp ?_)
      · rintro m member rfl
        exact apart (List.mem_map.mpr ⟨_, mem_written.mp member, rfl⟩)
      · rw [Place.depth_inner]
        omega
    have named : variant ∈ variants.map (·.1) := by
      obtain ⟨v, found, _⟩ := Option.map_eq_some_iff.mp known
      have same : v.1 = variant := by simpa using List.find?_some found
      exact List.mem_map.mpr ⟨v, List.mem_of_find?_eq_some found, same⟩
    have untagged : untag tag (variants.map (·.1)) p.inner none
        (Reading.ofMembers ((tag, .str variant) :: written fields)) =
          .ok (some variant, Reading.ofMembers (written fields)) := by
      rw [Reading.ofMembers, untag, if_pos rfl]
      simp only [Option.isSome_none, Reading.ofJson, variantName, if_pos named, others]
      rfl
    have inside := reads.result (p := { p with origin := .buffered }) room
    rw [ofFields, Reading.ofJson] at inside
    have whole : Reading.ofJson (ofFields ((tag, some (.str variant)) :: fields)) =
        .obj (Reading.ofMembers ((tag, .str variant) :: written fields)) true := by
      rw [ofFields, Reading.ofJson]
      rfl
    simp only [Decoder.tagged, whole, untagged, Bool.not_true, Bool.false_eq_true, if_false, known]
    exact inside

end Decoder

end DeviceClaims.Json
