import DeviceClaims.Proofs.Wire.Record
import DeviceClaims.Wire.Codec

namespace DeviceClaims.Wire

theorem length_textBytes (s : String) : (textBytes s).length = s.utf8ByteSize := Array.length_toList

theorem readText?_textBytes (s : String) : readText? (textBytes s) = some s := by
  have same : (⟨(textBytes s).toArray⟩ : ByteArray) = s.toByteArray := by
    rw [textBytes, Array.toArray_toList]
    rfl
  rw [readText?, same, String.fromUTF8?, dif_pos s.isValidUTF8]
  rfl

/-- So many bytes can be announced. -/
def Announced (length : Nat) : Prop := length < 2 ^ 64

theorem length_le_of_mem (number : Nat) {contents : List (List UInt8)} {bs : List UInt8}
    (member : bs ∈ contents) : bs.length ≤ (contents.flatMap (Record.write number)).length := by
  induction contents with
  | nil => cases member
  | cons first rest ih =>
    rw [List.flatMap_cons, List.length_append]
    rcases List.mem_cons.mp member with rfl | later
    · exact Nat.le_add_right_of_le (Record.length_le_write number bs)
    · exact Nat.le_add_left_of_le (ih later)

theorem length_flatMap_write (contents : List (List UInt8)) (number : Nat) :
    (contents.flatMap (Record.write number)).length =
      (contents.map fun bs => Record.size number bs.length).sum := by
  induction contents with
  | nil => rfl
  | cons first rest ih =>
    rw [List.flatMap_cons, List.length_append, Record.length_write, ih, List.map_cons, List.sum_cons]

/-- A part of a message that has nothing in it before it is filled. -/
structure Slot {M V : Type} (get : M → V) (set : V → M → M) (empty : V) (before : M) : Prop where
  get_before : get before = empty
  set_empty : set empty before = before
  get_set : ∀ v, get (set v before) = v
  set_set : ∀ v v', set v' (set v before) = set v' before

namespace Field

variable {M V : Type} {depth : Nat} {m before after : M} {number : Nat} {name : String}

/-- What a field writes of a message has the length that it says, and these are records of its number
that make one message of another. -/
structure Carries (f : Field M) (depth : Nat) (m before after : M) : Prop where
  length : (f.write m).length = f.size m
  read : Announced (f.write m).length → ∃ contents : List (List UInt8),
    f.write m = contents.flatMap (Record.write f.number) ∧
      contents.foldlM (fun a bs => f.merge depth a (.bytes bs)) before = some after

theorem length_writeText (number : Nat) (s : String) :
    (writeText number s).length = textSize number s := by
  rw [writeText, textSize, Record.length_write, length_textBytes]

theorem textOf?_textBytes (s : String) : textOf? (.bytes (textBytes s)) = some s :=
  readText?_textBytes s

/-- Many texts are added to a list one after the other. -/
theorem foldlM_texts (number : Nat) (name : String) (depth : Nat) {get : M → List String}
    {set : List String → M → M} (slot : Slot get set [] before) (done l : List String) :
    (l.map textBytes).foldlM (fun a bs => (texts number name get set).merge depth a (.bytes bs))
      (set done before) = some (set (done ++ l) before) := by
  induction l generalizing done with
  | nil => rw [List.append_nil]; rfl
  | cons s rest ih =>
    have step : (texts number name get set).merge depth (set done before) (.bytes (textBytes s)) =
        some (set (done ++ [s]) before) := by
      simp only [texts, textOf?_textBytes, Option.map_some, slot.get_set, slot.set_set]
    rw [List.map_cons, List.foldlM_cons, step, Option.bind_eq_bind, Option.bind_some, ih (done ++ [s]),
      List.append_assoc, List.singleton_append]

namespace Carries

theorem text {get : M → String} {set : String → M → M} (slot : Slot get set "" before) :
    (text number name get set).Carries depth m before (set (get m) before) := by
  by_cases none : get m = ""
  · refine ⟨by simp [Field.text, none], fun _ => ⟨[], by simp [Field.text, none], ?_⟩⟩
    rw [none, slot.set_empty]
    rfl
  · refine ⟨by simp [Field.text, none, length_writeText], fun _ => ⟨[textBytes (get m)], ?_, ?_⟩⟩
    · simp [Field.text, none, writeText]
    · simp [Field.text, textOf?_textBytes]

theorem optionalText {get : M → Option String} {set : Option String → M → M}
    (slot : Slot get set none before) :
    (optionalText number name get set).Carries depth m before (set (get m) before) := by
  cases given : get m with
  | none =>
    refine ⟨by simp [Field.optionalText, given], fun _ => ⟨[], by simp [Field.optionalText, given], ?_⟩⟩
    rw [slot.set_empty]
    rfl
  | some s =>
    refine ⟨by simp [Field.optionalText, given, length_writeText], fun _ => ⟨[textBytes s], ?_, ?_⟩⟩
    · simp [Field.optionalText, given, writeText]
    · simp [Field.optionalText, textOf?_textBytes]

theorem texts {get : M → List String} {set : List String → M → M} (slot : Slot get set [] before) :
    (texts number name get set).Carries depth m before (set (get m) before) := by
  have records : (Field.texts number name get set).write m =
      ((get m).map textBytes).flatMap (Record.write number) :=
    (List.flatMap_map textBytes (Record.write number) (get m)).symm
  refine ⟨?_, fun _ => ⟨(get m).map textBytes, records, ?_⟩⟩
  · rw [records, length_flatMap_write, List.map_map]
    refine congrArg List.sum (List.map_congr_left fun s _ => ?_)
    rw [Function.comp_apply, length_textBytes]
    rfl
  · have folded := foldlM_texts number name depth slot [] (get m)
    rwa [slot.set_empty] at folded

end Carries

end Field

namespace Codec

variable {M V : Type} {depth : Nat}

/-- Messages are written in the length that is announced, and read again where there is room for so
deep a nesting. -/
structure Faithful (c : Codec M) (depth : Nat) : Prop where
  length : ∀ m, (c.write m).length = c.size m
  merge : ∀ m, Announced (c.size m) → ∀ d, depth ≤ d → c.merge d c.zero (c.write m) = some m

theorem Faithful.mono {c : Codec M} {more : Nat} (faithful : c.Faithful depth) (le : depth ≤ more) :
    c.Faithful more :=
  ⟨faithful.length, fun m fits d room => faithful.merge m fits d (Nat.le_trans le room)⟩

/-- A message that can be announced is read as it was written. -/
theorem Faithful.read_write {c : Codec M} (faithful : c.Faithful depth) (room : depth ≤ Record.maxDepth) {m : M}
    (fits : Announced (c.size m)) : c.read (c.write m) = some m := faithful.merge m fits _ room

/-- A message merged into an empty one is the message. -/
theorem Faithful.mergeInner_write {c : Codec M} (faithful : c.Faithful depth) {m : M}
    (fits : Announced (c.write m).length) {d : Nat} (room : depth < d) :
    c.mergeInner d c.zero (.bytes (c.write m)) = some m := by
  obtain ⟨d, rfl⟩ : ∃ n, d = n + 1 := ⟨d - 1, by omega⟩
  exact faithful.merge m (faithful.length m ▸ fits) d (Nat.lt_succ_iff.mp room)

/-- Fields in a row make one message of another. -/
inductive Carried (depth : Nat) (m : M) : List (Field M) → M → M → Prop
  | nil (a : M) : Carried depth m [] a a
  | cons {f : Field M} {fs : List (Field M)} {a b z : M} (first : f.Carries depth m a b)
      (rest : Carried depth m fs b z) : Carried depth m (f :: fs) a z

theorem Carried.length_write {fs : List (Field M)} {m a z : M} (carried : Carried depth m fs a z) :
    (fs.flatMap fun f => f.write m).length = (fs.map fun f => f.size m).sum := by
  induction carried with
  | nil => rfl
  | cons first _ ih =>
    rw [List.flatMap_cons, List.length_append, first.length, ih, List.map_cons, List.sum_cons]

variable {c : Codec M}

theorem find?_number (distinct : (c.fields.map (·.number)).Nodup) {f : Field M} (member : f ∈ c.fields) :
    c.fields.find? (·.number = f.number) = some f := by
  generalize c.fields = fs at distinct member
  induction fs with
  | nil => cases member
  | cons g fs ih =>
    obtain ⟨apart, others⟩ := List.nodup_cons.mp distinct
    rcases List.mem_cons.mp member with rfl | later
    · exact List.find?_cons_of_pos (by simp)
    · have unlike : g.number ≠ f.number := fun same =>
        apart (List.mem_map.mpr ⟨f, later, same.symm⟩)
      rw [List.find?_cons_of_neg (by simpa using unlike)]
      exact ih others later

/-- The records of a field are merged by that field. -/
theorem foldlM_mergeRecord (depth : Nat) (distinct : (c.fields.map (·.number)).Nodup) {f : Field M} (member : f ∈ c.fields)
    (contents : List (List UInt8)) (before : M) :
    (contents.map fun bs => (⟨f.number, .bytes bs⟩ : Record)).foldlM (c.mergeRecord depth) before =
      contents.foldlM (fun a bs => f.merge depth a (.bytes bs)) before := by
  rw [List.foldlM_map]
  refine congrArg (fun g => contents.foldlM g before) (funext fun a => funext fun bs => ?_)
  rw [mergeRecord, find?_number distinct member]

/-- Records of one field are merged by that field. -/
theorem merge_records (distinct : (c.fields.map (·.number)).Nodup) {f : Field M} (member : f ∈ c.fields)
    (number : Record.IsNumber f.number) {contents : List (List UInt8)} {before : M}
    (fits : Announced (contents.flatMap (Record.write f.number)).length) :
    c.merge depth before (contents.flatMap (Record.write f.number)) =
      contents.foldlM (fun a bs => f.merge depth a (.bytes bs)) before := by
  have valid : ∀ r ∈ contents.map (f.number, ·), Record.IsNumber r.1 ∧ r.2.length < 2 ^ 64 := by
    intro r at_r
    obtain ⟨bs, at_bs, rfl⟩ := List.mem_map.mp at_r
    exact ⟨number, Nat.lt_of_le_of_lt (length_le_of_mem f.number at_bs) fits⟩
  have read : Record.readAll c.framed depth _ = _ := Record.readAll_write valid
  rw [List.flatMap_map, List.map_map] at read
  rw [merge, read]
  exact foldlM_mergeRecord depth distinct member contents before

/-- What fields in a row have written are records that make one message of another. -/
theorem Carried.exists_records (distinct : (c.fields.map (·.number)).Nodup)
    (numbers : ∀ f ∈ c.fields, Record.IsNumber f.number) {fs : List (Field M)} {m a z : M}
    (carried : Carried depth m fs a z) (own : ∀ f ∈ fs, f ∈ c.fields)
    (fits : Announced (fs.flatMap fun f => f.write m).length) :
    ∃ rs : List (Nat × List UInt8),
      (fs.flatMap fun f => f.write m) = rs.flatMap (fun r => Record.write r.1 r.2) ∧
        (∀ r ∈ rs, Record.IsNumber r.1 ∧ r.2.length < 2 ^ 64) ∧
        (rs.map fun r => (⟨r.1, .bytes r.2⟩ : Record)).foldlM (c.mergeRecord depth) a = some z := by
  induction carried with
  | nil a => exact ⟨[], rfl, fun _ none => absurd none List.not_mem_nil, rfl⟩
  | @cons f fs a b z first rest ih =>
    obtain ⟨member, others⟩ := List.forall_mem_cons.mp own
    rw [List.flatMap_cons, List.length_append] at fits
    have fitsFirst : Announced (f.write m).length := Nat.lt_of_le_of_lt (Nat.le_add_right ..) fits
    obtain ⟨contents, written, merged⟩ := first.read fitsFirst
    obtain ⟨rs, writtenRest, valid, mergedRest⟩ :=
      ih others (Nat.lt_of_le_of_lt (Nat.le_add_left ..) fits)
    refine ⟨contents.map (f.number, ·) ++ rs, ?_, fun r at_r => ?_, ?_⟩
    · rw [List.flatMap_cons, written, writtenRest, List.flatMap_append, List.flatMap_map]
    · rcases List.mem_append.mp at_r with here | later
      · obtain ⟨bs, at_bs, rfl⟩ := List.mem_map.mp here
        have short : bs.length ≤ (f.write m).length := written ▸ length_le_of_mem f.number at_bs
        exact ⟨numbers f member, Nat.lt_of_le_of_lt short fitsFirst⟩
      · exact valid r later
    · have mergedFirst := (foldlM_mergeRecord depth distinct member contents a).trans merged
      rw [List.map_append, List.map_map, List.foldlM_append]
      refine (congrArg (· >>= _) mergedFirst).trans ?_
      exact mergedRest

/-- A codec is faithful if its fields have numbers of their own and carry every message from nothing. -/
theorem Faithful.of_fields (ns : List Nat) (same : c.fields.map (·.number) = ns)
    (valid : ns.Nodup ∧ ∀ n ∈ ns, Record.IsNumber n)
    (carried : ∀ m d, depth ≤ d → Carried d m c.fields c.zero m) : c.Faithful depth := by
  subst same
  have numbers : ∀ f ∈ c.fields, Record.IsNumber f.number :=
    fun f member => valid.2 _ (List.mem_map_of_mem member)
  refine ⟨fun m => (carried m depth (Nat.le_refl _)).length_write, fun m fits d room => ?_⟩
  have whole := carried m d room
  have length : (c.write m).length = c.size m := whole.length_write
  obtain ⟨rs, written, valid, merged⟩ := whole.exists_records valid.1 numbers (fun _ member => member)
    (length ▸ fits)
  have same : c.write m = rs.flatMap fun r => Record.write r.1 r.2 := written
  rw [Codec.merge, same, Record.readAll_write valid]
  exact merged

end Codec

namespace Field.Carries

variable {M V : Type} {depth inner : Nat} {m before : M} {number : Nat} {name : String} {c : Codec V}

theorem length_writeMessage (faithful : c.Faithful inner) (v : V) :
    (writeMessage c number v).length = messageSize c number v := by
  rw [writeMessage, messageSize, Record.length_write, faithful.length]

theorem message [DecidableEq V] {get : M → V} {set : V → M → M} (faithful : c.Faithful inner)
    (room : inner < depth) (slot : Slot get set c.zero before) :
    (message c number name get set).Carries depth m before (set (get m) before) := by
  by_cases none : get m = c.zero
  · refine ⟨by simp [Field.message, none], fun _ => ⟨[], by simp [Field.message, none], ?_⟩⟩
    rw [none, slot.set_empty]
    rfl
  · have written : (Field.message c number name get set).write m = writeMessage c number (get m) :=
      if_neg none
    have size : (Field.message c number name get set).size m = messageSize c number (get m) :=
      if_neg none
    refine ⟨by rw [written, size, length_writeMessage faithful], fun fits => ⟨[c.write (get m)], ?_, ?_⟩⟩
    · rw [written, List.flatMap_singleton]
      rfl
    · rw [written] at fits
      have inside := faithful.mergeInner_write
        (Nat.lt_of_le_of_lt (Record.length_le_write number (c.write (get m))) fits) room
      simp [Field.message, slot.get_before, inside]

theorem optionalMessage {get : M → Option V} {set : Option V → M → M} (faithful : c.Faithful inner)
    (room : inner < depth) (slot : Slot get set none before) :
    (optionalMessage c number name get set).Carries depth m before (set (get m) before) := by
  cases given : get m with
  | none =>
    refine ⟨by simp [Field.optionalMessage, given],
      fun _ => ⟨[], by simp [Field.optionalMessage, given], ?_⟩⟩
    rw [slot.set_empty]
    rfl
  | some v =>
    have written : (Field.optionalMessage c number name get set).write m = writeMessage c number v := by
      simp [Field.optionalMessage, given]
    refine ⟨?_, fun fits => ⟨[c.write v], ?_, ?_⟩⟩
    · rw [written, length_writeMessage faithful]
      simp [Field.optionalMessage, given]
    · rw [written, List.flatMap_singleton]
      rfl
    · rw [written] at fits
      have inside := faithful.mergeInner_write
        (Nat.lt_of_le_of_lt (Record.length_le_write number (c.write v)) fits) room
      simp [Field.optionalMessage, slot.get_before, inside]

/-- Messages in a row have the length that is announced for them. -/
theorem length_flatMap_writeMessage (faithful : c.Faithful inner) (l : List V) :
    (l.flatMap (writeMessage c number)).length = (l.map (messageSize c number)).sum := by
  induction l with
  | nil => rfl
  | cons v rest ih =>
    rw [List.flatMap_cons, List.length_append, length_writeMessage faithful, ih, List.map_cons, List.sum_cons]

/-- Each of the messages in a row is short enough if they all are together. -/
theorem announced_of_mem {l : List V} (fits : Announced (l.flatMap (writeMessage c number)).length) :
    ∀ v ∈ l, Announced (c.write v).length := by
  intro v member
  have short := length_le_of_mem number (List.mem_map_of_mem (f := c.write) member)
  rw [List.flatMap_map] at short
  exact Nat.lt_of_le_of_lt short fits

/-- Many messages are added to a list one after the other. -/
theorem foldlM_messages (number : Nat) (name : String) {get : M → List V} {set : List V → M → M} (faithful : c.Faithful inner)
    (room : inner < depth) (slot : Slot get set [] before) (done l : List V)
    (fits : ∀ v ∈ l, Announced (c.write v).length) :
    (l.map c.write).foldlM (fun a bs => (messages c number name get set).merge depth a (.bytes bs))
      (set done before) = some (set (done ++ l) before) := by
  induction l generalizing done with
  | nil => rw [List.append_nil]; rfl
  | cons v rest ih =>
    obtain ⟨first, others⟩ := List.forall_mem_cons.mp fits
    have step : (messages c number name get set).merge depth (set done before) (.bytes (c.write v)) =
        some (set (done ++ [v]) before) := by
      simp only [messages, faithful.mergeInner_write first room, Option.map_some, slot.get_set, slot.set_set]
    rw [List.map_cons, List.foldlM_cons, step, Option.bind_eq_bind, Option.bind_some,
      ih (done ++ [v]) others, List.append_assoc, List.singleton_append]

theorem messages {get : M → List V} {set : List V → M → M} (faithful : c.Faithful inner)
    (room : inner < depth) (slot : Slot get set [] before) :
    (messages c number name get set).Carries depth m before (set (get m) before) := by
  refine ⟨length_flatMap_writeMessage faithful _, fun fits =>
    ⟨(get m).map c.write, (List.flatMap_map c.write (Record.write number) (get m)).symm, ?_⟩⟩
  have folded := foldlM_messages number name faithful room slot [] (get m)
    (announced_of_mem fits)
  rwa [slot.set_empty] at folded

end Field.Carries

namespace Codec

variable {V : Type} {depth : Nat} {c : Codec V} {name : String}

theorem unit_faithful : unit.Faithful 0 :=
  .of_fields [] rfl (by decide) fun _ _ _ => .nil ()

theorem text_faithful (name : String) : (text name).Faithful 0 :=
  .of_fields [1] rfl (by decide) fun _ _ _ =>
    .cons (.text ⟨rfl, rfl, fun _ => rfl, fun _ _ => rfl⟩) (.nil _)

theorem texts_faithful (name : String) : (texts name).Faithful 0 :=
  .of_fields [1] rfl (by decide) fun _ _ _ =>
    .cons (.texts ⟨rfl, rfl, fun _ => rfl, fun _ _ => rfl⟩) (.nil _)

theorem optional_faithful (faithful : c.Faithful depth) : (optional name c).Faithful (depth + 1) :=
  .of_fields [1] rfl (by decide) fun _ _ room =>
    .cons (.optionalMessage faithful room ⟨rfl, rfl, fun _ => rfl, fun _ _ => rfl⟩) (.nil _)

theorem list_faithful (faithful : c.Faithful depth) : (list name c).Faithful (depth + 1) :=
  .of_fields [1] rfl (by decide) fun _ _ room =>
    .cons (.messages faithful room ⟨rfl, rfl, fun _ => rfl, fun _ _ => rfl⟩) (.nil _)

end Codec

end DeviceClaims.Wire
