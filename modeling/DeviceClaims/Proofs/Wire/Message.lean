import DeviceClaims.Node.Claim
import DeviceClaims.Proofs.Identifiers
import DeviceClaims.Proofs.Json.FreeForm
import DeviceClaims.Proofs.Wire.Codec

namespace DeviceClaims

open Wire.Field (entry writeMessage)

namespace Wire

namespace Codec

variable {V : Type} [DecidableEq V] {c : Codec V} {depth : Nat} {name : String}

/-- A table whose entries are written in some order. -/
def writeTable (c : Codec V) (l : List (String × V)) : List UInt8 := l.flatMap (writeMessage (entry c) 1)

theorem entry_faithful (faithful : c.Faithful depth) : (entry c).Faithful (depth + 1) :=
  .of_fields [1, 2] rfl (by decide) fun _ _ room =>
    .cons (.text ⟨rfl, rfl, fun _ => rfl, fun _ _ => rfl⟩)
      (.cons (.message faithful room ⟨rfl, rfl, fun _ => rfl, fun _ _ => rfl⟩) (.nil _))

/-- Entries are stored one after the other. -/
theorem foldlM_table (faithful : c.Faithful depth) {d : Nat} (room : depth + 1 < d)
    (l : List (String × V)) (fits : ∀ e ∈ l, Announced ((entry c).write e).length)
    (done : SortedMap String V) :
    (l.map (entry c).write).foldlM (fun a bs =>
      (Field.table c 1 name id (fun (v : SortedMap String V) _ => v)).merge d a (.bytes bs)) done =
      some (l.foldl (fun m e => m.insert e.1 e.2) done) := by
  induction l generalizing done with
  | nil => rfl
  | cons e rest ih =>
    obtain ⟨first, others⟩ := List.forall_mem_cons.mp fits
    have step : (Field.table c 1 name id (fun (v : SortedMap String V) _ => v)).merge d done
        (.bytes ((entry c).write e)) = some (done.insert e.1 e.2) := by
      have inside : (entry c).mergeInner d ("", c.zero) (.bytes ((entry c).write e)) = some e :=
        (entry_faithful faithful).mergeInner_write first room
      simp only [Field.table, inside, Option.map_some, id_eq]
    rw [List.map_cons, List.foldlM_cons, step, Option.bind_eq_bind, Option.bind_some, ih others,
      List.foldl_cons]

theorem write_table (c : Codec V) (m : SortedMap String V) :
    (table name c).write m = writeTable c m.entries := List.append_nil _

/-- In whatever order the entries of a table are written, they are read as the table. -/
theorem merge_writeTable (faithful : c.Faithful depth) {d : Nat} (room : depth + 1 < d)
    {m : SortedMap String V} {l : List (String × V)} (order : l.Perm m.entries)
    (fits : Announced (writeTable c l).length) :
    (table name c).merge d .empty (writeTable c l) = some m := by
  have contents : writeTable c l = (l.map (entry c).write).flatMap (Record.write 1) :=
    (List.flatMap_map (entry c).write (Record.write 1) l).symm
  have short : ∀ e ∈ l, Announced ((entry c).write e).length := Field.Carries.announced_of_mem fits
  have whole : l.foldl (fun m e => m.insert e.1 e.2) SortedMap.empty = m := by
    rw [← SortedMap.ofList_eq_foldl]
    exact SortedMap.ofList_eq_of_mem_iff fun e => order.mem_iff
  have distinct : ((table name c).fields.map (·.number)).Nodup := (by decide : [1].Nodup)
  have own : Field.table c 1 name id (fun (v : SortedMap String V) _ => v) ∈ (table name c).fields :=
    List.mem_singleton_self _
  have merged : (table name c).merge d .empty ((l.map (entry c).write).flatMap (Record.write 1)) = _ :=
    merge_records distinct own (by decide : Record.IsNumber 1) (contents ▸ fits)
  rw [contents]
  exact merged.trans ((foldlM_table faithful room l short .empty).trans (congrArg some whole))

/-- The length that is announced for a table is that of its entries in any order. -/
theorem length_writeTable (faithful : c.Faithful depth) {m : SortedMap String V} {l : List (String × V)}
    (order : l.Perm m.entries) : (writeTable c l).length = (table name c).size m := by
  have sum : (l.map (Field.messageSize (entry c) 1)).sum =
      (m.entries.map (Field.messageSize (entry c) 1)).sum := (order.map _).sum_nat
  rw [writeTable, Field.Carries.length_flatMap_writeMessage (entry_faithful faithful), sum]
  exact (Nat.add_zero _).symm

/-- A table is read with the same entries, in whatever order they were written. -/
theorem table_faithful (faithful : c.Faithful depth) : (table name c).Faithful (depth + 2) := by
  have length : ∀ m : SortedMap String V, ((table name c).write m).length = (table name c).size m :=
    fun m => (congrArg List.length (write_table c m)).trans (length_writeTable faithful (.refl _))
  refine ⟨length, fun m fits d room => ?_⟩
  rw [← length, write_table] at fits
  rw [write_table]
  exact merge_writeTable faithful (by omega) (.refl _) fits

theorem resourceAttribute_faithful : resourceAttribute.Faithful 0 :=
  .of_fields [1, 2] rfl (by decide) fun _ _ _ =>
    .cons (.text ⟨rfl, rfl, fun _ => rfl, fun _ _ => rfl⟩)
      (.cons (.optionalText ⟨rfl, rfl, fun _ => rfl, fun _ _ => rfl⟩) (.nil _))

theorem namedResource_faithful : namedResource.Faithful 1 :=
  .of_fields [1, 2] rfl (by decide) fun _ _ room =>
    .cons (.text ⟨rfl, rfl, fun _ => rfl, fun _ _ => rfl⟩)
      (.cons (.messages resourceAttribute_faithful room ⟨rfl, rfl, fun _ => rfl, fun _ _ => rfl⟩) (.nil _))

theorem namedResources_faithful : namedResources.Faithful 2 :=
  .of_fields [1] rfl (by decide) fun _ _ room =>
    .cons (.messages namedResource_faithful room ⟨rfl, rfl, fun _ => rfl, fun _ _ => rfl⟩) (.nil _)

theorem handle_faithful : handle.Faithful 2 :=
  .of_fields [1, 2, 3] rfl (by decide) fun _ _ room =>
    .cons (.text ⟨rfl, rfl, fun _ => rfl, fun _ _ => rfl⟩)
      (.cons (.text ⟨rfl, rfl, fun _ => rfl, fun _ _ => rfl⟩)
        (.cons (.messages (optional_faithful (text_faithful "name")) room
          ⟨rfl, rfl, fun _ => rfl, fun _ _ => rfl⟩) (.nil _)))

theorem claim_faithful : claim.Faithful 3 :=
  .of_fields [1, 2, 3, 4] rfl (by decide) fun _ _ room =>
    .cons (.text ⟨rfl, rfl, fun _ => rfl, fun _ _ => rfl⟩)
      (.cons (.text ⟨rfl, rfl, fun _ => rfl, fun _ _ => rfl⟩)
        (.cons (.text ⟨rfl, rfl, fun _ => rfl, fun _ _ => rfl⟩)
          (.cons (.messages handle_faithful room ⟨rfl, rfl, fun _ => rfl, fun _ _ => rfl⟩) (.nil _))))

theorem prepareAnswer_faithful : prepareAnswer.Faithful 0 :=
  .of_fields [1, 2] rfl (by decide) fun _ _ _ =>
    .cons (.texts ⟨rfl, rfl, fun _ => rfl, fun _ _ => rfl⟩)
      (.cons (.text ⟨rfl, rfl, fun _ => rfl, fun _ _ => rfl⟩) (.nil _))

theorem claimParametersRequest_faithful : claimParametersRequest.Faithful 0 :=
  .of_fields [1, 2] rfl (by decide) fun _ _ _ =>
    .cons (.text ⟨rfl, rfl, fun _ => rfl, fun _ _ => rfl⟩)
      (.cons (.text ⟨rfl, rfl, fun _ => rfl, fun _ _ => rfl⟩) (.nil _))

theorem allocateRequest_faithful : allocateRequest.Faithful 0 :=
  .of_fields [1, 2, 3, 4, 5] rfl (by decide) fun _ _ _ =>
    .cons (.text ⟨rfl, rfl, fun _ => rfl, fun _ _ => rfl⟩)
      (.cons (.text ⟨rfl, rfl, fun _ => rfl, fun _ _ => rfl⟩)
        (.cons (.text ⟨rfl, rfl, fun _ => rfl, fun _ _ => rfl⟩)
          (.cons (.text ⟨rfl, rfl, fun _ => rfl, fun _ _ => rfl⟩)
            (.cons (.text ⟨rfl, rfl, fun _ => rfl, fun _ _ => rfl⟩) (.nil _)))))

theorem unsuitableNodesRequest_faithful : unsuitableNodesRequest.Faithful 0 :=
  .of_fields [1, 2, 3] rfl (by decide) fun _ _ _ =>
    .cons (.text ⟨rfl, rfl, fun _ => rfl, fun _ _ => rfl⟩)
      (.cons (.texts ⟨rfl, rfl, fun _ => rfl, fun _ _ => rfl⟩)
        (.cons (.texts ⟨rfl, rfl, fun _ => rfl, fun _ _ => rfl⟩) (.nil _)))

theorem objectKey_faithful : objectKey.Faithful 0 :=
  .of_fields [1, 2] rfl (by decide) fun _ _ _ =>
    .cons (.text ⟨rfl, rfl, fun _ => rfl, fun _ _ => rfl⟩)
      (.cons (.text ⟨rfl, rfl, fun _ => rfl, fun _ _ => rfl⟩) (.nil _))

end Codec

/-- No type of messages is nested deeper than five messages. -/
theorem MessageType.codec_faithful (t : MessageType) : t.codec.Faithful 5 := by
  cases t with
  | watchRequest | deallocateResponse => exact Codec.unit_faithful.mono (by decide)
  | inventory =>
    exact (Codec.list_faithful (Codec.optional_faithful Codec.namedResources_faithful)).mono (by decide)
  | resourceModel => exact (Codec.optional_faithful Codec.namedResources_faithful).mono (by decide)
  | namedResources => exact Codec.namedResources_faithful.mono (by decide)
  | namedResource => exact Codec.namedResource_faithful.mono (by decide)
  | resourceAttribute => exact Codec.resourceAttribute_faithful.mono (by decide)
  | prepareRequest | unprepareRequest =>
    exact (Codec.list_faithful Codec.claim_faithful).mono (by decide)
  | prepareResponse => exact (Codec.table_faithful Codec.prepareAnswer_faithful).mono (by decide)
  | prepareAnswer => exact Codec.prepareAnswer_faithful.mono (by decide)
  | unprepareResponse => exact (Codec.table_faithful (Codec.text_faithful _)).mono (by decide)
  | claim => exact Codec.claim_faithful.mono (by decide)
  | handle => exact Codec.handle_faithful.mono (by decide)
  | handleResult => exact (Codec.optional_faithful (Codec.text_faithful _)).mono (by decide)
  | claimParametersRequest => exact Codec.claimParametersRequest_faithful.mono (by decide)
  | allocateRequest => exact Codec.allocateRequest_faithful.mono (by decide)
  | unsuitableNodesRequest => exact Codec.unsuitableNodesRequest_faithful.mono (by decide)
  | structuredParametersRequest => exact Codec.objectKey_faithful.mono (by decide)
  | unsuitableNodesResponse | structuredListResponse =>
    exact (Codec.texts_faithful _).mono (by decide)
  | unprepareAnswer | chosenResource | classParametersRequest | parametersResponse
  | structuredParametersResponse | allocateResponse | deallocateRequest | structuredListRequest =>
    exact (Codec.text_faithful _).mono (by decide)

end Wire

variable {α β ε : Type}

/-- What a conversion is undone by, it is undone by for each element. -/
theorem convertEach_map {f : β → Except ε α} {g : α → β} {l : List α}
    (back : ∀ a ∈ l, f (g a) = .ok a) : convertEach f (l.map g) = .ok l := by
  induction l with
  | nil => rfl
  | cons a rest ih =>
    obtain ⟨first, others⟩ := List.forall_mem_cons.mp back
    simp only [List.map_cons, convertEach, first, ih others]

/-- A list of converted elements is converted back to a list of the elements. -/
theorem exists_convertEach {f : β → Except ε α} {g : α → β} {as : List α}
    (back : ∀ a ∈ as, f (g a) = .ok a) {bs : List β} (made : ∀ b ∈ bs, b ∈ as.map g) :
    ∃ as', convertEach f bs = .ok as' ∧ as'.map g = bs ∧ ∀ a ∈ as', a ∈ as := by
  induction bs with
  | nil => exact ⟨[], rfl, rfl, fun _ none => absurd none List.not_mem_nil⟩
  | cons b bs ih =>
    obtain ⟨first, others⟩ := List.forall_mem_cons.mp made
    obtain ⟨a, member, rfl⟩ := List.mem_map.mp first
    obtain ⟨as', converted, same, members⟩ := ih others
    refine ⟨a :: as', ?_, by rw [List.map_cons, same], List.forall_mem_cons.mpr ⟨member, members⟩⟩
    simp only [convertEach, back a member, converted]

/-- A map whose keys and values can be converted back is found again, whatever the order of the
converted keys. -/
theorem convertEach_ofList {κ κ' : Type} [KeyOrder κ] [KeyOrder κ'] {v v' : Type}
    {f : κ' × v' → Except ε (κ × v)} {g : κ × v → κ' × v'} {m : SortedMap κ v}
    (back : ∀ e ∈ m.entries, f (g e) = .ok e)
    (keys : ∀ e ∈ m.entries, ∀ e' ∈ m.entries, (g e).1 = (g e').1 → e = e') :
    (convertEach f (SortedMap.ofList (m.entries.map g)).entries).map .ofList = .ok m := by
  have mem_iff : ∀ b, b ∈ (SortedMap.ofList (m.entries.map g)).entries ↔ b ∈ m.entries.map g := by
    rintro ⟨k, b⟩
    rw [SortedMap.mem_entries_iff]
    refine ⟨SortedMap.mem_of_get?_ofList, fun member => ?_⟩
    obtain ⟨b', found⟩ := SortedMap.exists_get?_ofList member
    obtain ⟨e, at_e, same⟩ := List.mem_map.mp member
    obtain ⟨e', at_e', same'⟩ := List.mem_map.mp (SortedMap.mem_of_get?_ofList found)
    have one := keys e at_e e' at_e' ((congrArg Prod.fst same).trans (congrArg Prod.fst same').symm)
    rw [one, same'] at same
    cases same
    exact found
  obtain ⟨l, converted, images, members⟩ := exists_convertEach back fun b => (mem_iff b).mp
  rw [converted]
  refine congrArg Except.ok (SortedMap.ofList_eq_of_mem_iff fun e => ⟨members e, fun member => ?_⟩)
  -- The image of an entry comes of an element of the list, which can only be that entry.
  have image : g e ∈ l.map g := images ▸ (mem_iff _).mpr (List.mem_map_of_mem member)
  obtain ⟨e', at_e', same⟩ := List.mem_map.mp image
  have one := keys e' (members e' at_e') e member (congrArg Prod.fst same)
  exact one ▸ at_e'

theorem readUid_text (uid : ClaimUid) : readUid uid.text = .ok uid := by
  rw [readUid, ClaimUid.parse_text]
  rfl

/-- Parameters of a driver that can be carried: without fractions and exponents, and nested no deeper
than a reader allows. -/
def StructuredHandle.Carriable (h : StructuredHandle) : Prop :=
  ∀ v, h.vendorParameters = some v → v.json.floatFree = true ∧ v.json.height ≤ Json.maxDepth

/-- A handle whose parameters can be carried is understood as it was told. -/
theorem StructuredHandle.ofMessage_toMessage {h : StructuredHandle} (carriable : h.Carriable) :
    ofMessage h.toMessage = .ok h := by
  obtain ⟨parameters, node, results⟩ := h
  have named : ∀ {β : Type} (f : Option String → Except ConvertError String)
      (next : List String → Except ConvertError β), (∀ name, f (some name) = .ok name) →
      (convertEach f (results.map some)).bind next = next results := by
    intro β f next reads
    rw [convertEach_map fun name _ => reads name]
    rfl
  cases parameters with
  | none =>
    simp only [ofMessage, toMessage, Option.map_none, Option.getD_none, if_pos]
    exact named _ _ fun _ => rfl
  | some v =>
    obtain ⟨free, shallow⟩ := carriable v rfl
    have read := FreeForm.run_text free shallow
    have written : v.json.text ≠ "" := by
      intro empty
      rw [empty] at read
      cases read
    simp only [ofMessage, toMessage, Option.map_some, Option.getD_some, if_neg written, readField, read]
    exact named _ _ fun _ => rfl

theorem NodeClaim.ofMessage_toMessage {c : NodeClaim} (carriable : ∀ h ∈ c.handles, h.Carriable) :
    ofMessage c.toMessage = .ok c := by
  have handles := convertEach_map fun h member =>
    StructuredHandle.ofMessage_toMessage (carriable h member)
  simp only [ofMessage, toMessage, handles, readUid_text]
  rfl

theorem NodeClaim.ofMessages_toMessage {cs : List NodeClaim}
    (carriable : ∀ c ∈ cs, ∀ h ∈ c.handles, h.Carriable) : ofMessages (cs.map toMessage) = .ok cs :=
  convertEach_map fun c member => ofMessage_toMessage (carriable c member)

/-- A failure is understood as it was told, unless its text is empty. -/
theorem failureOf_failureText {failure : Option String} (told : failure ≠ some "") :
    failureOf (failureText failure) = failure := by
  cases failure with
  | none => rfl
  | some text => exact if_neg fun empty => told (congrArg some empty)

theorem ClaimUid.eq_of_text {u u' : ClaimUid} (same : u.text = u'.text) : u = u' := by
  have read := readUid_text u
  rw [same, readUid_text] at read
  exact (Except.ok.inj read).symm

/-- Outcomes of preparation are understood as they were told, by claim. -/
theorem PrepareOutcome.ofMessage_toMessage {m : SortedMap ClaimUid PrepareOutcome}
    (told : ∀ e ∈ m.entries, e.2.failure ≠ some "") : ofMessage (toMessage m) = .ok m := by
  refine convertEach_ofList (fun e member => ?_) fun e at_e e' at_e' same => ?_
  · simp only [readUid_text, failureOf_failureText (told e member)]
    rfl
  · exact SortedMap.eq_of_key at_e at_e' (ClaimUid.eq_of_text same)

theorem UnprepareOutcome.ofMessage_toMessage {m : SortedMap ClaimUid UnprepareOutcome}
    (told : ∀ e ∈ m.entries, e.2.failure ≠ some "") : ofMessage (toMessage m) = .ok m := by
  refine convertEach_ofList (fun e member => ?_) fun e at_e e' at_e' same => ?_
  · simp only [readUid_text, failureOf_failureText (told e member)]
    rfl
  · exact SortedMap.eq_of_key at_e at_e' (ClaimUid.eq_of_text same)

namespace Wire

/-- A table of answers is read as it was written, in whatever order its entries were written. -/
theorem Codec.read_writeTable {V : Type} [DecidableEq V] {c : Codec V} (name : String)
    (faithful : c.Faithful 0) {m : SortedMap String V} {l : List (String × V)} (order : l.Perm m.entries)
    (fits : Announced ((table name c).size m)) : (table name c).read (writeTable c l) = some m :=
  merge_writeTable faithful (by decide) order ((length_writeTable faithful order).symm ▸ fits)

/-- What is told survives the way. A message of any type has the length that is announced for it and
is read as it was written, and so are the claims of a request, the outcomes of a response, in whatever
order it lists them, and the inventories that a node reports; that their lengths can be announced is
all that is asked of them, beside parameters that can be carried and failures that say something. -/
theorem told_is_understood :
    (∀ (t : MessageType) (m : t.Carrier), (t.codec.write m).length = t.codec.size m ∧
      (Announced (t.codec.size m) → t.codec.read (t.codec.write m) = some m)) ∧
    (∀ cs : List NodeClaim, (∀ c ∈ cs, ∀ h ∈ c.handles, h.Carriable) →
      Announced ((Codec.list "claims" .claim).size (cs.map NodeClaim.toMessage)) →
      (MessageType.prepareRequest.codec.read
        (MessageType.prepareRequest.codec.write (cs.map NodeClaim.toMessage))).map NodeClaim.ofMessages =
          some (.ok cs) ∧
      (MessageType.unprepareRequest.codec.read
        (MessageType.unprepareRequest.codec.write (cs.map NodeClaim.toMessage))).map
          NodeClaim.ofMessages = some (.ok cs)) ∧
    (∀ m : SortedMap ClaimUid PrepareOutcome, (∀ e ∈ m.entries, e.2.failure ≠ some "") →
      Announced (MessageType.prepareResponse.codec.size (PrepareOutcome.toMessage m)) →
      ∀ l, l.Perm (PrepareOutcome.toMessage m).entries →
        (MessageType.prepareResponse.codec.read (Codec.writeTable .prepareAnswer l)).map
          PrepareOutcome.ofMessage = some (.ok m)) ∧
    (∀ m : SortedMap ClaimUid UnprepareOutcome, (∀ e ∈ m.entries, e.2.failure ≠ some "") →
      Announced (MessageType.unprepareResponse.codec.size (UnprepareOutcome.toMessage m)) →
      ∀ l, l.Perm (UnprepareOutcome.toMessage m).entries →
        (MessageType.unprepareResponse.codec.read (Codec.writeTable (.text "error") l)).map
          UnprepareOutcome.ofMessage = some (.ok m)) ∧
    (∀ ms : List ResourceModel,
      Announced (MessageType.inventory.codec.size (ms.map ResourceModel.toMessage)) →
      (MessageType.inventory.codec.read
        (MessageType.inventory.codec.write (ms.map ResourceModel.toMessage))).map
          (List.map ResourceModel.ofMessage) = some ms) := by
  have read : ∀ (t : MessageType) (m : t.Carrier), Announced (t.codec.size m) →
      t.codec.read (t.codec.write m) = some m :=
    fun t m fits => t.codec_faithful.read_write (by decide) fits
  refine ⟨fun t m => ⟨t.codec_faithful.length m, read t m⟩, fun cs carriable fits => ⟨?_, ?_⟩,
    fun m told fits l order => ?_, fun m told fits l order => ?_, fun ms fits => ?_⟩
  · rw [read .prepareRequest _ fits]
    exact congrArg some (NodeClaim.ofMessages_toMessage carriable)
  · rw [read .unprepareRequest _ fits]
    exact congrArg some (NodeClaim.ofMessages_toMessage carriable)
  · have found := Codec.read_writeTable "claims" Codec.prepareAnswer_faithful order fits
    exact (congrArg (Option.map _) found).trans (congrArg some (PrepareOutcome.ofMessage_toMessage told))
  · have found := Codec.read_writeTable "claims" (Codec.text_faithful "error") order fits
    exact (congrArg (Option.map _) found).trans (congrArg some (UnprepareOutcome.ofMessage_toMessage told))
  · rw [read .inventory _ fits, Option.map_some, List.map_map]
    exact congrArg some (List.map_id ms)

/-- A claim with two handles, one of which carries parameters. -/
def handedClaim : NodeClaim where
  space := "default"
  uid := ⟨⟨List.replicate 16 7, rfl⟩⟩
  name := "claim"
  handles := [
    { vendorParameters := some ⟨.obj [("count", .int 2), ("of", .arr [.null, .str ""])], by decide⟩
      results := ["fake-1", ""] },
    { nodeName := "node" }]

/-- A claim with a handle is told to a plugin and understood by it. -/
theorem told_is_understood_handed :
    (∀ h ∈ handedClaim.handles, h.Carriable) ∧
      Announced ((Codec.list "claims" .claim).size [handedClaim.toMessage]) ∧
      (MessageType.prepareRequest.codec.read
        (MessageType.prepareRequest.codec.write [handedClaim.toMessage])).map NodeClaim.ofMessages =
          some (.ok [handedClaim]) := by
  have carriable : ∀ h ∈ handedClaim.handles, h.Carriable := by
    simp only [handedClaim, List.forall_mem_cons, StructuredHandle.Carriable, Option.some.injEq,
      forall_eq', reduceCtorEq, false_implies, implies_true, List.not_mem_nil, and_true]
    decide
  have fits : Announced ((Codec.list "claims" .claim).size [handedClaim.toMessage]) := by
    unfold Announced
    decide +kernel
  have all := told_is_understood.2.1 [handedClaim] (by simpa using carriable) fits
  exact ⟨carriable, fits, all.1⟩

end Wire

end DeviceClaims
