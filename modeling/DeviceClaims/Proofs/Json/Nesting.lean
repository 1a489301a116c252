import DeviceClaims.Proofs.Json.FreeForm

namespace DeviceClaims.Json

theorem Numeral.height_value {z : Numeral} {v : Json} (stands : z.value = some v) : v.height = 0 := by
  have of_double : ∀ {o : Option Double}, o.map Json.float = some v → v.height = 0 := by
    intro o found
    obtain ⟨x, -, rfl⟩ := Option.map_eq_some_iff.mp found
    rfl
  have of_some : ∀ {w : Json}, w.height = 0 → some w = some v → v.height = 0 := by
    rintro w flat ⟨⟩
    exact flat
  simp only [value] at stands
  split at stands
  · split at stands
    · exact of_some rfl stands
    · split at stands <;> exact of_some rfl stands
  · split at stands
    · exact of_double stands
    · split at stands
      · split at stands
        · cases stands
        · exact of_some rfl stands
      · exact of_double stands

/-- A token stands for no container. -/
def Token.Flat (t : Token) : Prop := ∀ v, t = .scalar v → v.height = 0

namespace Token

/-- If a token is read it stands for no container. -/
def ReadsFlat (read : Option (Token × List Char)) : Prop :=
  ∀ t rest, read = some (t, rest) → t.Flat

theorem ReadsFlat.ite {c : Prop} [Decidable c] {read read' : Option (Token × List Char)}
    (first : ReadsFlat read) (second : ReadsFlat read') : ReadsFlat (if c then read else read') := by
  split
  · exact first
  · exact second

theorem readsFlat_some {t : Token} {rest : List Char} (flat : t.Flat) : ReadsFlat (some (t, rest)) := by
  rintro _ _ ⟨⟩
  exact flat

theorem readsFlat_word {v : Json} (flat : v.height = 0) (after : Option (List Char)) :
    ReadsFlat (after.map (.scalar v, ·)) := by
  intro t rest read
  obtain ⟨_, -, same⟩ := Option.map_eq_some_iff.mp read
  cases same
  rintro _ ⟨⟩
  exact flat

/-- What a token stands for is no container. -/
theorem flat_read? (cs : List Char) : ReadsFlat (read? cs) := by
  cases cs with
  | nil => exact nofun
  | cons c cs =>
    rw [read?]
    iterate 6 refine .ite (readsFlat_some nofun) ?_
    refine .ite ?_ (.ite (readsFlat_word rfl _) (.ite (readsFlat_word rfl _) (.ite (readsFlat_word rfl _) ?_)))
    · cases readStr [] none true cs with
      | none => exact nofun
      | some read =>
        have void : Token.voidStr.Flat := nofun
        have text (s : List Char) : (Token.str (String.ofList s)).Flat := nofun
        obtain ⟨_ | s, rest⟩ := read
        · exact readsFlat_some void
        · exact readsFlat_some (text s)
    · cases Numeral.read? (c :: cs) with
      | none => exact nofun
      | some read =>
        obtain ⟨z, rest⟩ := read
        have void : Token.voidNumber.Flat := nofun
        cases stands : z.value with
        | none => simpa only [stands] using readsFlat_some void
        | some v =>
          have flat : (Token.scalar v).Flat := by
            rintro _ ⟨⟩
            exact Numeral.height_value stands
          simpa only [stands] using readsFlat_some flat

theorem flat_broken : broken.Flat := nofun

theorem flat_tokenize {fuel : Nat} {cs : List Char} : ∀ t ∈ tokenize fuel cs, t.Flat := by
  induction fuel generalizing cs with
  | zero => exact List.forall_mem_nil _
  | succ fuel ih =>
    rw [tokenize]
    split
    · exact List.forall_mem_nil _
    · split
      · exact List.forall_mem_singleton.mpr flat_broken
      · next read => exact List.forall_mem_cons.mpr ⟨flat_read? _ _ _ read, ih⟩

end Token

namespace Reading

mutual

/-- Whether what is read as no container is none. -/
def flat : Reading → Bool
  | scalar v => v.height = 0
  | arr items _ => flatItems items
  | obj members _ => flatMembers members
  | _ => true

def flatItems : List Reading → Bool
  | [] => true
  | r :: rest => flat r && flatItems rest

def flatMembers : List (Option String × Reading) → Bool
  | [] => true
  | (_, r) :: rest => flat r && flatMembers rest

end

theorem flatItems_iff {rs : List Reading} : flatItems rs = true ↔ ∀ r ∈ rs, r.flat = true := by
  induction rs with
  | nil => simp [flatItems]
  | cons r rs ih => simp [flatItems, ih]

theorem flatMembers_iff {ms : List (Option String × Reading)} :
    flatMembers ms = true ↔ ∀ m ∈ ms, m.2.flat = true := by
  induction ms with
  | nil => simp [flatMembers]
  | cons m ms ih => simp [flatMembers, ih]

variable {r root : Reading} {items : List Reading} {members : List (Option String × Reading)}
  {frames : List Frame} {next : Next} {ts : List Token} {whole : Bool}

@[simp] theorem flat_arr : (arr items whole).flat = true ↔ ∀ r ∈ items, r.flat = true := by
  rw [flat, flatItems_iff]

@[simp] theorem flat_obj : (obj members whole).flat = true ↔ ∀ m ∈ members, m.2.flat = true := by
  rw [flat, flatMembers_iff]

/-- What an open container holds so far is flat. -/
def Frame.Flat : Frame → Prop
  | .arr done => ∀ r ∈ done, r.flat = true
  | .obj done _ => ∀ m ∈ done, m.2.flat = true

/-- What an object holds so far whose next key is read is flat. -/
def Next.Flat : Next → Prop
  | .firstKey done | .key done | .colon done _ => ∀ m ∈ done, m.2.flat = true
  | _ => True

theorem flat_arr_reverse (inside : ∀ r ∈ items, r.flat = true) : (arr items.reverse whole).flat = true :=
  flat_arr.mpr fun r member => inside r (List.mem_reverse.mp member)

theorem flat_obj_reverse (inside : ∀ m ∈ members, m.2.flat = true) :
    (obj members.reverse whole).flat = true :=
  flat_obj.mpr fun m member => inside m (List.mem_reverse.mp member)

theorem flat_unfinished (flat : r.flat = true) (around : ∀ f ∈ frames, f.Flat) :
    (unfinished r frames).flat = true := by
  induction frames generalizing r with
  | nil => exact flat
  | cons f frames ih =>
    obtain ⟨first, others⟩ := List.forall_mem_cons.mp around
    cases f with
    | arr done => exact ih (flat_arr_reverse (List.forall_mem_cons.mpr ⟨flat, first⟩)) others
    | obj done key =>
      have inside : ∀ m ∈ (key, r) :: done, m.2.flat = true := List.forall_mem_cons.mpr ⟨flat, first⟩
      exact ih (flat_obj_reverse inside) others

/-- Where the text breaks off, the containers that are open are what was read of them. -/
theorem flat_breakOff (flat : root.flat = true) (around : ∀ f ∈ frames, f.Flat) (waiting : next.Flat) :
    (breakOff root frames next).flat = true := by
  have cut : (unfinished .cut frames).flat = true := flat_unfinished rfl around
  cases next with
  | value => exact cut
  | firstItem =>
    cases frames with
    | nil => exact cut
    | cons f frames =>
      obtain ⟨first, others⟩ := List.forall_mem_cons.mp around
      cases f with
      | arr done => exact flat_unfinished (flat_arr_reverse first) others
      | obj done key => exact cut
  | separator =>
    cases frames with
    | nil => exact flat
    | cons f frames =>
      have closed : (unfinished root (f :: frames)).flat = true := flat_unfinished flat around
      cases f <;> exact closed
  | firstKey done => exact flat_unfinished (flat_obj_reverse waiting) around
  | key done => exact flat_unfinished (flat_obj_reverse waiting) around
  | colon done key =>
    have waiting : ∀ m ∈ (key, Reading.cut) :: done, m.2.flat = true := List.forall_mem_cons.mpr ⟨rfl, waiting⟩
    exact flat_unfinished (flat_obj_reverse waiting) around

/-- A token at a time: what is read next stands beside what was read before. -/
theorem flat_build (tokens : ∀ t ∈ ts, t.Flat) (flat : root.flat = true) (around : ∀ f ∈ frames, f.Flat)
    (waiting : next.Flat) : (build root frames next ts).1.flat = true := by
  fun_induction build root frames next ts with
  | case1 => exact flat
  | case2 | case17 | case21 | case24 | case28 | case31 | case33 =>
    exact flat_breakOff flat around waiting
  | case9 | case18 =>
    have waiting : Next.value.Flat := trivial
    exact flat_breakOff flat around waiting
  | case3 _ _ _ v ih | case10 _ _ _ v ih =>
    obtain ⟨first, tokens⟩ := List.forall_mem_cons.mp tokens
    exact ih tokens (decide_eq_true (first v rfl)) around trivial
  | case4 _ _ _ _ ih | case11 _ _ _ _ ih | case5 _ _ _ ih | case6 _ _ _ ih | case12 _ _ _ ih
    | case13 _ _ _ ih =>
    exact ih (List.forall_mem_cons.mp tokens).2 rfl around trivial
  | case7 _ _ _ ih | case14 _ _ _ ih =>
    exact ih (List.forall_mem_cons.mp tokens).2 flat (List.forall_mem_cons.mpr ⟨nofun, around⟩) trivial
  | case8 _ _ _ ih | case15 _ _ _ ih => exact ih (List.forall_mem_cons.mp tokens).2 flat around nofun
  | case16 _ _ _ _ ih =>
    obtain ⟨inner, around⟩ := List.forall_mem_cons.mp around
    exact ih (List.forall_mem_cons.mp tokens).2 (flat_arr_reverse inner) around trivial
  | case19 _ done _ _ ih =>
    obtain ⟨inner, around⟩ := List.forall_mem_cons.mp around
    have inner : (Frame.arr (_ :: done)).Flat := List.forall_mem_cons.mpr ⟨flat, inner⟩
    exact ih (List.forall_mem_cons.mp tokens).2 flat (List.forall_mem_cons.mpr ⟨inner, around⟩) trivial
  | case20 _ _ _ _ ih =>
    obtain ⟨inner, around⟩ := List.forall_mem_cons.mp around
    exact ih (List.forall_mem_cons.mp tokens).2
      (flat_arr_reverse (List.forall_mem_cons.mpr ⟨flat, inner⟩)) around trivial
  | case22 _ _ _ _ _ ih =>
    obtain ⟨inner, around⟩ := List.forall_mem_cons.mp around
    exact ih (List.forall_mem_cons.mp tokens).2 flat around (List.forall_mem_cons.mpr ⟨flat, inner⟩)
  | case23 _ done key _ _ ih =>
    obtain ⟨inner, around⟩ := List.forall_mem_cons.mp around
    have inner : ∀ m ∈ (key, _) :: done, m.2.flat = true := List.forall_mem_cons.mpr ⟨flat, inner⟩
    exact ih (List.forall_mem_cons.mp tokens).2 (flat_obj_reverse inner) around trivial
  | case25 _ _ _ _ _ ih | case29 _ _ _ _ _ ih | case26 _ _ _ _ ih | case30 _ _ _ _ ih =>
    exact ih (List.forall_mem_cons.mp tokens).2 flat around waiting
  | case27 _ _ _ _ ih =>
    exact ih (List.forall_mem_cons.mp tokens).2 (flat_obj_reverse waiting) around trivial
  | case32 _ _ _ _ _ ih =>
    exact ih (List.forall_mem_cons.mp tokens).2 flat (List.forall_mem_cons.mpr ⟨waiting, around⟩) trivial

theorem flat_ofText (cs : List Char) : (ofText cs).1.flat = true :=
  flat_build Token.flat_tokenize rfl nofun trivial

mutual

/-- A value of free form is nested no deeper than was allowed. -/
theorem height_freeForm? : ∀ (r : Reading) {depth : Nat} {v : FreeForm}, r.flat = true →
    freeForm? depth r = some v → v.json.height ≤ depth
  | .scalar w, depth, v, flat, read => by
    have flat : w.height = 0 := of_decide_eq_true flat
    rw [freeForm?] at read
    split at read
    · cases read
      exact Nat.le_trans (Nat.le_of_eq flat) (Nat.zero_le depth)
    · cases read
  | .str _, depth, _, _, read => by
    cases read
    exact Nat.zero_le depth
  | .arr items _, depth, v, flat, read => by
    rw [freeForm?] at read
    split at read
    · cases read
    · next room =>
      obtain ⟨js, inside, rfl⟩ := Option.map_eq_some_iff.mp read
      have inner := height_freeItems? items flat inside
      have positive : depth ≠ 0 := fun zero => room (.inl zero)
      rw [height]
      omega
  | .obj members _, depth, v, flat, read => by
    rw [freeForm?] at read
    split at read
    · cases read
    · next room =>
      obtain ⟨m, inside, rfl⟩ := Option.map_eq_some_iff.mp read
      have inner := heightMembers_le.mpr (height_freeMembers? members flat inside nofun)
      have positive : depth ≠ 0 := fun zero => room (.inl zero)
      rw [height]
      omega

theorem height_freeItems? : ∀ (rs : List Reading) {depth : Nat} {js : { js // areNormal js = true }},
    flatItems rs = true → freeItems? depth rs = some js → heightItems js.1 ≤ depth
  | [], depth, _, _, read => by
    cases read
    exact Nat.zero_le depth
  | r :: rs, depth, _, flat, read => by
    obtain ⟨first, others⟩ := Bool.and_eq_true_iff.mp flat
    rw [freeItems?] at read
    split at read
    · cases read
    · next v here =>
      obtain ⟨js, later, rfl⟩ := Option.map_eq_some_iff.mp read
      exact Nat.max_le.mpr ⟨height_freeForm? r first here, height_freeItems? rs others later⟩

theorem height_freeMembers? : ∀ (ms : List (Option String × Reading)) {depth : Nat}
    {done m : { m : SortedMap String Json // ∀ e ∈ m.entries, e.2.isNormal = true }},
    flatMembers ms = true → freeMembers? depth ms done = some m →
    (∀ e ∈ done.1.entries, e.2.height ≤ depth) → ∀ e ∈ m.1.entries, e.2.height ≤ depth
  | [], _, _, _, _, read, before => by
    cases read
    exact before
  | (none, _) :: _, _, _, _, _, read, _ => nomatch read
  | (some k, r) :: ms, depth, done, _, flat, read, before => by
    obtain ⟨first, others⟩ := Bool.and_eq_true_iff.mp flat
    rw [freeMembers?] at read
    split at read
    · cases read
    · next v here =>
      refine height_freeMembers? ms others read fun e member => ?_
      rcases SortedMap.mem_insertEntry member with rfl | member
      · exact height_freeForm? r first here
      · exact before e member

end

/-- Only a null is a value of free form that says nothing. -/
theorem eq_null_of_freeForm? {depth : Nat} {v : FreeForm} (read : freeForm? depth r = some v)
    (null : v.json = .null) : r = .scalar .null := by
  cases r with
  | scalar w =>
    rw [freeForm?] at read
    split at read
    · cases read
      exact congrArg Reading.scalar null
    · cases read
  | str s => cases read; cases null
  | void | cut => cases read
  | arr | obj =>
    rw [freeForm?] at read
    split at read
    · cases read
    · obtain ⟨_, -, rfl⟩ := Option.map_eq_some_iff.mp read
      cases null

end Reading

namespace Timed

variable {α β : Type} {f : α → β} {g : Timed (α → β)} {a : Timed α} {b : β}

theorem of_seq (both : g <*> a = ok b) : ∃ f x, g = ok f ∧ a = ok x ∧ f x = b := by
  cases g with
  | error e => cases a <;> cases both
  | ok f =>
    cases a with
    | error e => cases both
    | ok x =>
      cases both
      exact ⟨f, x, rfl, rfl, rfl⟩

theorem of_map (mapped : f <$> a = ok b) : ∃ x, a = ok x ∧ f x = b := by
  cases a with
  | error e => cases mapped
  | ok x =>
    cases mapped
    exact ⟨x, rfl, rfl⟩

end Timed

/-- What a record is read from is flat. -/
def Contents.Flat : Contents → Prop
  | .members ms => ∀ m ∈ ms, m.2.flat = true
  | .items rs _ => ∀ r ∈ rs, r.flat = true

namespace Decoder

variable {α : Type} {d : Decoder α} {holds : Nat → α → Prop}

/-- Whatever is read of what is flat satisfies a condition, which may depend on how many containers
surround it. -/
def Ensures (d : Decoder α) (holds : Nat → α → Prop) : Prop :=
  ∀ (p : Place) (r : Reading) (a : α), r.flat = true → d p r = .ok a → holds p.depth a

/-- What a decoder ensures is true of what it reads from a text. -/
theorem Ensures.of_run (ensures : d.Ensures holds) {s : String} {a : α} (decoded : d.run s = .ok a) :
    holds 0 a := by
  unfold Decoder.run at decoded
  dsimp only at decoded
  split at decoded
  · cases decoded
  · next a' inside =>
    split at decoded
    · cases decoded
      exact ensures _ _ _ (Reading.flat_ofText s.toList) inside
    · cases decoded

/-- A value of free form has no more levels than are left where it stands. -/
theorem ensures_freeForm : freeForm.Ensures fun n v => v.json.height ≤ maxDepth - n := by
  intro p r v flat decoded
  rw [freeForm] at decoded
  split at decoded
  · next read =>
    cases decoded
    exact Reading.height_freeForm? r flat read
  · cases decoded

/-- A null is read as no value, so no value that is read is null. -/
theorem ensures_optionFreeForm : (option freeForm).Ensures fun n o => ∀ v ∈ o,
    v.json.height ≤ maxDepth - n ∧ v.json ≠ .null := by
  intro p r o flat decoded v member
  unfold option at decoded
  split at decoded
  · cases decoded
    cases member
  · next present =>
    cases inside : freeForm p r with
    | error f => simp [inside, Except.map] at decoded
    | ok w =>
      simp only [inside, Except.map, Except.ok.injEq] at decoded
      subst decoded
      cases member
      refine ⟨ensures_freeForm _ _ _ flat inside, fun null => present ?_⟩
      rw [freeForm] at inside
      split at inside
      · next read =>
        cases inside
        exact Reading.eq_null_of_freeForm? read null
      · cases inside

theorem Ensures.of_items (ensures : d.Ensures holds) {p : Place} {rs : List Reading} {as : List α}
    (flat : ∀ r ∈ rs, r.flat = true) (decoded : items d p rs = .ok as) :
    ∀ a ∈ as, holds p.depth a := by
  induction rs generalizing as with
  | nil =>
    cases decoded
    exact nofun
  | cons r rs ih =>
    obtain ⟨first, others⟩ := List.forall_mem_cons.mp flat
    rw [Decoder.items] at decoded
    cases here : d p r with
    | error f => simp [here] at decoded
    | ok a =>
      cases later : Decoder.items d p rs with
      | error f => simp [here, later, Except.map] at decoded
      | ok as' =>
        simp only [here, later, Except.map, Except.ok.injEq] at decoded
        rw [← decoded]
        exact List.forall_mem_cons.mpr ⟨ensures p r a first here, ih others later⟩

/-- What a decoder ensures is true of every element of a list, one level deeper. -/
theorem Ensures.list (ensures : d.Ensures holds) :
    (Decoder.list d).Ensures fun n as => ∀ a ∈ as, holds (n + 1) a := by
  intro p r as flat decoded
  unfold Decoder.list at decoded
  split at decoded
  · split at decoded
    · cases decoded
    · next inside =>
      split at decoded
      · cases decoded
        exact ensures.of_items (Reading.flat_arr.mp flat) inside
      · cases decoded
  · cases decoded

theorem mem_of_find? {k : String} {ms : List (Option String × Reading)} {i : Nat} {r : Reading}
    (found : RecordReading.find? k ms = some (i, r)) : (some k, r) ∈ ms := by
  induction ms generalizing i with
  | nil => cases found
  | cons m ms ih =>
    obtain ⟨l, r'⟩ := m
    rw [RecordReading.find?] at found
    split at found
    · next same =>
      cases found
      exact same ▸ List.mem_cons_self
    · obtain ⟨⟨j, r''⟩, later, same⟩ := Option.map_eq_some_iff.mp found
      cases same
      exact List.mem_cons_of_mem _ (ih later)

theorem Ensures.of_decodeAt (ensures : d.Ensures holds) {r : RecordReading} {step : Nat} {v : Reading} {a : α}
    (flat : v.flat = true) (decoded : r.decodeAt d step v = Timed.ok a) : holds r.place.depth a := by
  unfold RecordReading.decodeAt at decoded
  split at decoded
  · next inside =>
    cases decoded
    exact ensures _ _ _ flat inside
  · cases decoded

theorem eq_of_usual {absent : Option α} {a : α} {e : Nat × Fault}
    (chosen : (match absent with | some b => Timed.ok b | none => Except.error e) = Timed.ok a) :
    absent = some a := by
  cases absent with
  | none => cases chosen
  | some b =>
    cases chosen
    rfl

/-- What a field is read as, if it is not what stands for one that is left out. -/
theorem Ensures.of_fieldAt (ensures : d.Ensures holds) {r : RecordReading} (flat : r.contents.Flat)
    {index : Nat} {k : String} {absent : Option α} {a : α}
    (decoded : r.fieldAt index k d absent = Timed.ok a) : holds r.place.depth a ∨ absent = some a := by
  unfold RecordReading.fieldAt at decoded
  split at decoded
  · next ms contents =>
    rw [contents] at flat
    split at decoded
    · next found => exact .inl (ensures.of_decodeAt (flat _ (mem_of_find? found)) decoded)
    · exact .inr (eq_of_usual decoded)
  · next rs whole contents =>
    rw [contents] at flat
    split at decoded
    · next found => exact .inl (ensures.of_decodeAt (flat _ (List.mem_of_getElem? found)) decoded)
    · cases whole with
      | true => exact .inr (eq_of_usual decoded)
      | false => cases decoded

/-- A record is made of what its fields are read as. -/
theorem ensures_record (holds : Nat → α → Prop) {name : String} {known : List String}
    {build : RecordReading → Timed α}
    (built : ∀ {r : RecordReading} {a : α}, r.contents.Flat → build r = Timed.ok a →
      holds r.place.depth a) : (record name known build).Ensures fun n => holds (n + 1) := by
  intro p r a flat decoded
  unfold record at decoded
  split at decoded
  · next ms whole =>
    split at decoded
    · next read =>
      cases decoded
      obtain ⟨f, x, surveyed, made, same⟩ := Timed.of_seq read
      obtain ⟨_, _, rfl⟩ := Timed.of_map surveyed
      cases same
      refine built ?_ made
      exact Reading.flat_obj.mp flat
    · cases decoded
  · next rs whole =>
    split at decoded
    · cases decoded
    · next made =>
      cases surplus : noSurplus p.origin known.length rs.length whole with
      | error f => simp [surplus, Except.map] at decoded
      | ok _ =>
        simp only [surplus, Except.map, Except.ok.injEq] at decoded
        subst decoded
        refine built ?_ made
        exact Reading.flat_arr.mp flat
  · cases decoded

end Decoder

end DeviceClaims.Json
