import DeviceClaims.Proofs.Identifiers.Grammar
import DeviceClaims.Text.Utf8

namespace DeviceClaims

/-- Of texts that begin with equally many elements the beginnings decide, and if they are the same the rest. -/
theorem append_lt_append_iff {α : Type} [LT α] [DecidableEq α] [Std.Irrefl (α := α) (· < ·)]
    {xs ys rest rest' : List α} (length : xs.length = ys.length) :
    xs ++ rest < ys ++ rest' ↔ xs < ys ∨ xs = ys ∧ rest < rest' := by
  induction xs generalizing ys with
  | nil =>
    cases ys with
    | nil => simp
    | cons y ys => cases length
  | cons x xs ih =>
    cases ys with
    | nil => cases length
    | cons y ys =>
      rw [List.cons_append, List.cons_append, List.cons_lt_cons_iff, List.cons_lt_cons_iff,
        ih (Nat.succ.inj length), List.cons.injEq, or_assoc, and_or_left, and_assoc]

theorem append_cons_lt_iff {α : Type} [LT α] [DecidableEq α] [Std.Irrefl (α := α) (· < ·)]
    {xs ys rest rest' bare bare' : List α} (length : xs.length = ys.length) (x : α)
    (later : rest < rest' ↔ bare < bare') :
    xs ++ x :: rest < ys ++ x :: rest' ↔ xs ++ bare < ys ++ bare' := by
  rw [append_lt_append_iff length, append_lt_append_iff length, List.cons_lt_cons_self, later]

namespace Hex

theorem digit_lt_digit_iff {m n : Nat} (m_lt : m < 16) (n_lt : n < 16) : digit m < digit n ↔ m < n := by
  have each : ∀ i j : Fin 16, digit i < digit j ↔ i < j := by decide
  exact each ⟨m, m_lt⟩ ⟨n, n_lt⟩

theorem digit_eq_digit_iff {m n : Nat} (m_lt : m < 16) (n_lt : n < 16) : digit m = digit n ↔ m = n := by
  constructor
  · intro same
    exact Option.some.inj ((value?_digit m_lt).symm.trans ((congrArg value? same).trans (value?_digit n_lt)))
  · exact congrArg digit

/-- The digits of bytes are ordered as the bytes are. -/
theorem ofByte_append_lt_iff {a b : UInt8} {rest rest' : List Char} :
    ofByte a ++ rest < ofByte b ++ rest' ↔ a < b ∨ a = b ∧ rest < rest' := by
  have := a.toNat_lt
  have := b.toNat_lt
  simp only [ofByte, List.cons_append, List.nil_append, List.cons_lt_cons_iff]
  rw [digit_lt_digit_iff (by omega) (by omega), digit_lt_digit_iff (by omega) (by omega),
    digit_eq_digit_iff (by omega) (by omega), digit_eq_digit_iff (by omega) (by omega),
    UInt8.lt_iff_toNat_lt, ← UInt8.toNat_inj]
  by_cases later : rest < rest'
  · simp only [later, and_true]
    omega
  · simp only [later, and_false, or_false]
    omega

/-- Digits are in the order of the bytes that they spell. -/
theorem ofBytes_lt_iff {as bs : List UInt8} (length : as.length = bs.length) :
    ofBytes as < ofBytes bs ↔ as < bs := by
  induction as generalizing bs with
  | nil =>
    cases bs with
    | nil => exact iff_of_false (List.lt_irrefl _) (List.lt_irrefl _)
    | cons b bs => cases length
  | cons a as ih =>
    cases bs with
    | nil => cases length
    | cons b bs =>
      rw [ofBytes, ofBytes, List.flatMap_cons, List.flatMap_cons, ofByte_append_lt_iff,
        List.cons_lt_cons_iff]
      exact or_congr_right (and_congr_right' (ih (Nat.succ.inj length)))

theorem mem_ofBytes {bs : List UInt8} {c : Char} (member : c ∈ ofBytes bs) :
    c ∈ "0123456789abcdef".toList := by
  have each : ∀ i : Fin 16, digit i ∈ "0123456789abcdef".toList := by decide
  obtain ⟨b, -, here⟩ := List.mem_flatMap.mp member
  have := b.toNat_lt
  rcases List.mem_cons.mp here with rfl | low
  · exact each ⟨b.toNat / 16, by omega⟩
  · rw [List.mem_singleton.mp low]
    exact each ⟨b.toNat % 16, by omega⟩

end Hex

namespace Utf8

/-- Characters that are one byte each are compared as their bytes are. -/
theorem flatMap_encode_lt_iff {cs ds : List Char} (ascii : ∀ c ∈ cs, c.toNat < 128)
    (ascii' : ∀ d ∈ ds, d.toNat < 128) :
    cs.flatMap String.utf8EncodeChar < ds.flatMap String.utf8EncodeChar ↔ cs < ds := by
  have single : ∀ c : Char, c.toNat < 128 → String.utf8EncodeChar c = [UInt8.ofNat c.toNat] := by
    intro c small
    have bound : ¬ 127 < c.toNat := by omega
    simp [String.utf8EncodeChar, bound]
  induction cs generalizing ds with
  | nil =>
    cases ds with
    | nil => exact iff_of_false (List.lt_irrefl _) (List.lt_irrefl _)
    | cons d ds =>
      rw [List.flatMap_cons, single d (ascii' d List.mem_cons_self)]
      exact iff_of_true (List.nil_lt_cons ..) (List.nil_lt_cons ..)
  | cons c cs ih =>
    cases ds with
    | nil => exact iff_of_false (List.not_lt_nil _) (List.not_lt_nil _)
    | cons d ds =>
      have small := ascii c List.mem_cons_self
      have small' := ascii' d List.mem_cons_self
      have rest : cs.flatMap String.utf8EncodeChar < ds.flatMap String.utf8EncodeChar ↔ cs < ds :=
        ih (fun c member => ascii c (List.mem_cons_of_mem _ member))
          fun d member => ascii' d (List.mem_cons_of_mem _ member)
      have first : UInt8.ofNat c.toNat < UInt8.ofNat d.toNat ↔ c < d := by
        rw [UInt8.lt_iff_toNat_lt, UInt8.toNat_ofNat', UInt8.toNat_ofNat', Nat.mod_eq_of_lt (by omega),
          Nat.mod_eq_of_lt (by omega)]
        exact Iff.rfl
      have same : UInt8.ofNat c.toNat = UInt8.ofNat d.toNat ↔ c = d := by
        rw [← UInt8.toNat_inj, UInt8.toNat_ofNat', UInt8.toNat_ofNat', Nat.mod_eq_of_lt (by omega),
          Nat.mod_eq_of_lt (by omega), Char.toNat_inj]
      rw [List.flatMap_cons, List.flatMap_cons, single c small, single d small', List.singleton_append,
        List.singleton_append, List.cons_lt_cons_iff, List.cons_lt_cons_iff, first, same, rest]

end Utf8

namespace Uuid

/-- Groups of digits are ordered as the digits are. -/
theorem group_lt_group_iff {ds es : List Char} (length : ds.length = 32) (length' : es.length = 32) :
    group ds < group es ↔ ds < es := by
  have part : ∀ n m, n + m ≤ 32 → ((ds.drop n).take m).length = ((es.drop n).take m).length := by
    simp [length, length']
  suffices group ds < group es ↔ ds.take 8 ++ _ < es.take 8 ++ _ by rwa [join_groups, join_groups] at this
  exact append_cons_lt_iff (part 0 8 (by decide)) '-' <| append_cons_lt_iff (part 8 4 (by decide)) '-' <|
    append_cons_lt_iff (part 12 4 (by decide)) '-' <| append_cons_lt_iff (part 16 4 (by decide)) '-' Iff.rfl

/-- Written forms are ordered as the UUIDs are. -/
theorem write_lt_write_iff {u v : Uuid} : u.write < v.write ↔ u < v := by
  have length : ∀ w : Uuid, (Hex.ofBytes w.bytes).length = 32 := fun w => by
    rw [Hex.length_ofBytes, w.length_bytes]
  rw [write, write, group_lt_group_iff (length u) (length v),
    Hex.ofBytes_lt_iff (u.length_bytes.trans v.length_bytes.symm)]
  exact Iff.rfl

theorem grouped_write (u : Uuid) : Grouped u u.write :=
  grouped_iff.mpr ⟨_, Hex.bytes?_eq_some_iff.mp (Hex.bytes?_ofBytes u.bytes), rfl⟩

/-- Written forms have lower-case digits and hyphens only. -/
theorem mem_write {u : Uuid} {c : Char} (member : c ∈ u.write) : c ∈ "0123456789abcdef-".toList := by
  have hex : ∀ c ∈ "0123456789abcdef".toList, c ∈ "0123456789abcdef-".toList := fun _ =>
    List.mem_append_left ['-']
  have part : ∀ n m, c ∈ ((Hex.ofBytes u.bytes).drop n).take m → c ∈ "0123456789abcdef-".toList :=
    fun n m member => hex c (Hex.mem_ofBytes (List.mem_of_mem_drop (List.mem_of_mem_take member)))
  have hyphen : '-' ∈ "0123456789abcdef-".toList := by decide
  simp only [write, group, List.mem_append, List.mem_cons] at member
  rcases member with here | rfl | here | rfl | here | rfl | here | rfl | here
  · exact part 0 8 here
  · exact hyphen
  · exact part 8 4 here
  · exact hyphen
  · exact part 12 4 here
  · exact hyphen
  · exact part 16 4 here
  · exact hyphen
  · exact hex c (Hex.mem_ofBytes (List.mem_of_mem_drop here))

theorem toNat_lt_of_mem_write {u : Uuid} {c : Char} (member : c ∈ u.write) : c.toNat < 128 := by
  have ascii : "0123456789abcdef-".toList.all (·.toNat < 128) = true := by decide
  exact of_decide_eq_true (List.all_eq_true.mp ascii c (mem_write member))

end Uuid

/-- What is written of identifiers of a sort and what of it is read, where every one stands for a UUID and
begins with the mark of the sort. -/
structure Spelling (mark : String) {ι : Type} [KeyOrder ι] (uuid : ι → Uuid) (parse : String → Except IdError ι)
    (print : ι → String) : Prop where
  /-- After the mark there stands a spelling of the UUID. -/
  accepted : ∀ s i, parse s = .ok i ↔ ∃ cs, s.toList = mark.toList ++ cs ∧ (uuid i).Spelled cs
  empty : ∀ s, parse s = .error .empty ↔ s = ""
  unmarked : ∀ s expected actual, parse s = .error (.missingPrefix expected actual) ↔
    s ≠ "" ∧ ¬ mark.toList <+: s.toList ∧ expected = mark ∧ actual = s
  invalid : ∀ s, parse s = .error .invalidUuid ↔
    s ≠ "" ∧ ∃ cs, s.toList = mark.toList ++ cs ∧ ∀ u : Uuid, ¬ u.Spelled cs
  /-- Written are the mark and the UUID in groups and in lower case. -/
  printed : ∀ i, ∃ cs, (print i).toList = mark.toList ++ cs ∧ (uuid i).Grouped cs ∧
    ∀ c ∈ cs, c ∈ "0123456789abcdef-".toList
  read_back : ∀ i, parse (print i) = .ok i
  /-- Texts of the same identifier are those of the same written form. -/
  canonical : ∀ s t i j, parse s = .ok i → parse t = .ok j → (i = j ↔ print i = print j)
  ordered : ∀ i j, i < j ↔ Utf8.bytes (print i) < Utf8.bytes (print j)

/-- A sort whose identifiers are their UUIDs behind a mark. -/
theorem Spelling.of_mark (mark : String) {ι : Type} [KeyOrder ι] {uuid : ι → Uuid} {make : Uuid → ι}
    (make_uuid : ∀ i, make (uuid i) = i) (uuid_make : ∀ u, uuid (make u) = u)
    (lt_iff : ∀ i j, i < j ↔ uuid i < uuid j) :
    Spelling mark uuid (fun s => (readMarked mark s).map make)
      (fun i => String.ofList (mark.toList ++ (uuid i).write)) := by
  have refused : ∀ s e, (readMarked mark s).map make = .error e ↔ readMarked mark s = .error e := by
    intro s e
    cases readMarked mark s <;> simp [Except.map]
  have read_back : ∀ i, (readMarked mark (String.ofList (mark.toList ++ (uuid i).write))).map make = .ok i := by
    intro i
    rw [readMarked_write]
    exact congrArg Except.ok (make_uuid i)
  refine ⟨?accepted, ?empty, ?unmarked, ?invalid, ?printed, read_back, ?canonical, ?ordered⟩
  case accepted =>
    intro s i
    rw [← readMarked_eq_ok_iff]
    cases readMarked mark s with
    | error e => exact iff_of_false nofun nofun
    | ok u =>
      constructor
      · intro read
        cases read
        rw [uuid_make]
      · intro read
        cases read
        exact congrArg Except.ok (make_uuid i)
  case empty => exact fun s => (refused s _).trans readMarked_eq_empty_iff
  case unmarked => exact fun s _ _ => (refused s _).trans readMarked_eq_missing_iff
  case invalid => exact fun s => (refused s _).trans readMarked_eq_invalid_iff
  case printed =>
    exact fun i => ⟨_, String.toList_ofList, (uuid i).grouped_write, fun _ => Uuid.mem_write⟩
  case canonical =>
    refine fun s t i j _ _ => ⟨fun same => same ▸ rfl, fun same => ?_⟩
    have read := read_back i
    rw [show String.ofList (mark.toList ++ (uuid i).write) = _ from same, read_back j] at read
    exact (Except.ok.inj read).symm
  case ordered =>
    intro i j
    rw [lt_iff, Utf8.bytes, Utf8.bytes, String.toList_ofList, String.toList_ofList, List.flatMap_append,
      List.flatMap_append, append_lt_append_iff rfl, Utf8.flatMap_encode_lt_iff
        (fun _ => Uuid.toNat_lt_of_mem_write) (fun _ => Uuid.toNat_lt_of_mem_write),
      Uuid.write_lt_write_iff]
    exact ⟨fun less => .inr ⟨rfl, less⟩, fun either => either.elim (absurd · (List.lt_irrefl _)) And.right⟩

/-- Identifiers of claims are bare UUIDs. Those of devices are marked in upper case, and in lower case as the
names of resources. -/
theorem identifier_spellings :
    Spelling "" ClaimUid.uuid ClaimUid.parse ClaimUid.text ∧
      Spelling "FAKE-" DeviceUuid.uuid DeviceUuid.parse DeviceUuid.text ∧
      Spelling "fake-" DeviceUuid.uuid DeviceUuid.ofResourceName DeviceUuid.resourceName :=
  ⟨.of_mark "" (fun _ => rfl) (fun _ => rfl) (fun _ _ => Iff.rfl),
    .of_mark "FAKE-" (fun _ => rfl) (fun _ => rfl) (fun _ _ => Iff.rfl),
    .of_mark "fake-" (fun _ => rfl) (fun _ => rfl) (fun _ _ => Iff.rfl)⟩

/-- Braces stand around groups only. -/
example : DeviceUuid.parse "FAKE-\x7b0b7f5a8e2c0d4e6f8a9b0c1d2e3f4a5b\x7d" = .error .invalidUuid := by
  rfl

end DeviceClaims
