import DeviceClaims.Proofs.Json.Decoding

namespace DeviceClaims

namespace Json

mutual

/-- In normal form, only numbers with a fraction or exponent keep a value from being plain. -/
theorem isPlain_of_floatFree : ∀ (j : Json), j.isNormal = true → j.floatFree = true → j.isPlain = true
  | .null, _, _ => rfl
  | .bool _, _, _ => rfl
  | .int _, normal, _ => normal
  | .float _, _, free => nomatch free
  | .str _, _, _ => rfl
  | .arr items, normal, free => arePlain_of_floatFree items normal free
  | .obj members, normal, free => havePlain_of_floatFree members (Bool.and_eq_true_iff.mp normal).2 free

theorem arePlain_of_floatFree : ∀ (items : List Json), areNormal items = true →
    areFloatFree items = true → arePlain items = true
  | [], _, _ => rfl
  | j :: items, normal, free => by
    obtain ⟨first, others⟩ := Bool.and_eq_true_iff.mp normal
    obtain ⟨firstFree, othersFree⟩ := Bool.and_eq_true_iff.mp free
    rw [arePlain, isPlain_of_floatFree j first firstFree, arePlain_of_floatFree items others othersFree]
    rfl

theorem havePlain_of_floatFree : ∀ (members : List (String × Json)), haveNormal members = true →
    haveFloatFree members = true → havePlain members = true
  | [], _, _ => rfl
  | (_, j) :: members, normal, free => by
    obtain ⟨first, others⟩ := Bool.and_eq_true_iff.mp normal
    obtain ⟨firstFree, othersFree⟩ := Bool.and_eq_true_iff.mp free
    rw [havePlain, isPlain_of_floatFree j first firstFree,
      havePlain_of_floatFree members others othersFree]
    rfl

end

namespace Reading

mutual

/-- A plain value in normal form is read as itself. -/
theorem freeForm?_normal : ∀ (j : Json) {depth : Nat} (normal : j.isNormal = true), j.isPlain = true →
    j.height ≤ depth → freeForm? depth (ofJson j) = some ⟨j, normal⟩
  | .null, _, _, _, _ => by simp [ofJson, freeForm?, isNormal]
  | .bool _, _, _, _, _ => by simp [ofJson, freeForm?, isNormal]
  | .int _, _, normal, _, _ => by simp [ofJson, freeForm?, normal]
  | .float _, _, _, plain, _ => nomatch plain
  | .str _, _, _, _, _ => by simp [ofJson, freeForm?]
  | .arr items, depth, normal, plain, shallow => by
    rw [height] at shallow
    have room : ¬ (depth = 0 ∨ true = false) := by simp; omega
    have read := freeItems?_normal items normal plain (Nat.le_sub_one_of_lt shallow)
    rw [ofJson, freeForm?, if_neg room, read]
    rfl
  | .obj members, depth, normal, plain, shallow => by
    rw [height] at shallow
    have room : ¬ (depth = 0 ∨ true = false) := by simp; omega
    obtain ⟨sorted, have_normal⟩ := Bool.and_eq_true_iff.mp normal
    obtain ⟨m, read, same⟩ := freeMembers?_normal members have_normal plain
      (Nat.le_sub_one_of_lt shallow) ⟨.empty, by simp [SortedMap.empty]⟩
    -- The members are in order, so to store one after the other leaves them as they are.
    have entries : m.1.entries = members := by
      rw [same, ← SortedMap.ofList_eq_foldl, SortedMap.ofList_sorted ((ascending_iff members).1 sorted)]
    rw [ofJson, freeForm?, if_neg room, read, Option.map_some]
    simp only [entries]

theorem freeItems?_normal : ∀ (items : List Json) {depth : Nat} (normal : areNormal items = true),
    arePlain items = true → heightItems items ≤ depth →
    freeItems? depth (ofItems items) = some ⟨items, normal⟩
  | [], _, _, _, _ => rfl
  | j :: items, depth, normal, plain, shallow => by
    obtain ⟨first, others⟩ := Bool.and_eq_true_iff.mp normal
    obtain ⟨firstPlain, othersPlain⟩ := Bool.and_eq_true_iff.mp plain
    rw [heightItems, Nat.max_le] at shallow
    simp only [ofItems, freeItems?, freeForm?_normal j first firstPlain shallow.1,
      freeItems?_normal items others othersPlain shallow.2, Option.map_some]

/-- The members of an object of free form are read as they were written, in ascending order of their
names. -/
theorem freeMembers?_normal : ∀ (members : List (String × Json)) {depth : Nat},
    haveNormal members = true → havePlain members = true → heightMembers members ≤ depth →
    ∀ done, ∃ m, freeMembers? depth (ofMembers members) done = some m ∧
      m.1 = members.foldl (fun m e => m.insert e.1 e.2) done.1
  | [], _, _, _, _, done => ⟨done, rfl, rfl⟩
  | (k, j) :: members, depth, normal, plain, shallow, done => by
    obtain ⟨first, others⟩ := Bool.and_eq_true_iff.mp normal
    obtain ⟨firstPlain, othersPlain⟩ := Bool.and_eq_true_iff.mp plain
    rw [heightMembers, Nat.max_le] at shallow
    simp only [ofMembers, freeMembers?, freeForm?_normal j first firstPlain shallow.1]
    exact freeMembers?_normal members others othersPlain shallow.2 _

end

end Reading

end Json

/-- A value of free form is read as it was written if it has no fractions and is not
nested too deeply. -/
theorem Json.Decoder.reads_freeForm {v : FreeForm} {levels : Nat} (free : v.json.floatFree = true)
    (shallow : v.json.height ≤ levels) : freeForm.Reads v.json v levels where
  plain := isPlain_of_floatFree v.json v.normal free
  height_le := shallow
  result := by
    intro p room
    have plain := isPlain_of_floatFree v.json v.normal free
    rw [freeForm, Reading.freeForm?_normal v.json v.normal plain (by omega)]

/-- The text of a value of free form is read as that value. -/
theorem FreeForm.run_text {v : FreeForm} (free : v.json.floatFree = true)
    (shallow : v.json.height ≤ Json.maxDepth) : Json.Decoder.freeForm.run v.json.text = .ok v :=
  (Json.Decoder.reads_freeForm free shallow).run_eq_ok (Nat.le_refl _)

end DeviceClaims
