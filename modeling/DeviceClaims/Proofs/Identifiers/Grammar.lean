import DeviceClaims.Proofs.Identifiers

namespace DeviceClaims

namespace Hex

/-- A character is the digit of a number, in lower or in upper case. -/
def IsDigit (c : Char) (n : Nat) : Prop :=
  "0123456789abcdef".toList[n]? = some c ∨ "0123456789ABCDEF".toList[n]? = some c

instance (c : Char) (n : Nat) : Decidable (IsDigit c n) := inferInstanceAs (Decidable (_ ∨ _))

/-- Characters spell bytes by two digits for each, the high half first. -/
inductive Spells : List Char → List UInt8 → Prop
  | nil : Spells [] []
  | cons {hi lo : Char} {h l : Nat} {b : UInt8} {cs : List Char} {bs : List UInt8} (high : IsDigit hi h)
      (low : IsDigit lo l) (joined : b.toNat = 16 * h + l) (rest : Spells cs bs) :
      Spells (hi :: lo :: cs) (b :: bs)

theorem IsDigit.lt_sixteen {c : Char} {n : Nat} (digit : IsDigit c n) : n < 16 := by
  rcases digit with found | found <;> exact (List.getElem?_eq_some_iff.mp found).1

theorem IsDigit.toNat_lt {c : Char} {n : Nat} (digit : IsDigit c n) : c.toNat < 128 := by
  have all : ("0123456789abcdef".toList ++ "0123456789ABCDEF".toList).all (·.toNat < 128) = true := by decide
  have ascii := fun member => of_decide_eq_true (List.all_eq_true.mp all c member)
  rcases digit with found | found
  · exact ascii (List.mem_append_left _ (List.mem_of_getElem? found))
  · exact ascii (List.mem_append_right _ (List.mem_of_getElem? found))

theorem value?_bounds {c : Char} {n : Nat} (read : value? c = some n) : c.toNat < 128 ∧ n < 16 := by
  unfold value? at read
  split at read
  · next range =>
    cases read
    have upper : c.toNat ≤ 57 := range.2
    omega
  · split at read
    · next range =>
      cases read
      have upper : c.toNat ≤ 102 := range.2
      omega
    · split at read
      · next range =>
        cases read
        have upper : c.toNat ≤ 70 := range.2
        omega
      · cases read

theorem value?_eq_some_iff {c : Char} {n : Nat} : value? c = some n ↔ IsDigit c n := by
  have each : ∀ i : Fin 128, ∀ n : Fin 16,
      value? (Char.ofNat i) = some n.val ↔ IsDigit (Char.ofNat i) n.val := by decide +kernel
  have known : ∀ small : c.toNat < 128 ∧ n < 16, value? c = some n ↔ IsDigit c n := by
    rintro ⟨ascii, small⟩
    have here := each ⟨c.toNat, ascii⟩ ⟨n, small⟩
    rwa [Char.ofNat_toNat] at here
  exact ⟨fun read => (known (value?_bounds read)).mp read,
    fun digit => (known ⟨digit.toNat_lt, digit.lt_sixteen⟩).mpr digit⟩

theorem bytes?_eq_some_iff {cs : List Char} {bs : List UInt8} : bytes? cs = some bs ↔ Spells cs bs := by
  constructor
  · intro read
    induction cs using bytes?.induct generalizing bs with
    | case1 =>
      cases read
      exact .nil
    | case2 => cases read
    | case3 hi lo rest ih =>
      simp only [bytes?, Option.bind_eq_bind, Option.bind_eq_some_iff] at read
      obtain ⟨h, high, l, low, bs', later, same⟩ := read
      cases same
      have := (value?_bounds high).2
      have := (value?_bounds low).2
      refine .cons (value?_eq_some_iff.mp high) (value?_eq_some_iff.mp low) ?_ (ih later)
      rw [UInt8.toNat_ofNat', Nat.mod_eq_of_lt (by omega)]
  · intro spells
    induction spells with
    | nil => rfl
    | cons high low joined _ ih =>
      have high := value?_eq_some_iff.mpr high
      have low := value?_eq_some_iff.mpr low
      simp only [bytes?, high, low, ih, Option.bind_eq_bind, Option.bind_some, Option.pure_def, ← joined,
        UInt8.ofNat_toNat]

theorem Spells.length_eq {cs : List Char} {bs : List UInt8} (spells : Spells cs bs) :
    cs.length = 2 * bs.length := length_of_bytes? (bytes?_eq_some_iff.mpr spells)

end Hex

namespace Uuid

/-- Digits that spell the bytes, in groups of 8, 4, 4, 4 and 12 with a hyphen between two of them. -/
inductive Grouped (u : Uuid) : List Char → Prop
  | intro {a b c d e : List Char} (first : a.length = 8) (second : b.length = 4) (third : c.length = 4)
      (fourth : d.length = 4) (last : e.length = 12)
      (spells : Hex.Spells (a ++ (b ++ (c ++ (d ++ e)))) u.bytes) :
      Grouped u (a ++ '-' :: (b ++ '-' :: (c ++ '-' :: (d ++ '-' :: e))))

/-- A text spells a UUID: in bare digits, in groups, in braces, or after urn:uuid: in any case. -/
inductive Spelled (u : Uuid) : List Char → Prop
  | bare {ds : List Char} (spells : Hex.Spells ds u.bytes) : Spelled u ds
  | grouped {cs : List Char} (grouped : Grouped u cs) : Spelled u cs
  | braced {cs : List Char} (grouped : Grouped u cs) : Spelled u ('\x7b' :: (cs ++ ['\x7d']))
  | urn {mark cs : List Char} (urn : mark.map Char.toLower = "urn:uuid:".toList)
      (grouped : Grouped u cs) : Spelled u (mark ++ cs)

variable {u : Uuid} {cs : List Char}

/-- Digits are grouped if and only if they are those of the bytes set in groups. -/
theorem grouped_iff : Grouped u cs ↔ ∃ ds, Hex.Spells ds u.bytes ∧ cs = group ds := by
  constructor
  · rintro ⟨first, second, third, fourth, last, spells⟩
    refine ⟨_, spells, ?_⟩
    have beyond : ∀ n (l : List Char), l.length ≤ n → l.drop n = [] := fun _ _ => List.drop_of_length_le
    simp [group, List.drop_append, first, second, third, fourth, beyond]
  · rintro ⟨ds, spells, rfl⟩
    have length : ds.length = 32 := by rw [spells.length_eq, u.length_bytes]
    rw [← join_groups ds] at spells
    exact .intro (by simp [length]) (by simp [length]) (by simp [length]) (by simp [length])
      (by simp [length]) spells

theorem grouped_of_ungroup? {ds : List Char} (ungrouped : ungroup? cs = some ds)
    (spells : Hex.Spells ds u.bytes) : Grouped u cs := by
  unfold ungroup? at ungrouped
  split at ungrouped
  · next places =>
    cases ungrouped
    obtain ⟨length, at8, at13, at18, at23⟩ := places
    have cut : ∀ n m : Nat, ∀ x, cs[n + m]? = some x →
        cs.drop n = (cs.drop n).take m ++ x :: cs.drop (n + m + 1) := by
      intro n m x found
      obtain ⟨within, rfl⟩ := List.getElem?_eq_some_iff.mp found
      rw [← List.drop_eq_getElem_cons within, ← List.drop_drop, List.take_append_drop]
    have whole : cs = cs.take 8 ++ '-' :: ((cs.drop 9).take 4 ++ '-' :: ((cs.drop 14).take 4 ++
        '-' :: ((cs.drop 19).take 4 ++ '-' :: cs.drop 24))) := by
      rw [← cut 19 4 '-' at23, ← cut 14 4 '-' at18, ← cut 9 4 '-' at13]
      exact cut 0 8 '-' at8
    rw [whole]
    exact .intro (by simp [length]) (by simp [length]) (by simp [length]) (by simp [length])
      (by simp [length]) spells
  · cases ungrouped

theorem Grouped.length_eq (grouped : Grouped u cs) : cs.length = 36 := by
  obtain ⟨first, second, third, fourth, last, -⟩ := grouped
  simp [first, second, third, fourth, last]

theorem Grouped.read?_eq (grouped : Grouped u cs) {text : List Char} (wrapped : body text = cs)
    (long : 32 < text.length) : read? text = some u := by
  obtain ⟨ds, spells, rfl⟩ := grouped_iff.mp grouped
  have length : ds.length = 32 := by rw [spells.length_eq, u.length_bytes]
  rw [Uuid.read?, digits?, if_neg (by omega), wrapped, ungroup?_group length, Option.bind_some,
    Hex.bytes?_eq_some_iff.mpr spells, Option.bind_some, ofBytes?, dif_pos u.length_bytes]

/-- What is in a body that can be read is wrapped in one of the three ways. -/
theorem spelled_of_body (grouped : Grouped u (body cs)) : Spelled u cs := by
  unfold body at grouped
  split at grouped
  · next braces =>
    obtain ⟨length, first, last⟩ := braces
    cases cs with
    | nil => cases first
    | cons c cs =>
      cases first
      obtain ⟨inside, rfl⟩ : ∃ inside, cs = inside ++ ['\x7d'] := by
        rcases List.eq_nil_or_concat cs with rfl | ⟨inside, x, rfl⟩
        · cases length
        · refine ⟨inside, ?_⟩
          rw [List.concat_eq_append] at last ⊢
          rw [← List.cons_append, List.getLast?_concat] at last
          rw [Option.some.inj last]
      have inside36 : inside.length = 36 := by simpa using length
      rw [List.drop_one, List.tail_cons, List.take_append_of_le_length (by omega),
        List.take_of_length_le (by omega)] at grouped
      exact .braced grouped
  · split at grouped
    · next urn =>
      rw [← List.take_append_drop 9 cs]
      exact .urn urn grouped
    · exact .grouped grouped

/-- A UUID is read of a text if and only if the text is one of its four spellings. -/
theorem read?_eq_some_iff : read? cs = some u ↔ Spelled u cs := by
  constructor
  · intro read
    obtain ⟨bs, spells, given⟩ := Option.bind_eq_some_iff.mp read
    obtain ⟨ds, digits, spells⟩ := Option.bind_eq_some_iff.mp spells
    have same : bs = u.bytes := by
      unfold ofBytes? at given
      split at given
      · cases given
        rfl
      · cases given
    have spells := Hex.bytes?_eq_some_iff.mp (same ▸ spells)
    unfold digits? at digits
    split at digits
    · cases digits
      exact .bare spells
    · exact spelled_of_body (grouped_of_ungroup? digits spells)
  · rintro (spells | grouped | grouped | ⟨urn, grouped⟩)
    · have length : cs.length = 32 := by rw [spells.length_eq, u.length_bytes]
      rw [Uuid.read?, digits?, if_pos length, Option.bind_some, Hex.bytes?_eq_some_iff.mpr spells,
        Option.bind_some, ofBytes?, dif_pos u.length_bytes]
    · refine grouped.read?_eq ?_ (by rw [grouped.length_eq]; decide)
      obtain ⟨ds, spells, rfl⟩ := grouped_iff.mp grouped
      exact body_group (by rw [spells.length_eq, u.length_bytes])
    · next inside =>
      have length := grouped.length_eq
      refine grouped.read?_eq ?_ (by simp [length])
      have closed : ('\x7b' :: (inside ++ ['\x7d'])).getLast? = some '\x7d' := by
        rw [← List.cons_append, List.getLast?_concat]
      rw [body, if_pos ⟨by simp [length], rfl, closed⟩, List.drop_one, List.tail_cons,
        List.take_append_of_le_length (by omega), List.take_of_length_le (by omega)]
    · next mark inside =>
      have length := grouped.length_eq
      have nine : mark.length = 9 := by
        have same := congrArg List.length urn
        rwa [List.length_map] at same
      have lower : mark.map Char.toLower = ['u', 'r', 'n', ':', 'u', 'u', 'i', 'd', ':'] := urn
      have long : (mark ++ inside).length = 45 := by rw [List.length_append, nine, length]
      refine grouped.read?_eq ?_ (by omega)
      rw [body, if_neg (by omega), List.take_append_of_le_length (by omega),
        List.take_of_length_le (by omega), if_pos lower, List.drop_append_of_le_length (by omega),
        List.drop_of_length_le (by omega), List.nil_append]

theorem Spelled.ne_nil (spelled : Spelled u cs) : cs ≠ [] := by
  rintro rfl
  cases (read?_eq_some_iff.mpr spelled)

end Uuid

theorem stripMark?_eq_some_iff {mark cs rest : List Char} :
    stripMark? mark cs = some rest ↔ cs = mark ++ rest := by
  induction mark generalizing cs with
  | nil => exact ⟨fun same => (Option.some.inj same), fun same => congrArg some same⟩
  | cons m mark ih =>
    cases cs with
    | nil => simp [stripMark?]
    | cons c cs =>
      rw [stripMark?, List.cons_append, List.cons.injEq]
      split
      · next same => exact ih.trans ⟨fun rest => ⟨same.symm, rest⟩, And.right⟩
      · next apart => simp [Ne.symm apart]

/-- What reading a text comes to that has to begin with a mark. -/
inductive MarkedReading (mark s : String) : Except IdError Uuid → Prop
  | empty (nothing : s = "") : MarkedReading mark s (.error .empty)
  | unmarked (filled : s ≠ "") (without : ¬ mark.toList <+: s.toList) :
      MarkedReading mark s (.error (.missingPrefix mark s))
  | invalid {cs : List Char} (filled : s ≠ "") (text : s.toList = mark.toList ++ cs)
      (unspelled : ∀ u : Uuid, ¬ u.Spelled cs) : MarkedReading mark s (.error .invalidUuid)
  | spelled {cs : List Char} {u : Uuid} (text : s.toList = mark.toList ++ cs) (spelled : u.Spelled cs) :
      MarkedReading mark s (.ok u)

section

variable {mark s : String} {u : Uuid}

/-- Reading after a mark comes to one of four ends, by what the text is. -/
theorem markedReading_readMarked (mark s : String) : MarkedReading mark s (readMarked mark s) := by
  unfold readMarked
  split
  · next nothing => exact .empty (String.toList_eq_nil_iff.mp nothing)
  · next filled =>
    have filled : s ≠ "" := fun nothing => filled (String.toList_eq_nil_iff.mpr nothing)
    split
    · next unmarked =>
      refine .unmarked filled fun ⟨cs, begins⟩ => ?_
      cases unmarked.symm.trans (stripMark?_eq_some_iff.mpr begins.symm)
    · next cs stripped =>
      have text := stripMark?_eq_some_iff.mp stripped
      split
      · next unread =>
        refine .invalid filled text fun u spelled => ?_
        cases unread.symm.trans (Uuid.read?_eq_some_iff.mpr spelled)
      · next found => exact .spelled text (Uuid.read?_eq_some_iff.mp found)

/-- A text has one reading. -/
theorem readMarked_eq_iff {r : Except IdError Uuid} : readMarked mark s = r ↔ MarkedReading mark s r := by
  constructor
  · rintro rfl
    exact markedReading_readMarked mark s
  · intro reading
    cases reading with
    | empty nothing => rw [readMarked, if_pos (String.toList_eq_nil_iff.mpr nothing)]
    | unmarked filled without =>
      rw [readMarked, if_neg (mt String.toList_eq_nil_iff.mp filled)]
      split
      · rfl
      · next cs stripped => exact absurd ⟨cs, (stripMark?_eq_some_iff.mp stripped).symm⟩ without
    | invalid filled text unspelled =>
      rw [readMarked, if_neg (mt String.toList_eq_nil_iff.mp filled), text, stripMark?_append]
      dsimp only
      split
      · rfl
      · next u found => exact absurd (Uuid.read?_eq_some_iff.mp found) (unspelled u)
    | spelled text spelled =>
      have filled : s.toList ≠ [] := by
        rw [text]
        exact fun nothing => spelled.ne_nil (List.append_eq_nil_iff.mp nothing).2
      rw [readMarked, if_neg filled, text, stripMark?_append]
      simp only [Uuid.read?_eq_some_iff.mpr spelled]

/-- A UUID is read after a mark if and only if the text is the mark and a spelling. -/
theorem readMarked_eq_ok_iff :
    readMarked mark s = .ok u ↔ ∃ cs, s.toList = mark.toList ++ cs ∧ u.Spelled cs := by
  rw [readMarked_eq_iff]
  constructor
  · intro reading
    cases reading with
    | spelled text spelled => exact ⟨_, text, spelled⟩
  · rintro ⟨cs, text, spelled⟩
    exact .spelled text spelled

theorem readMarked_eq_empty_iff : readMarked mark s = .error .empty ↔ s = "" := by
  rw [readMarked_eq_iff]
  constructor
  · intro reading
    cases reading with
    | empty nothing => exact nothing
  · exact .empty

/-- A mark is reported missing if and only if a text that is not empty does not begin with it. -/
theorem readMarked_eq_missing_iff {expected actual : String} :
    readMarked mark s = .error (.missingPrefix expected actual) ↔
      s ≠ "" ∧ ¬ mark.toList <+: s.toList ∧ expected = mark ∧ actual = s := by
  rw [readMarked_eq_iff]
  constructor
  · intro reading
    cases reading with
    | unmarked filled without => exact ⟨filled, without, rfl, rfl⟩
  · rintro ⟨filled, without, rfl, rfl⟩
    exact .unmarked filled without

/-- A UUID is reported invalid if and only if what follows the mark is no spelling. -/
theorem readMarked_eq_invalid_iff :
    readMarked mark s = .error .invalidUuid ↔
      s ≠ "" ∧ ∃ cs, s.toList = mark.toList ++ cs ∧ ∀ u : Uuid, ¬ u.Spelled cs := by
  rw [readMarked_eq_iff]
  constructor
  · intro reading
    cases reading with
    | invalid filled text unspelled => exact ⟨filled, _, text, unspelled⟩
  · rintro ⟨filled, cs, text, unspelled⟩
    exact .invalid filled text unspelled

end

end DeviceClaims
