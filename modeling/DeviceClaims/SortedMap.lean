import DeviceClaims.Instances

namespace DeviceClaims

/-- The order of keys: a decidable strict linear order. -/
class KeyOrder (κ : Type) extends LT κ where
  decEq : DecidableEq κ
  decLt : (a b : κ) → Decidable (a < b)
  lt_irrefl : ∀ a : κ, ¬ a < a
  lt_trans : ∀ {a b c : κ}, a < b → b < c → a < c
  lt_or_eq_or_gt : ∀ a b : κ, a < b ∨ a = b ∨ b < a

namespace KeyOrder

instance (priority := low) (κ : Type) [KeyOrder κ] : DecidableEq κ := KeyOrder.decEq
instance (priority := low) (κ : Type) [KeyOrder κ] (a b : κ) : Decidable (a < b) := KeyOrder.decLt a b

theorem ne_of_lt {κ : Type} [KeyOrder κ] {a b : κ} (h : a < b) : a ≠ b :=
  fun e => lt_irrefl b (e ▸ h)

theorem not_lt_of_lt {κ : Type} [KeyOrder κ] {a b : κ} (h : a < b) : ¬ b < a :=
  fun g => lt_irrefl a (lt_trans h g)

@[reducible] def ofCode {κ γ : Type} [KeyOrder γ] (code : κ → γ) (inj : ∀ {a b}, code a = code b → a = b) :
    KeyOrder κ where
  lt a b := code a < code b
  decEq a b := if h : code a = code b then .isTrue (inj h) else .isFalse fun e => h (e ▸ rfl)
  decLt a b := inferInstanceAs (Decidable (code a < code b))
  lt_irrefl a := lt_irrefl (code a)
  lt_trans := lt_trans (κ := γ)
  lt_or_eq_or_gt a b := (lt_or_eq_or_gt (code a) (code b)).imp_right (Or.imp_left inj)

/-- Strings are ordered by their characters, which is the order of their encoded bytes. -/
instance : KeyOrder String where
  lt a b := a < b
  decEq := inferInstance
  decLt a b := inferInstanceAs (Decidable (a < b))
  lt_irrefl := String.lt_irrefl
  lt_trans := String.lt_trans
  lt_or_eq_or_gt a b := by
    rcases Std.Trichotomous.rel_or_eq_or_rel_swap (r := (· < · : String → String → Prop))
      (a := a) (b := b) with h | h | h <;> simp [h]

/-- Lists compared element by element, a proper beginning first. -/
instance {κ : Type} [LT κ] [DecidableEq κ] [DecidableLT κ] [LE κ] [Std.LawfulOrderLT κ]
    [Std.IsLinearOrder κ] : KeyOrder (List κ) where
  lt a b := a < b
  decEq := inferInstance
  decLt a b := inferInstanceAs (Decidable (a < b))
  lt_irrefl := List.lt_irrefl
  lt_trans := List.lt_trans
  lt_or_eq_or_gt a b := by
    rcases Std.Trichotomous.rel_or_eq_or_rel_swap (r := (· < · : List κ → List κ → Prop))
      (a := a) (b := b) with h | h | h <;> simp [h]

def ascending {κ : Type} [KeyOrder κ] (ks : List κ) : List κ :=
  ks.mergeSort fun a b => decide (¬ b < a)

end KeyOrder

/-- A finite map whose entries are listed in strictly ascending key order. Two maps with the same
look-ups are equal, so equality of maps is equality of contents. -/
structure SortedMap (κ α : Type) [KeyOrder κ] where
  entries : List (κ × α)
  sorted : entries.Pairwise (fun a b => a.1 < b.1)
  deriving DecidableEq

namespace SortedMap

variable {κ α β : Type} [KeyOrder κ]

/-- The value of the first entry with the key. -/
def lookup (k : κ) : List (κ × α) → Option α
  | [] => none
  | (k', v) :: rest => if k' = k then some v else lookup k rest

/-- Puts an entry at its place, replacing one with the same key. -/
def insertEntry (k : κ) (v : α) : List (κ × α) → List (κ × α)
  | [] => [(k, v)]
  | (k', v') :: rest =>
    if k < k' then (k, v) :: (k', v') :: rest
    else if k' < k then (k', v') :: insertEntry k v rest
    else (k, v) :: rest

theorem mem_insertEntry {k : κ} {v : α} {e : κ × α} {l : List (κ × α)}
    (h : e ∈ insertEntry k v l) : e = (k, v) ∨ e ∈ l := by
  induction l with
  | nil => simpa [insertEntry] using h
  | cons hd tl ih =>
    obtain ⟨k', v'⟩ := hd
    rw [insertEntry] at h
    split at h
    · simpa using h
    · split at h
      · rcases List.mem_cons.1 h with rfl | h
        · simp
        · rcases ih h with h | h <;> simp [h]
      · rcases List.mem_cons.1 h with rfl | h <;> simp [*]

theorem sorted_insertEntry (k : κ) (v : α) {l : List (κ × α)}
    (h : l.Pairwise (fun a b => a.1 < b.1)) :
    (insertEntry k v l).Pairwise (fun a b => a.1 < b.1) := by
  induction l with
  | nil => simp [insertEntry]
  | cons hd tl ih =>
    obtain ⟨k', v'⟩ := hd
    obtain ⟨above, rest⟩ := List.pairwise_cons.1 h
    rw [insertEntry]
    split
    · next lt =>
      refine List.pairwise_cons.2 ⟨fun e he => ?_, h⟩
      rcases List.mem_cons.1 he with rfl | he
      · exact lt
      · exact KeyOrder.lt_trans lt (above e he)
    · next ge =>
      split
      · next lt =>
        refine List.pairwise_cons.2 ⟨fun e he => ?_, ih rest⟩
        rcases mem_insertEntry he with rfl | he
        · exact lt
        · exact above e he
      · next le =>
        have : k = k' := by
          rcases KeyOrder.lt_or_eq_or_gt k k' with h | h | h
          · exact absurd h ge
          · exact h
          · exact absurd h le
        subst this
        exact List.pairwise_cons.2 ⟨above, rest⟩

/-- Puts an entry among sorted entries, and with `merge` those that follow it. -/
def mergeFrom (k : κ) (v : α) (l : List (κ × α)) (merge : List (κ × α) → List (κ × α)) :
    List (κ × α) → List (κ × α)
  | [] => (k, v) :: l
  | (k', v') :: r =>
    if k < k' then (k, v) :: merge ((k', v') :: r)
    else if k' < k then (k', v') :: mergeFrom k v l merge r
    else (k', v') :: merge r

/-- Puts sorted entries together. Of two with the same key the right one stays. -/
def mergeEntries : List (κ × α) → List (κ × α) → List (κ × α)
  | [], r => r
  | (k, v) :: l, r => mergeFrom k v l (mergeEntries l) r

theorem mem_mergeEntries {e : κ × α} {l r : List (κ × α)} (h : e ∈ mergeEntries l r) :
    e ∈ l ∨ e ∈ r := by
  induction l generalizing r with
  | nil => exact .inr h
  | cons hd l ihl =>
    obtain ⟨k, v⟩ := hd
    rw [mergeEntries] at h
    induction r with
    | nil => exact .inl h
    | cons hd' r ihr =>
      obtain ⟨k', v'⟩ := hd'
      rw [mergeFrom] at h
      split at h
      · rcases List.mem_cons.1 h with rfl | h
        · simp
        · rcases ihl h with h | h <;> simp [h]
      · split at h
        · rcases List.mem_cons.1 h with rfl | h
          · simp
          · rcases ihr h with h | h
            · exact .inl h
            · simp [h]
        · rcases List.mem_cons.1 h with rfl | h
          · simp
          · rcases ihl h with h | h <;> simp [h]

theorem sorted_mergeEntries {l r : List (κ × α)} (sl : l.Pairwise (fun a b => a.1 < b.1))
    (sr : r.Pairwise (fun a b => a.1 < b.1)) :
    (mergeEntries l r).Pairwise (fun a b => a.1 < b.1) := by
  induction l generalizing r with
  | nil => exact sr
  | cons hd l ihl =>
    obtain ⟨k, v⟩ := hd
    obtain ⟨above, rest⟩ := List.pairwise_cons.1 sl
    rw [mergeEntries]
    induction r with
    | nil => exact sl
    | cons hd' r ihr =>
      obtain ⟨k', v'⟩ := hd'
      obtain ⟨above', rest'⟩ := List.pairwise_cons.1 sr
      rw [mergeFrom]
      split
      · next lt =>
        refine List.pairwise_cons.2 ⟨fun e he => ?_, ihl rest sr⟩
        rcases mem_mergeEntries he with he | he
        · exact above e he
        · rcases List.mem_cons.1 he with rfl | he
          · exact lt
          · exact KeyOrder.lt_trans lt (above' e he)
      · next ge =>
        split
        · next lt =>
          refine List.pairwise_cons.2 ⟨fun e he => ?_, ihr rest'⟩
          rcases mem_mergeEntries (l := (k, v) :: l) he with he | he
          · rcases List.mem_cons.1 he with rfl | he
            · exact lt
            · exact KeyOrder.lt_trans lt (above e he)
          · exact above' e he
        · next le =>
          have same : k = k' := by
            rcases KeyOrder.lt_or_eq_or_gt k k' with h | h | h
            · exact absurd h ge
            · exact h
            · exact absurd h le
          subst same
          refine List.pairwise_cons.2 ⟨fun e he => ?_, ihl rest rest'⟩
          rcases mem_mergeEntries he with he | he
          · exact above e he
          · exact above' e he

def empty : SortedMap κ α := ⟨[], .nil⟩

instance : EmptyCollection (SortedMap κ α) := ⟨empty⟩
instance : Inhabited (SortedMap κ α) := ⟨empty⟩

def get? (m : SortedMap κ α) (k : κ) : Option α := lookup k m.entries

def contains (m : SortedMap κ α) (k : κ) : Bool := (m.get? k).isSome

/-- Stores a value for a key, replacing the one there. -/
def insert (m : SortedMap κ α) (k : κ) (v : α) : SortedMap κ α :=
  ⟨insertEntry k v m.entries, sorted_insertEntry k v m.sorted⟩

def erase (m : SortedMap κ α) (k : κ) : SortedMap κ α :=
  ⟨m.entries.filter (fun e => e.1 ≠ k), m.sorted.filter _⟩

/-- Both maps together. For a key that both have, the right value counts. -/
def union (m m' : SortedMap κ α) : SortedMap κ α :=
  ⟨mergeEntries m.entries m'.entries, sorted_mergeEntries m.sorted m'.sorted⟩

/-- Unites every map with its neighbour. -/
def unitePairs : List (SortedMap κ α) → List (SortedMap κ α)
  | m :: m' :: rest => m.union m' :: unitePairs rest
  | ms => ms

/-- Unites maps, so many times in pairs and then those that are left one by one. -/
def uniteAll : Nat → List (SortedMap κ α) → SortedMap κ α
  | 0, ms => ms.foldl union empty
  | n + 1, ms => uniteAll n (unitePairs ms)

def single (k : κ) (v : α) : SortedMap κ α := ⟨[(k, v)], List.pairwise_singleton ..⟩

/-- The map of a list of entries, of two with the same key the later. -/
def ofList (l : List (κ × α)) : SortedMap κ α :=
  uniteAll l.length (l.map fun e => single e.1 e.2)

def keys (m : SortedMap κ α) : List κ := m.entries.map (·.1)

def values (m : SortedMap κ α) : List α := m.entries.map (·.2)

def size (m : SortedMap κ α) : Nat := m.entries.length

def isEmpty (m : SortedMap κ α) : Bool := m.entries.isEmpty

def mapValues (f : α → β) (m : SortedMap κ α) : SortedMap κ β :=
  ⟨m.entries.map (fun e => (e.1, f e.2)), by
    rw [List.pairwise_map]
    exact m.sorted⟩

theorem lookup_insertEntry_self (k : κ) (v : α) (l : List (κ × α)) :
    lookup k (insertEntry k v l) = some v := by
  induction l with
  | nil => simp [insertEntry, lookup]
  | cons hd tl ih =>
    obtain ⟨k', v'⟩ := hd
    rw [insertEntry]
    split
    · simp [lookup]
    · split
      · next lt => simp [lookup, KeyOrder.ne_of_lt lt, ih]
      · simp [lookup]

theorem lookup_insertEntry_ne {k k' : κ} (ne : k ≠ k') (v : α) (l : List (κ × α)) :
    lookup k' (insertEntry k v l) = lookup k' l := by
  induction l with
  | nil => simp [insertEntry, lookup, ne]
  | cons hd tl ih =>
    obtain ⟨k'', v''⟩ := hd
    rw [insertEntry]
    split
    · simp [lookup, ne]
    · next ge =>
      split
      · simp [lookup, ih]
      · next le =>
        have : k = k'' := by
          rcases KeyOrder.lt_or_eq_or_gt k k'' with h | h | h
          · exact absurd h ge
          · exact h
          · exact absurd h le
        subst this
        simp [lookup, ne]

theorem lookup_eq_none {k : κ} {l : List (κ × α)} (h : ∀ e ∈ l, k < e.1) : lookup k l = none := by
  induction l with
  | nil => rfl
  | cons hd l ih =>
    have := KeyOrder.ne_of_lt (h hd (by simp))
    simp [lookup, this.symm, ih fun e he => h e (by simp [he])]

theorem lookup_mergeEntries {l r : List (κ × α)} (sl : l.Pairwise (fun a b => a.1 < b.1))
    (sr : r.Pairwise (fun a b => a.1 < b.1)) (x : κ) :
    lookup x (mergeEntries l r) = (lookup x r).or (lookup x l) := by
  induction l generalizing r with
  | nil => simp [mergeEntries, lookup]
  | cons hd l ihl =>
    obtain ⟨k, v⟩ := hd
    obtain ⟨above, rest⟩ := List.pairwise_cons.1 sl
    rw [mergeEntries]
    induction r with
    | nil => simp [mergeFrom, lookup]
    | cons hd' r ihr =>
      obtain ⟨k', v'⟩ := hd'
      obtain ⟨above', rest'⟩ := List.pairwise_cons.1 sr
      rw [mergeFrom]
      split
      · next lt =>
        rw [lookup, ihl rest sr]
        split
        · next e =>
          subst e
          rw [lookup_eq_none (l := (k', v') :: r)]
          · simp [lookup]
          · intro e he
            rcases List.mem_cons.1 he with rfl | he
            · exact lt
            · exact KeyOrder.lt_trans lt (above' e he)
        · next ne => simp [lookup, ne]
      · next ge =>
        split
        · rw [lookup, ihr rest']
          by_cases e : k' = x <;> simp [lookup, e]
        · next le =>
          have same : k = k' := by
            rcases KeyOrder.lt_or_eq_or_gt k k' with h | h | h
            · exact absurd h ge
            · exact h
            · exact absurd h le
          subst same
          rw [lookup, ihl rest rest']
          by_cases e : k = x <;> simp [lookup, e]

@[simp] theorem get?_empty (k : κ) : (empty : SortedMap κ α).get? k = none := rfl

@[simp] theorem get?_insert_self (m : SortedMap κ α) (k : κ) (v : α) :
    (m.insert k v).get? k = some v := lookup_insertEntry_self k v m.entries

theorem get?_insert_ne (m : SortedMap κ α) {k k' : κ} (ne : k ≠ k') (v : α) :
    (m.insert k v).get? k' = m.get? k' := lookup_insertEntry_ne ne v m.entries

theorem get?_insert (m : SortedMap κ α) (k k' : κ) (v : α) :
    (m.insert k v).get? k' = if k = k' then some v else m.get? k' := by
  by_cases h : k = k'
  · subst h; simp
  · simp [h, get?_insert_ne]

theorem get?_union (m m' : SortedMap κ α) (k : κ) :
    (m.union m').get? k = (m'.get? k).or (m.get? k) := lookup_mergeEntries m.sorted m'.sorted k

theorem lookup_filter_ne (k k' : κ) (l : List (κ × α)) :
    lookup k' (l.filter (fun e => e.1 ≠ k)) = if k = k' then none else lookup k' l := by
  induction l with
  | nil => simp [lookup]
  | cons hd tl ih =>
    obtain ⟨k'', v⟩ := hd
    by_cases h : k'' = k
    · subst h
      by_cases h' : k'' = k' <;> simp_all [lookup]
    · by_cases h' : k'' = k'
      · subst h'
        simp [lookup, h, Ne.symm h]
      · simp only [List.filter_cons, h, ne_eq, not_false_eq_true, decide_true, if_true, lookup, h',
          if_false]
        exact ih

theorem get?_erase (m : SortedMap κ α) (k k' : κ) :
    (m.erase k).get? k' = if k = k' then none else m.get? k' := lookup_filter_ne k k' m.entries

@[simp] theorem get?_erase_self (m : SortedMap κ α) (k : κ) : (m.erase k).get? k = none := by
  simp [get?_erase]

theorem get?_erase_ne (m : SortedMap κ α) {k k' : κ} (ne : k ≠ k') :
    (m.erase k).get? k' = m.get? k' := by
  simp [get?_erase, ne]

theorem mem_of_lookup {k : κ} {v : α} {l : List (κ × α)} (h : lookup k l = some v) :
    (k, v) ∈ l := by
  induction l with
  | nil => simp [lookup] at h
  | cons hd tl ih =>
    obtain ⟨k', v'⟩ := hd
    rw [lookup] at h
    split at h
    · next e => cases h; subst e; simp
    · exact List.mem_cons_of_mem _ (ih h)

theorem lookup_of_mem {k : κ} {v : α} {l : List (κ × α)}
    (sorted : l.Pairwise (fun a b => a.1 < b.1)) (h : (k, v) ∈ l) : lookup k l = some v := by
  induction l with
  | nil => simp at h
  | cons hd tl ih =>
    obtain ⟨k', v'⟩ := hd
    obtain ⟨above, rest⟩ := List.pairwise_cons.1 sorted
    rcases List.mem_cons.1 h with e | h
    · cases e; simp [lookup]
    · simp [lookup, KeyOrder.ne_of_lt (above _ h), ih rest h]

/-- The entries are exactly the look-ups that succeed. -/
theorem mem_entries_iff {m : SortedMap κ α} {k : κ} {v : α} :
    (k, v) ∈ m.entries ↔ m.get? k = some v :=
  ⟨lookup_of_mem m.sorted, mem_of_lookup⟩

theorem eq_of_key {m : SortedMap κ α} {e e' : κ × α} (first : e ∈ m.entries) (last : e' ∈ m.entries)
    (same : e.1 = e'.1) : e = e' := by
  have found : m.get? e.1 = some e.2 := mem_entries_iff.1 first
  have found' : m.get? e'.1 = some e'.2 := mem_entries_iff.1 last
  rw [same, found'] at found
  exact Prod.ext same (Option.some.inj found).symm

theorem entries_eq_of_lookup {l l' : List (κ × α)}
    (s : l.Pairwise (fun a b => a.1 < b.1)) (s' : l'.Pairwise (fun a b => a.1 < b.1))
    (h : ∀ e, e ∈ l ↔ e ∈ l') : l = l' := by
  induction l generalizing l' with
  | nil =>
    cases l' with
    | nil => rfl
    | cons hd tl => exact absurd ((h hd).2 (by simp)) (by simp)
  | cons hd tl ih =>
    cases l' with
    | nil => exact absurd ((h hd).1 (by simp)) (by simp)
    | cons hd' tl' =>
      obtain ⟨above, rest⟩ := List.pairwise_cons.1 s
      obtain ⟨above', rest'⟩ := List.pairwise_cons.1 s'
      have heads : hd = hd' := by
        rcases List.mem_cons.1 ((h hd).1 (by simp)) with e | m
        · exact e
        · rcases List.mem_cons.1 ((h hd').2 (by simp)) with e | m'
          · exact e.symm
          · exact absurd (above hd' m') (KeyOrder.not_lt_of_lt (above' hd m))
      subst heads
      refine congrArg _ (ih rest rest' fun e => ⟨fun m => ?_, fun m => ?_⟩)
      · rcases List.mem_cons.1 ((h e).1 (List.mem_cons_of_mem _ m)) with rfl | m'
        · exact absurd (above _ m) (KeyOrder.lt_irrefl _)
        · exact m'
      · rcases List.mem_cons.1 ((h e).2 (List.mem_cons_of_mem _ m)) with rfl | m'
        · exact absurd (above' _ m) (KeyOrder.lt_irrefl _)
        · exact m'

theorem ext_entries {m m' : SortedMap κ α} (h : m.entries = m'.entries) : m = m' := by
  cases m; cases m'; simp_all

/-- Maps with the same look-ups are equal. -/
theorem ext_get? {m m' : SortedMap κ α} (h : ∀ k, m.get? k = m'.get? k) : m = m' :=
  ext_entries <| entries_eq_of_lookup m.sorted m'.sorted fun ⟨k, v⟩ => by
    rw [mem_entries_iff, mem_entries_iff, h]

theorem get?_foldl_union (k : κ) (ms : List (SortedMap κ α)) (m : SortedMap κ α) :
    (ms.foldl union m).get? k = ms.foldl (fun a m => (m.get? k).or a) (m.get? k) := by
  induction ms generalizing m with
  | nil => rfl
  | cons m' ms ih => rw [List.foldl_cons, List.foldl_cons, ih, get?_union]

theorem foldl_unitePairs (k : κ) (ms : List (SortedMap κ α)) (a : Option α) :
    (unitePairs ms).foldl (fun a m => (m.get? k).or a) a =
      ms.foldl (fun a m => (m.get? k).or a) a := by
  fun_induction unitePairs ms generalizing a with
  | case1 m m' rest ih =>
    rw [List.foldl_cons, List.foldl_cons, List.foldl_cons, ih, get?_union, Option.or_assoc]
  | case2 => rfl

theorem get?_uniteAll (k : κ) (n : Nat) (ms : List (SortedMap κ α)) :
    (uniteAll n ms).get? k = ms.foldl (fun a m => (m.get? k).or a) none := by
  induction n generalizing ms with
  | zero => exact get?_foldl_union k ms empty
  | succ n ih => rw [uniteAll, ih, foldl_unitePairs]

theorem get?_foldl_insert (k : κ) (l : List (κ × α)) (m : SortedMap κ α) :
    (l.foldl (fun m e => m.insert e.1 e.2) m).get? k =
      l.foldl (fun a e => if e.1 = k then some e.2 else a) (m.get? k) := by
  induction l generalizing m with
  | nil => rfl
  | cons e l ih => rw [List.foldl_cons, List.foldl_cons, ih, get?_insert]

/-- The map of a list is what storing its entries one after the other makes. -/
theorem ofList_eq_foldl (l : List (κ × α)) :
    ofList l = l.foldl (fun m e => m.insert e.1 e.2) empty := by
  refine ext_get? fun k => ?_
  rw [get?_foldl_insert, ofList, get?_uniteAll, List.foldl_map]
  congr 1
  funext a e
  by_cases h : e.1 = k <;> simp [single, get?, lookup, h]

theorem mem_keys_iff {m : SortedMap κ α} {k : κ} : k ∈ m.keys ↔ ∃ v, m.get? k = some v := by
  simp only [keys, List.mem_map, Prod.exists, exists_and_right, exists_eq_right, mem_entries_iff]

theorem mem_values_iff {m : SortedMap κ α} {v : α} : v ∈ m.values ↔ ∃ k, m.get? k = some v := by
  simp only [values, List.mem_map, Prod.exists, exists_eq_right, mem_entries_iff]

theorem isEmpty_iff {m : SortedMap κ α} : m.isEmpty ↔ ∀ k, m.get? k = none := by
  rw [isEmpty, List.isEmpty_iff, List.eq_nil_iff_forall_not_mem]
  refine ⟨fun none k => Option.eq_none_iff_forall_not_mem.2 fun v found =>
    none (k, v) (mem_entries_iff.2 found), fun none e member => ?_⟩
  cases (none e.1).symm.trans (mem_entries_iff.1 member)

theorem length_keys (m : SortedMap κ α) : m.keys.length = m.size := List.length_map _

theorem nodup_keys (m : SortedMap κ α) : m.keys.Nodup := by
  rw [List.Nodup, keys, List.pairwise_map]
  exact m.sorted.imp KeyOrder.ne_of_lt

theorem contains_iff {m : SortedMap κ α} {k : κ} : m.contains k ↔ ∃ v, m.get? k = some v := by
  simp [contains, Option.isSome_iff_exists]

theorem get?_of_not_contains {m : SortedMap κ α} {k : κ} (absent : ¬ m.contains k) :
    m.get? k = none := by
  simpa [contains] using absent

theorem get?_mapValues (f : α → β) (m : SortedMap κ α) (k : κ) :
    (m.mapValues f).get? k = (m.get? k).map f := by
  obtain ⟨entries, sorted⟩ := m
  show lookup k (entries.map fun e => (e.1, f e.2)) = (lookup k entries).map f
  clear sorted
  induction entries with
  | nil => rfl
  | cons e entries ih =>
    rw [List.map_cons, lookup, lookup, ih]
    split <;> rfl

theorem mapValues_insert (f : α → β) (m : SortedMap κ α) (k : κ) (v : α) :
    (m.insert k v).mapValues f = (m.mapValues f).insert k (f v) := by
  refine ext_get? fun k' => ?_
  rw [get?_mapValues, get?_insert, get?_insert, get?_mapValues]
  split <;> rfl

theorem mapValues_erase (f : α → β) (m : SortedMap κ α) (k : κ) :
    (m.erase k).mapValues f = (m.mapValues f).erase k := by
  refine ext_get? fun k' => ?_
  rw [get?_mapValues, get?_erase, get?_erase, get?_mapValues]
  split <;> rfl

theorem erase_erase (m : SortedMap κ α) (k : κ) : (m.erase k).erase k = m.erase k := by
  refine ext_get? fun k' => ?_
  rw [get?_erase, get?_erase]
  split <;> rfl

/-- A key that was not there is gone again once it is forgotten. -/
theorem erase_insert {m : SortedMap κ α} {k : κ} (absent : m.get? k = none) (v : α) :
    (m.insert k v).erase k = m := by
  refine ext_get? fun k' => ?_
  rw [get?_erase, get?_insert]
  split
  · next same => rw [← same, absent]
  · rfl

theorem mem_of_get?_ofList {l : List (κ × α)} {k : κ} {v : α} (found : (ofList l).get? k = some v) :
    (k, v) ∈ l := by
  have step : ∀ (l : List (κ × α)) (a : Option α),
      l.foldl (fun a e => if e.1 = k then some e.2 else a) a = some v → a = some v ∨ (k, v) ∈ l := by
    intro l
    induction l with
    | nil => exact fun a found => .inl found
    | cons e l ih =>
      intro a found
      rcases ih _ found with here | later
      · dsimp only at here
        split at here
        · next same =>
          cases here
          exact .inr (same ▸ List.mem_cons_self)
        · exact .inl here
      · exact .inr (List.mem_cons_of_mem _ later)
  rw [ofList_eq_foldl, get?_foldl_insert] at found
  rcases step l none found with none | member
  · cases none
  · exact member

theorem exists_get?_ofList {l : List (κ × α)} {k : κ} {v : α} (member : (k, v) ∈ l) :
    ∃ v', (ofList l).get? k = some v' := by
  have step : ∀ (l : List (κ × α)) (a : Option α), (∃ v', a = some v') ∨ (∃ v', (k, v') ∈ l) →
      ∃ v', l.foldl (fun a e => if e.1 = k then some e.2 else a) a = some v' := by
    intro l
    induction l with
    | nil => exact fun a here => here.resolve_right (by simp)
    | cons e l ih =>
      rintro a (⟨v', rfl⟩ | ⟨v', member⟩)
      · refine ih _ (.inl ?_)
        dsimp only
        split <;> exact ⟨_, rfl⟩
      · rcases List.mem_cons.mp member with rfl | later
        · exact ih _ (.inl ⟨v', if_pos rfl⟩)
        · exact ih _ (.inr ⟨v', later⟩)
  rw [ofList_eq_foldl, get?_foldl_insert]
  exact step l none (.inr ⟨v, member⟩)

/-- The map of a list whose members are just the entries of a map, in whatever order. -/
theorem ofList_eq_of_mem_iff {l : List (κ × α)} {m : SortedMap κ α}
    (same : ∀ e, e ∈ l ↔ e ∈ m.entries) : ofList l = m := by
  refine ext_get? fun k => ?_
  cases found : (ofList l).get? k with
  | some v => exact (mem_entries_iff.1 ((same _).1 (mem_of_get?_ofList found))).symm
  | none =>
    cases known : m.get? k with
    | none => rfl
    | some v =>
      obtain ⟨_, found'⟩ := exists_get?_ofList ((same _).2 (mem_entries_iff.2 known))
      cases found.symm.trans found'

/-- Sorted entries are those of the map of them. -/
theorem ofList_sorted {l : List (κ × α)} (sorted : l.Pairwise (fun a b => a.1 < b.1)) :
    ofList l = ⟨l, sorted⟩ := by
  have step : ∀ (k : κ) (l : List (κ × α)) (a : Option α), l.Pairwise (fun a b => a.1 < b.1) →
      l.foldl (fun a e => if e.1 = k then some e.2 else a) a = (lookup k l).or a := by
    intro k l
    induction l with
    | nil => exact fun a _ => rfl
    | cons e l ih =>
      intro a sorted
      obtain ⟨above, rest⟩ := List.pairwise_cons.1 sorted
      rw [List.foldl_cons, ih _ rest, lookup]
      split
      · next same =>
        have none : lookup k l = none := lookup_eq_none fun e' member => same ▸ above e' member
        rw [none]
        rfl
      · rfl
  refine ext_get? fun k => ?_
  rw [ofList_eq_foldl, get?_foldl_insert, step k l _ sorted, get?_empty, Option.or_none, get?]

end SortedMap

end DeviceClaims
