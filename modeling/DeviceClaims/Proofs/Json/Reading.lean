import DeviceClaims.Json.Decode
import DeviceClaims.Proofs.Json.Spelling

namespace DeviceClaims.Json

namespace Reading

variable {next : Next} {root : Reading} {frames : List Frame} {ts : List Token}

/-- Whether a value may come next. -/
def Next.IsValue (next : Next) : Prop := next = .value ∨ next = .firstItem

theorem build_scalar (wanted : next.IsValue) (v : Json) :
    build root frames next (.scalar v :: ts) = build (.scalar v) frames .separator ts := by
  rcases wanted with rfl | rfl <;> rw [build]

theorem build_str (wanted : next.IsValue) (s : String) :
    build root frames next (.str s :: ts) = build (.str s) frames .separator ts := by
  rcases wanted with rfl | rfl <;> rw [build]

theorem build_openArr (wanted : next.IsValue) :
    build root frames next (.openArr :: ts) = build root (.arr [] :: frames) .firstItem ts := by
  rcases wanted with rfl | rfl <;> rw [build]

theorem build_openObj (wanted : next.IsValue) :
    build root frames next (.openObj :: ts) = build root frames (.firstKey []) ts := by
  rcases wanted with rfl | rfl <;> rw [build]

theorem build_key {next : List (Option String × Reading) → Next}
    (wanted : next = .key ∨ next = .firstKey) (done : List (Option String × Reading)) (k : String) :
    build root frames (next done) (.str k :: .colon :: ts) =
      build root (.obj done (some k) :: frames) .value ts := by
  rcases wanted with rfl | rfl <;> rw [build, build]

mutual

/-- The tokens of a value are read as the value, wherever one may come. -/
theorem build_tokens : ∀ (j : Json) {next : Next}, next.IsValue → ∀ (root : Reading)
    (frames : List Frame) (ts : List Token),
    build root frames next (j.tokens ++ ts) = build (ofJson j) frames .separator ts
  | .null, _, wanted, _, _, _ => build_scalar wanted .null
  | .bool b, _, wanted, _, _, _ => build_scalar wanted (.bool b)
  | .int i, _, wanted, _, _, _ => build_scalar wanted (.int i)
  | .float x, _, wanted, _, _, _ => build_scalar wanted (.float x)
  | .str s, _, wanted, _, _, _ => build_str wanted s
  | .arr items, _, wanted, root, frames, ts => by
    have inside := build_tokensItems items (.inr ⟨rfl, rfl⟩) root frames ts
    rw [tokens, List.cons_append, List.append_assoc, build_openArr wanted]
    exact inside
  | .obj members, _, wanted, root, frames, ts => by
    have inside := build_tokensMembers members (.inr ⟨rfl, rfl⟩) root frames ts
    rw [tokens, List.cons_append, List.append_assoc, build_openObj wanted]
    exact inside

/-- What is read of an array after some items; after a comma there must be one more. -/
theorem build_tokensItems : ∀ (items : List Json) {next : Next} {done : List Reading},
    next = .value ∧ items ≠ [] ∨ next = .firstItem ∧ done = [] →
    ∀ (root : Reading) (frames : List Frame) (ts : List Token),
    build root (.arr done :: frames) next (tokensItems items ++ (.closeArr :: ts)) =
      build (.arr (done.reverse ++ ofItems items) true) frames .separator ts
  | [], next, done, wanted, root, frames, ts => by
    rcases wanted with ⟨_, more⟩ | ⟨rfl, rfl⟩
    · exact absurd rfl more
    · rw [tokensItems, List.nil_append, build]
      rfl
  | [j], next, done, wanted, root, frames, ts => by
    rw [tokensItems, build_tokens j (wanted.imp And.left And.left), build, List.reverse_cons]
    rfl
  | j :: k :: items, next, done, wanted, root, frames, ts => by
    have later := @build_tokensItems (k :: items) .value (ofJson j :: done) (.inl ⟨rfl, by simp⟩)
    rw [tokensItems, List.append_assoc, build_tokens j (wanted.imp And.left And.left),
      List.cons_append, build, later, List.reverse_cons, List.append_assoc]
    · rfl
    · simp

/-- The tokens of an object's members are put together into the members in their order. -/
theorem build_tokensMembers : ∀ (members : List (String × Json))
    {next : List (Option String × Reading) → Next} {done : List (Option String × Reading)},
    next = .key ∧ members ≠ [] ∨ next = .firstKey ∧ done = [] →
    ∀ (root : Reading) (frames : List Frame) (ts : List Token),
    build root frames (next done) (tokensMembers members ++ (.closeObj :: ts)) =
      build (.obj (done.reverse ++ ofMembers members) true) frames .separator ts
  | [], next, done, wanted, root, frames, ts => by
    rcases wanted with ⟨_, more⟩ | ⟨rfl, rfl⟩
    · exact absurd rfl more
    · rw [tokensMembers, List.nil_append, build]
      rfl
  | [(k, j)], next, done, wanted, root, frames, ts => by
    rw [tokensMembers, List.cons_append, List.cons_append, build_key (wanted.imp And.left And.left),
      build_tokens j (.inl rfl), build, List.reverse_cons]
    rfl
  | (k, j) :: (l, i) :: members, next, done, wanted, root, frames, ts => by
    have later := @build_tokensMembers ((l, i) :: members) .key ((some k, ofJson j) :: done)
      (.inl ⟨rfl, by simp⟩)
    rw [tokensMembers, List.cons_append, List.cons_append, build_key (wanted.imp And.left And.left),
      List.append_assoc, build_tokens j (.inl rfl), List.cons_append, build, later, List.reverse_cons,
      List.append_assoc]
    · rfl
    · simp

end

/-- Reading takes back what writing a plain value has done. -/
theorem ofText_write {j : Json} (plain : j.isPlain = true) : ofText j.write = (ofJson j, true) := by
  have whole := build_tokens j (.inl rfl) .cut [] []
  rw [List.append_nil] at whole
  rw [ofText, Json.ofText_write plain, whole, build]
  rfl

mutual

/-- A plain value that is nested no deeper than allowed is one of free form. -/
theorem freeForm?_ofJson : ∀ (j : Json) {depth : Nat}, j.isPlain = true → j.height ≤ depth →
    (freeForm? depth (ofJson j)).isSome = true
  | .null, _, _, _ => by simp [ofJson, freeForm?, isNormal]
  | .bool _, _, _, _ => by simp [ofJson, freeForm?, isNormal]
  | .int i, _, plain, _ => by
    have fits : isNormal (.int i) = true := plain
    simp [ofJson, freeForm?, fits]
  | .float _, _, plain, _ => by cases plain
  | .str _, _, _, _ => by simp [ofJson, freeForm?]
  | .arr items, depth, plain, shallow => by
    rw [height] at shallow
    have room : ¬ (depth = 0 ∨ true = false) := by simp; omega
    rw [ofJson, freeForm?, if_neg room, Option.isSome_map]
    exact freeItems?_ofItems items plain (Nat.le_sub_one_of_lt shallow)
  | .obj members, depth, plain, shallow => by
    rw [height] at shallow
    have room : ¬ (depth = 0 ∨ true = false) := by simp; omega
    rw [ofJson, freeForm?, if_neg room, Option.isSome_map]
    exact freeMembers?_ofMembers members plain (Nat.le_sub_one_of_lt shallow) _

theorem freeItems?_ofItems : ∀ (items : List Json) {depth : Nat}, arePlain items = true →
    heightItems items ≤ depth → (freeItems? depth (ofItems items)).isSome = true
  | [], _, _, _ => rfl
  | j :: items, depth, plain, shallow => by
    obtain ⟨first, others⟩ := Bool.and_eq_true_iff.mp plain
    rw [heightItems, Nat.max_le] at shallow
    obtain ⟨v, read⟩ := Option.isSome_iff_exists.mp (freeForm?_ofJson j first shallow.1)
    simp only [ofItems, freeItems?, read, Option.isSome_map]
    exact freeItems?_ofItems items others shallow.2

theorem freeMembers?_ofMembers : ∀ (members : List (String × Json)) {depth : Nat},
    havePlain members = true → heightMembers members ≤ depth →
    ∀ m, (freeMembers? depth (ofMembers members) m).isSome = true
  | [], _, _, _, _ => rfl
  | (k, j) :: members, depth, plain, shallow, m => by
    obtain ⟨first, others⟩ := Bool.and_eq_true_iff.mp plain
    rw [heightMembers, Nat.max_le] at shallow
    obtain ⟨v, read⟩ := Option.isSome_iff_exists.mp (freeForm?_ofJson j first shallow.1)
    simp only [ofMembers, freeMembers?, read]
    exact freeMembers?_ofMembers members others shallow.2 _

end

end Reading

/-- A decoder that reads a value reads the text of the value. -/
theorem Decoder.run_text {α : Type} {d : Decoder α} {j : Json} {a : α} (plain : j.isPlain = true)
    (reads : d ⟨.text, 0⟩ (Reading.ofJson j) = .ok a) : d.run j.text = .ok a := by
  rw [run, text, String.toList_ofList, Reading.ofText_write plain]
  simp only [reads, if_true]

end DeviceClaims.Json
