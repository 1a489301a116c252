import DeviceClaims.Json.Printer
import DeviceClaims.Json.Token

namespace DeviceClaims

namespace Decimal

theorem isDigit_digit {n : Nat} (small : n < 10) : isDigit (digit n) = true := by
  have all : ∀ i : Fin 10, isDigit (digit i) = true := by decide
  exact all ⟨n, small⟩

theorem value_digit {n : Nat} (small : n < 10) : value (digit n) = n := by
  have all : ∀ i : Fin 10, value (digit i) = i := by decide
  exact all ⟨n, small⟩

theorem isDigit_ofNat (n : Nat) : ∀ c ∈ ofNat n, isDigit c = true := by
  induction n using ofNat.induct with
  | case1 n small =>
    intro c member
    rw [ofNat, if_pos small] at member
    obtain rfl := List.mem_singleton.mp member
    exact isDigit_digit small
  | case2 n large ih =>
    intro c member
    rw [ofNat, if_neg large] at member
    rcases List.mem_append.mp member with front | last
    · exact ih c front
    · obtain rfl := List.mem_singleton.mp last
      exact isDigit_digit (Nat.mod_lt n (by decide))

/-- Only zero is written with a leading zero. -/
theorem head_ofNat (n : Nat) : ∃ c cs, ofNat n = c :: cs ∧ (n ≠ 0 → c ≠ '0') := by
  induction n using ofNat.induct with
  | case1 n small =>
    refine ⟨digit n, [], by rw [ofNat, if_pos small], fun positive zero => positive ?_⟩
    rw [← value_digit small, zero]
    rfl
  | case2 n large ih =>
    obtain ⟨c, cs, front, leading⟩ := ih
    refine ⟨c, cs ++ [digit (n % 10)], by rw [ofNat, if_neg large, front, List.cons_append], fun _ => ?_⟩
    exact leading (by omega)

end Decimal

namespace Json

/-- A text that does not go on with the number before it. -/
def EndsNumber (cs : List Char) : Prop :=
  ∀ c ∈ cs.head?, Decimal.isDigit c = false ∧ c ≠ '.' ∧ c ≠ 'e' ∧ c ≠ 'E'

namespace Numeral

theorem digits_append {ds rest : List Char} (allDigits : ∀ c ∈ ds, Decimal.isDigit c = true)
    (ends : EndsNumber rest) : digits (ds ++ rest) = (ds, rest) := by
  have none : rest.takeWhile Decimal.isDigit = [] ∧ rest.dropWhile Decimal.isDigit = rest := by
    cases rest with
    | nil => exact ⟨rfl, rfl⟩
    | cons c cs =>
      have noDigit := (ends c rfl).1
      exact ⟨List.takeWhile_cons_of_neg (by simp [noDigit]), List.dropWhile_cons_of_neg (by simp [noDigit])⟩
  rw [digits, List.takeWhile_append_of_pos allDigits, List.dropWhile_append_of_pos allDigits, none.1,
    none.2, List.append_nil]

theorem readWhole?_ofNat (n : Nat) {rest : List Char} (ends : EndsNumber rest) :
    readWhole? (Decimal.ofNat n ++ rest) = some (Decimal.ofNat n, rest) := by
  rw [readWhole?, digits_append (Decimal.isDigit_ofNat n) ends]
  obtain ⟨c, cs, written, leading⟩ := Decimal.head_ofNat n
  by_cases zero : n = 0
  · subst zero
    rw [Decimal.ofNat, if_pos (by decide)]
    rfl
  · rw [written]
    split
    · next same => cases same
    · next same => exact absurd (List.cons.inj (Prod.mk.inj same).1).1 (leading zero)
    · next same => cases same; rfl

theorem readFraction?_ends {rest : List Char} (ends : EndsNumber rest) :
    readFraction? rest = some (none, rest) := by
  unfold readFraction?
  split
  · exact absurd rfl (ends '.' rfl).2.1
  · rfl

theorem readPower?_ends {rest : List Char} (ends : EndsNumber rest) :
    readPower? rest = some (none, rest) := by
  cases rest with
  | nil => rfl
  | cons c cs =>
    obtain ⟨_, _, small, large⟩ := ends c rfl
    rw [readPower?, if_neg (not_or.mpr ⟨small, large⟩)]

/-- An integer is read with its sign and without fraction and exponent. -/
theorem read?_ofInt (i : Int) {rest : List Char} (ends : EndsNumber rest) :
    read? (Decimal.ofInt i ++ rest) =
      some (⟨decide (i < 0), Decimal.ofNat i.natAbs, none, none⟩, rest) := by
  cases i with
  | ofNat n =>
    have unsigned : ∀ cs, Decimal.ofNat n ++ rest ≠ '-' :: cs := by
      obtain ⟨c, cs, written, _⟩ := Decimal.head_ofNat n
      have digit : Decimal.isDigit c = true := Decimal.isDigit_ofNat n c (written ▸ List.mem_cons_self)
      intro cs' same
      rw [written] at same
      rw [(List.cons.inj same).1] at digit
      exact absurd digit (by decide)
    rw [Decimal.ofInt, read?]
    · simp [readWhole?_ofNat n ends, readFraction?_ends ends, readPower?_ends ends]
    · exact unsigned
  | negSucc n =>
    have whole := readWhole?_ofNat (n + 1) ends
    simp [Decimal.ofInt, read?, whole, readFraction?_ends ends, readPower?_ends ends, Int.negSucc_lt_zero]

theorem gather_append {ds es : List Char} {n k : Nat} (fits : gather n ds = (k, 0)) :
    gather n (ds ++ es) = gather k es := by
  induction ds generalizing n with
  | nil => cases fits; rfl
  | cons c cs ih =>
    rw [gather] at fits
    rw [List.cons_append, gather]
    split at fits
    · next small => rw [if_pos small, ih fits]
    · cases fits

/-- The digits of a number of 64 bits fit into one. -/
theorem gather_ofNat {n : Nat} (fits : n < 2 ^ 64) : gather 0 (Decimal.ofNat n) = (n, 0) := by
  induction n using Decimal.ofNat.induct with
  | case1 n small =>
    rw [Decimal.ofNat, if_pos small, gather, Decimal.value_digit small, if_pos (by omega)]
    simp [gather]
  | case2 n large ih =>
    have last := Decimal.value_digit (Nat.mod_lt n (by decide : 0 < 10))
    rw [Decimal.ofNat, if_neg large, gather_append (ih (by omega)), gather, last, if_pos (by omega), gather]
    congr 1
    omega

/-- An integer of 64 bits has itself as its value. -/
theorem value_ofInt {i : Int} (fits : fitsWord i = true) :
    value ⟨decide (i < 0), Decimal.ofNat i.natAbs, none, none⟩ = some (.int i) := by
  obtain ⟨low, high⟩ := Bool.and_eq_true_iff.mp fits
  have low := of_decide_eq_true low
  have high := of_decide_eq_true high
  have gathered : gather 0 (Decimal.ofNat i.natAbs) = (i.natAbs, 0) := gather_ofNat (by omega)
  simp only [value, gathered]
  by_cases negative : i < 0
  · have regular : ¬ (i.natAbs = 0 ∨ 2 ^ 63 < i.natAbs) := by omega
    have back : -(i.natAbs : Int) = i := by omega
    simp only [negative, decide_true, Bool.not_true, Bool.false_eq_true, if_false, if_neg regular, back]
  · have back : (i.natAbs : Int) = i := by omega
    simp only [negative, decide_false, Bool.not_false, if_true, back]

end Numeral

namespace Token

/-- A text spells tokens, each of which takes at least one character. -/
inductive Spells : List Char → List Token → Prop
  | nothing : Spells [] []
  | token {c : Char} {cs rest : List Char} {t : Token} {ts : List Token} (visible : isBlank c = false)
      (read : read? (c :: cs) = some (t, rest)) (shorter : rest.length ≤ cs.length)
      (spells : Spells rest ts) : Spells (c :: cs) (t :: ts)

theorem Spells.tokenize_eq {cs : List Char} {ts : List Token} (spells : Spells cs ts) {fuel : Nat}
    (enough : cs.length ≤ fuel) : Token.tokenize fuel cs = ts := by
  induction spells generalizing fuel with
  | nothing => cases fuel <;> rfl
  | @token c cs rest t ts visible read shorter _ ih =>
    cases fuel with
    | zero => cases enough
    | succ fuel =>
      have seen : (c :: cs).dropWhile isBlank = c :: cs := List.dropWhile_cons_of_neg (by simp [visible])
      rw [Token.tokenize, seen]
      simp only [read]
      rw [ih (Nat.le_trans shorter (Nat.le_of_succ_le_succ enough))]

/-- The character of a small code is read from its four digits. -/
theorem code?_control {n : Nat} (small : n < 0x20) :
    code? '0' '0' (Hex.digit (n / 16)) (Hex.digit (n % 16)) = some n := by
  have high := Hex.value?_digit (show n / 16 < 16 by omega)
  have low := Hex.value?_digit (show n % 16 < 16 by omega)
  have zero : Hex.value? '0' = some 0 := rfl
  simp only [code?, zero, high, low, Option.bind_eq_bind, Option.bind_some, Option.pure_def]
  congr 1
  omega

theorem readStr_letter {e c : Char} (letter : unescape? e = some c) (acc cs : List Char) :
    readStr acc none true ('\\' :: e :: cs) = readStr (c :: acc) none true cs := by
  have notCode : e ≠ 'u' := by
    rintro rfl
    cases letter
  rw [readStr]
  · simp [letter]
  · simp [notCode]

theorem readStr_plain {c : Char} (quote : c ≠ '"') (backslash : c ≠ '\\') (visible : ¬ c.toNat < 0x20)
    (acc cs : List Char) : readStr acc none true (c :: cs) = readStr (c :: acc) none true cs := by
  rw [readStr]
  · simp [backslash, visible]
  · simp [quote]
  · simp [backslash]
  · simp [backslash]

/-- What a character is escaped as is read as the character. -/
theorem readStr_escape (c : Char) (acc cs : List Char) :
    readStr acc none true (escape c ++ cs) = readStr (c :: acc) none true cs := by
  unfold escape
  split
  · next same => subst same; exact readStr_letter rfl acc cs
  next quote =>
  split
  · next same => subst same; exact readStr_letter rfl acc cs
  next backslash =>
  iterate 5
    split
    · next same => subst same; exact readStr_letter rfl acc cs
  split
  · next small =>
    have code := code?_control small
    have low : ¬ (0xdc00 ≤ c.toNat ∧ c.toNat < 0xe000) := by omega
    have high : ¬ (0xd800 ≤ c.toNat ∧ c.toNat < 0xdc00) := by omega
    simp [readStr, code, low, high]
  · next visible => exact readStr_plain quote backslash visible acc cs

theorem readStr_escaped (s rest acc : List Char) :
    readStr acc none true (s.flatMap escape ++ '"' :: rest) = some (some (acc.reverse ++ s), rest) := by
  induction s generalizing acc with
  | nil => simp [readStr]
  | cons c s ih =>
    rw [List.flatMap_cons, List.append_assoc, readStr_escape, ih, List.reverse_cons, List.append_assoc]
    rfl

theorem read?_str (s : String) (rest : List Char) :
    read? (writeStr s ++ rest) = some (.str s, rest) := by
  have escaped := readStr_escaped s.toList rest []
  simp only [writeStr, List.cons_append, List.append_assoc, List.nil_append] at escaped ⊢
  simp [read?, escaped, String.ofList_toList]

theorem read?_number {c : Char} {cs rest : List Char} {z : Numeral} {v : Json}
    (first : Decimal.isDigit c = true ∨ c = '-') (read : Numeral.read? (c :: cs) = some (z, rest))
    (value : z.value = some v) : read? (c :: cs) = some (.scalar v, rest) := by
  have apart : ∀ d, Decimal.isDigit d = false → d ≠ '-' → c ≠ d := by
    rintro d noDigit unsigned rfl
    rcases first with digit | sign
    · cases digit.symm.trans noDigit
    · exact unsigned sign
  simp [read?, apart, Decimal.isDigit, read, value]

end Token

mutual

/-- Whether every number in a value is a whole one that fits 64 bits. -/
def isPlain : Json → Bool
  | int i => fitsWord i
  | float _ => false
  | arr items => arePlain items
  | obj members => havePlain members
  | _ => true

/-- Whether every number in the values is a whole one that fits 64 bits. -/
def arePlain : List Json → Bool
  | [] => true
  | j :: rest => isPlain j && arePlain rest

/-- Whether every number in the values of members is a whole one that fits 64 bits. -/
def havePlain : List (String × Json) → Bool
  | [] => true
  | (_, j) :: rest => isPlain j && havePlain rest

end

mutual

/-- The tokens of a value. -/
def tokens : Json → List Token
  | .str s => [.str s]
  | .arr items => .openArr :: (tokensItems items ++ [.closeArr])
  | .obj members => .openObj :: (tokensMembers members ++ [.closeObj])
  | v => [.scalar v]

def tokensItems : List Json → List Token
  | [] => []
  | [j] => tokens j
  | j :: rest => tokens j ++ .comma :: tokensItems rest

def tokensMembers : List (String × Json) → List Token
  | [] => []
  | [(k, j)] => .str k :: .colon :: tokens j
  | (k, j) :: rest => .str k :: .colon :: (tokens j ++ .comma :: tokensMembers rest)

end

theorem endsNumber_nil : EndsNumber [] := by
  intro c absent
  cases absent

/-- A number ends where a container goes on or ends. -/
theorem endsNumber_mark {c : Char} (mark : c ∈ [',', ']', '\x7d']) (cs : List Char) :
    EndsNumber (c :: cs) := by
  rintro d same
  cases same
  simp only [List.mem_cons, List.not_mem_nil, or_false] at mark
  rcases mark with rfl | rfl | rfl <;> decide

namespace Token.Spells

variable {rest : List Char} {ts : List Token}

theorem mark {c : Char} {t : Token} (visible : isBlank c = false) (read : read? (c :: rest) = some (t, rest))
    (spells : Spells rest ts) : Spells (c :: rest) (t :: ts) :=
  token visible read (Nat.le_refl _) spells

theorem str (s : String) (spells : Spells rest ts) : Spells (writeStr s ++ rest) (.str s :: ts) :=
  token (c := '"') rfl (read?_str s rest) (by simp; omega) spells

theorem int {i : Int} (fits : fitsWord i = true) (ends : EndsNumber rest) (spells : Spells rest ts) :
    Spells (Decimal.ofInt i ++ rest) (.scalar (.int i) :: ts) := by
  have read := Numeral.read?_ofInt i ends
  have first : ∃ c cs, Decimal.ofInt i = c :: cs ∧ (Decimal.isDigit c = true ∨ c = '-') := by
    cases i with
    | ofNat n =>
      obtain ⟨c, cs, written, _⟩ := Decimal.head_ofNat n
      exact ⟨c, cs, written, .inl (Decimal.isDigit_ofNat n c (written ▸ List.mem_cons_self))⟩
    | negSucc n => exact ⟨'-', _, rfl, .inr rfl⟩
  obtain ⟨c, cs, written, first⟩ := first
  have visible : isBlank c = false := by
    rcases first with digit | rfl
    · have apart : ∀ d, Decimal.isDigit d = false → c ≠ d := by
        rintro d noDigit rfl
        cases digit.symm.trans noDigit
      simp [isBlank, apart, Decimal.isDigit]
    · rfl
  rw [written, List.cons_append] at read ⊢
  exact token visible (read?_number first read (Numeral.value_ofInt fits)) (by simp) spells

end Token.Spells

open Token in
mutual

/-- The text of a plain value spells its tokens, whatever follows it. -/
theorem spells_write : ∀ j : Json, j.isPlain = true → ∀ {rest : List Char} {ts : List Token},
    EndsNumber rest → Spells rest ts → Spells (j.write ++ rest) (j.tokens ++ ts)
  | null, _, rest, ts, _, spells => by
    refine .token (c := 'n') rfl ?_ ?_ spells
    · simp [read?, after?]
    · simp; omega
  | bool b, _, rest, ts, _, spells => by
    cases b with
    | true => exact .token (c := 't') rfl (by simp [read?, after?]) (by simp; omega) spells
    | false => exact .token (c := 'f') rfl (by simp [read?, after?]) (by simp; omega) spells
  | int i, plain, rest, ts, ends, spells => .int plain ends spells
  | float x, plain, _, _, _, _ => by cases plain
  | str s, _, rest, ts, _, spells => .str s spells
  | arr items, plain, rest, ts, _, spells => by
    have inside := spells_items items plain (endsNumber_mark (by decide) rest)
      (.mark (c := ']') (t := .closeArr) rfl (by simp [read?]) spells)
    simp only [write, tokens, List.cons_append, List.append_assoc, List.nil_append]
    exact .mark rfl (by simp [read?]) inside
  | obj members, plain, rest, ts, _, spells => by
    have inside := spells_members members plain (endsNumber_mark (by decide) rest)
      (.mark (c := '\x7d') (t := .closeObj) rfl (by simp [read?]) spells)
    simp only [write, tokens, List.cons_append, List.append_assoc, List.nil_append]
    exact .mark rfl (by simp [read?]) inside

theorem spells_items : ∀ items : List Json, arePlain items = true →
    ∀ {rest : List Char} {ts : List Token}, EndsNumber rest → Spells rest ts →
    Spells (writeItems items ++ rest) (tokensItems items ++ ts)
  | [], _, _, _, _, spells => spells
  | [j], plain, _, _, ends, spells => spells_write j (Bool.and_eq_true_iff.mp plain).1 ends spells
  | j :: next :: items, plain, rest, ts, ends, spells => by
    obtain ⟨first, others⟩ := Bool.and_eq_true_iff.mp plain
    have later := spells_items (next :: items) others ends spells
    have after := spells_write j first (endsNumber_mark (by decide) _)
      (.mark (c := ',') (t := .comma) rfl (by simp [read?]) later)
    simpa only [writeItems, tokensItems, List.append_assoc, List.cons_append] using after

theorem spells_members : ∀ members : List (String × Json), havePlain members = true →
    ∀ {rest : List Char} {ts : List Token}, EndsNumber rest → Spells rest ts →
    Spells (writeMembers members ++ rest) (tokensMembers members ++ ts)
  | [], _, _, _, _, spells => spells
  | [(k, j)], plain, rest, ts, ends, spells => by
    have value := spells_write j (Bool.and_eq_true_iff.mp plain).1 ends spells
    have member := Spells.str k (.mark (c := ':') (t := .colon) rfl (by simp [read?]) value)
    simpa only [writeMembers, tokensMembers, List.append_assoc, List.cons_append] using member
  | (k, j) :: next :: members, plain, rest, ts, ends, spells => by
    obtain ⟨first, others⟩ := Bool.and_eq_true_iff.mp plain
    have later := spells_members (next :: members) others ends spells
    have value := spells_write j first (endsNumber_mark (by decide) _)
      (.mark (c := ',') (t := .comma) rfl (by simp [read?]) later)
    have member := Spells.str k (.mark (c := ':') (t := .colon) rfl (by simp [read?]) value)
    simpa only [writeMembers, tokensMembers, List.append_assoc, List.cons_append] using member

end

/-- The text of a plain value falls into its tokens. -/
theorem ofText_write {j : Json} (plain : j.isPlain = true) : Token.ofText j.write = j.tokens := by
  have spells := spells_write j plain endsNumber_nil .nothing
  rw [List.append_nil, List.append_nil] at spells
  exact spells.tokenize_eq (Nat.le_refl _)

end Json

end DeviceClaims
