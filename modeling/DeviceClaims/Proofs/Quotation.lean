import DeviceClaims.Api.Parameters

namespace DeviceClaims

namespace Hex

/-- A hexadecimal digit is none of the characters that have a meaning of their own. -/
theorem digit_ne {n : Nat} (small : n < 16) {c : Char} (other : value? c = none) : digit n ≠ c := by
  rintro rfl
  rw [value?_digit small] at other
  cases other

/-- Only digits are written of a number. -/
theorem not_mem_ofNat {c : Char} (other : value? c = none) (n : Nat) : c ∉ ofNat n := by
  induction n using ofNat.induct with
  | case1 n small =>
    rw [ofNat, if_pos small, List.mem_singleton]
    exact (digit_ne small other).symm
  | case2 n large ih =>
    have last := digit_ne (Nat.mod_lt n (by decide)) other
    rw [ofNat, if_neg large, List.mem_append, List.mem_singleton]
    exact not_or.mpr ⟨ih, last.symm⟩

end Hex

namespace Quoted

/-- How many backslashes a text ends with. -/
def backslashes (cs : List Char) : Nat := (cs.reverse.takeWhile (· = '\\')).length

/-- At a place there stands a quote that is not escaped: the backslashes right before it escape one
another. -/
def QuoteAt (cs : List Char) (i : Nat) : Prop :=
  cs[i]? = some '"' ∧ backslashes (cs.take i) % 2 = 0

instance (cs : List Char) (i : Nat) : Decidable (QuoteAt cs i) := inferInstanceAs (Decidable (_ ∧ _))

/-- The character that a letter after a backslash stands for. -/
def letter? (c : Char) : Option Char :=
  [('0', '\x00'), ('t', '\t'), ('r', '\r'), ('n', '\n'), ('"', '"'), ('\\', '\\')].lookup c

/-- The character of a code, if it is that of one. -/
def ofCode? (n : Nat) : Option Char := if n.isValidChar then some (Char.ofNat n) else none

/-- Where a reader of a literal is: between two characters, after a backslash, before the brace of a code, or
in a code with the value of its digits so far, if there are any. -/
inductive Stage
  | between
  | escape
  | brace
  | code (value : Option Nat)

/-- Undoes the escapes between two quotes. A quote without a backslash and an escape that is none stand for
nothing. -/
def undo? : Stage → List Char → Option (List Char)
  | .between, [] => some []
  | .between, c :: cs =>
    if c = '"' then none
    else if c = '\\' then undo? .escape cs
    else (undo? .between cs).map (c :: ·)
  | .escape, c :: cs =>
    if c = 'u' then undo? .brace cs
    else (letter? c).bind fun m => (undo? .between cs).map (m :: ·)
  | .brace, c :: cs => if c = '\x7b' then undo? (.code none) cs else none
  | .code value, c :: cs =>
    if c = '\x7d' then (value.bind ofCode?).bind fun m => (undo? .between cs).map (m :: ·)
    else (Hex.value? c).bind fun v => undo? (.code (some (16 * value.getD 0 + v))) cs
  | _, [] => none

theorem backslashes_concat (cs : List Char) (c : Char) :
    backslashes (cs ++ [c]) = if c = '\\' then backslashes cs + 1 else 0 := by
  by_cases last : c = '\\'
  · simp [backslashes, last]
  · simp [backslashes, last]

/-- After an even number of backslashes, and however the text goes on, a part of it keeps its quotes to itself:
each has its backslash, and none is left over. -/
def Shut (part : List Char) : Prop :=
  ∀ before, backslashes before % 2 = 0 → backslashes (before ++ part) % 2 = 0 ∧
    ∀ i, part[i]? = some '"' → backslashes (before ++ part.take i) % 2 = 1

namespace Shut

theorem nil : Shut [] := by
  intro before even
  rw [List.append_nil]
  exact ⟨even, fun i quote => by cases quote⟩

theorem append {first second : List Char} (shut : Shut first) (shut' : Shut second) :
    Shut (first ++ second) := by
  intro before even
  obtain ⟨between, inFirst⟩ := shut before even
  obtain ⟨after, inSecond⟩ := shut' (before ++ first) between
  rw [← List.append_assoc]
  refine ⟨after, fun i quote => ?_⟩
  by_cases early : i < first.length
  · rw [List.getElem?_append_left early] at quote
    rw [List.take_append_of_le_length (Nat.le_of_lt early)]
    exact inFirst i quote
  · have late : first.length ≤ i := by omega
    rw [List.getElem?_append_right late] at quote
    rw [List.take_append, List.take_of_length_le late, ← List.append_assoc]
    exact inSecond (i - first.length) quote

/-- A part without quotes that ends in something else than a backslash. -/
theorem of_no_quote {cs : List Char} {c : Char} (no_quote : '"' ∉ cs ++ [c]) (last : c ≠ '\\') :
    Shut (cs ++ [c]) := by
  intro before _
  refine ⟨?_, fun i quote => absurd (List.mem_of_getElem? quote) no_quote⟩
  rw [← List.append_assoc, backslashes_concat, if_neg last]

/-- A backslash and what it escapes, which may be a quote or another backslash. -/
theorem pair (c : Char) : Shut ['\\', c] := by
  intro before even
  have opened : backslashes (before ++ ['\\']) = backslashes before + 1 := by
    rw [backslashes_concat, if_pos rfl]
  constructor
  · rw [show before ++ ['\\', c] = (before ++ ['\\']) ++ [c] by simp, backslashes_concat, opened]
    split <;> omega
  · intro i quote
    have second : i = 1 := by
      rcases i with _ | _ | i
      · simp at quote
      · rfl
      · simp at quote
    rw [second, List.take_succ_cons, List.take_zero, opened]
    omega

end Shut

/-- The digits of a code are read as its value. -/
theorem undo_ofNat (n : Nat) (cs : List Char) :
    undo? (.code none) (Hex.ofNat n ++ cs) = undo? (.code (some n)) cs := by
  have step : ∀ value m, m < 16 → ∀ cs, undo? (.code value) (Hex.digit m :: cs) =
      undo? (.code (some (16 * value.getD 0 + m))) cs := by
    intro value m small cs
    rw [undo?, if_neg (Hex.digit_ne small rfl), Hex.value?_digit small, Option.bind_some]
  -- Reading goes from the first digit, writing takes off the last: what follows stays open.
  induction n using Hex.ofNat.induct generalizing cs with
  | case1 n small =>
    rw [Hex.ofNat, if_pos small, List.singleton_append, step none n small, Option.getD_none, Nat.mul_zero,
      Nat.zero_add]
  | case2 n large ih =>
    rw [Hex.ofNat, if_neg large, List.append_assoc, ih, List.singleton_append,
      step _ _ (Nat.mod_lt n (by decide)), Option.getD_some, Nat.div_add_mod]

theorem undo_code (c : Char) (cs : List Char) :
    undo? .between ('\\' :: 'u' :: '\x7b' :: (Hex.ofNat c.toNat ++ '\x7d' :: cs)) =
      (undo? .between cs).map (c :: ·) := by
  have valid : c.toNat.isValidChar := c.valid
  have code : ofCode? c.toNat = some c := by
    rw [ofCode?, if_pos valid, Char.ofNat_toNat]
  rw [undo?, if_neg (by decide), if_pos rfl, undo?, if_pos rfl, undo?, if_pos rfl, undo_ofNat, undo?,
    if_pos rfl, Option.bind_some, code, Option.bind_some]

/-- A character is written as a letter after a backslash, as it is, or as its code. -/
theorem escape_cases (c : Char) :
    (∃ e, letter? e = some c ∧ escape c = ['\\', e]) ∨ (c ≠ '"' ∧ c ≠ '\\' ∧ escape c = [c]) ∨
      escape c = '\\' :: 'u' :: '\x7b' :: (Hex.ofNat c.toNat ++ ['\x7d']) := by
  unfold escape
  iterate 6
    split
    · next same => exact .inl ⟨_, by rw [same]; rfl, rfl⟩
  split
  · exact .inr (.inl ⟨‹_›, ‹_›, rfl⟩)
  · exact .inr (.inr rfl)

theorem undo_escape (c : Char) (cs : List Char) :
    undo? .between (escape c ++ cs) = (undo? .between cs).map (c :: ·) := by
  rcases escape_cases c with ⟨e, letter, written⟩ | ⟨quote, backslash, written⟩ | written
  · have no_code : e ≠ 'u' := by
      rintro rfl
      cases letter
    rw [written, List.cons_append, List.singleton_append, undo?, if_neg (by decide), if_pos rfl, undo?,
      if_neg no_code, letter, Option.bind_some]
  · rw [written, List.singleton_append, undo?, if_neg quote, if_neg backslash]
  · rw [written]
    simpa only [List.cons_append, List.append_assoc, List.nil_append] using undo_code c cs

/-- What is written of a text stands for that text. -/
theorem undo_escapes (s : List Char) : undo? .between (s.flatMap escape) = some s := by
  induction s with
  | nil => rw [List.flatMap_nil, undo?]
  | cons c s ih => rw [List.flatMap_cons, undo_escape, ih, Option.map_some]

/-- What a character is escaped as holds no quote that could end a literal. -/
theorem shut_escape (c : Char) : Shut (escape c) := by
  rcases escape_cases c with ⟨e, _, written⟩ | ⟨quote, backslash, written⟩ | written
  · rw [written]
    exact .pair e
  · rw [written, ← List.nil_append [c]]
    exact .of_no_quote (by simpa using quote.symm) backslash
  · have no_quote : '"' ∉ Hex.ofNat c.toNat := Hex.not_mem_ofNat rfl c.toNat
    rw [written, ← List.cons_append, ← List.cons_append, ← List.cons_append]
    exact .of_no_quote (by simpa using no_quote) (by decide)

theorem shut_escapes (s : List Char) : Shut (s.flatMap escape) := by
  induction s with
  | nil => exact .nil
  | cons c s ih =>
    rw [List.flatMap_cons]
    exact (shut_escape c).append ih

/-- Around a part that keeps its quotes to itself, two quotes are the only ones that are not escaped. -/
theorem Shut.quoteAt_iff {body : List Char} (shut : Shut body) (i : Nat) :
    QuoteAt ('"' :: (body ++ ['"'])) i ↔ i = 0 ∨ i = body.length + 1 := by
  obtain ⟨even, inside⟩ := shut ['"'] rfl
  rcases i with _ | i
  · exact iff_of_true ⟨rfl, rfl⟩ (.inl rfl)
  rw [QuoteAt, List.getElem?_cons_succ, List.take_succ_cons]
  rcases Nat.lt_trichotomy i body.length with within | rfl | beyond
  · rw [List.getElem?_append_left within, List.take_append_of_le_length (Nat.le_of_lt within)]
    have escaped : body[i]? = some '"' → backslashes ('"' :: body.take i) % 2 = 1 := inside i
    refine iff_of_false ?_ (by omega)
    rintro ⟨quote, unescaped⟩
    have := escaped quote
    omega
  · rw [List.getElem?_concat_length, List.take_left]
    exact iff_of_true ⟨rfl, even⟩ (.inr rfl)
  · have outside : (body ++ ['"'])[i]? = none := by
      rw [List.getElem?_eq_none_iff, List.length_append, List.length_singleton]
      omega
    rw [outside]
    exact iff_of_false nofun (by omega)

/-- One backslash escapes a quote, two escape only one another. -/
example : ¬ QuoteAt "\"\\\"\"".toList 2 ∧ QuoteAt "\"\\\\\"".toList 3 := by
  decide

end Quoted

namespace FakeSelector

/-- What an expression with a model begins with. -/
def lead : List Char := "attributes.string[\"model\"] == ".toList

theorem toList_expression (model : String) : (FakeSelector.mk (some model)).expression.toList =
    lead ++ '"' :: (model.toList.flatMap Quoted.escape ++ ['"']) := by
  rw [expression, String.toList_append, Quoted.write]
  exact congrArg (lead ++ ·) String.toList_ofList

theorem expression_ne_true (model : String) : (FakeSelector.mk (some model)).expression ≠ "true" := by
  intro same
  have first := congrArg (fun text => text.toList.head?) same
  simp only [toList_expression] at first
  cases first

/-- Selectors with the same expression have the same model. -/
theorem eq_of_expression {model model' : String}
    (same : (FakeSelector.mk (some model)).expression = (FakeSelector.mk (some model')).expression) :
    model = model' := by
  have texts := congrArg String.toList same
  rw [toList_expression, toList_expression] at texts
  have bodies := List.append_cancel_right (List.cons.inj (List.append_cancel_left texts)).2
  have read := Quoted.undo_escapes model.toList
  rw [bodies, Quoted.undo_escapes] at read
  exact String.toList_inj.mp (Option.some.inj read).symm

/-- The model of a selector stands in its expression as one literal, which is the end of it: no other quote
is unescaped, and without its escapes it is the model. So the expression tells the selector. -/
theorem expression_holds_model :
    (∀ model : String, ∃ body : List Char,
      (FakeSelector.mk (some model)).expression.toList =
        "attributes.string[\"model\"] == ".toList ++ '"' :: (body ++ ['"']) ∧
      (∀ i, Quoted.QuoteAt ('"' :: (body ++ ['"'])) i ↔ i = 0 ∨ i = body.length + 1) ∧
      Quoted.undo? .between body = some model.toList) ∧
    (∀ s t : FakeSelector, s.expression = t.expression ↔ s = t) ∧
    ∀ model : String, (FakeSelector.mk (some model)).expression ≠ "true" := by
  refine ⟨fun model => ?_, fun s t => ⟨fun same => ?_, congrArg expression⟩, expression_ne_true⟩
  · exact ⟨_, toList_expression model, (Quoted.shut_escapes model.toList).quoteAt_iff,
      Quoted.undo_escapes model.toList⟩
  · obtain ⟨_ | model⟩ := s <;> obtain ⟨_ | model'⟩ := t
    · rfl
    · exact absurd same.symm (expression_ne_true model')
    · exact absurd same (expression_ne_true model)
    · rw [eq_of_expression same]

/-- A model that imitates the end of its literal, a code and a part of one, with a character that shows only
on the one before it. -/
example : (FakeSelector.mk (some "a\" == \\u\x7b41\x7du\u0301")).expression =
    "attributes.string[\"model\"] == \"a\\\" == \\\\u\x7b41\x7du\\u\x7b301\x7d\"" := by
  decide +kernel

end FakeSelector

end DeviceClaims
