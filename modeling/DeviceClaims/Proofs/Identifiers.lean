import DeviceClaims.Ident

namespace DeviceClaims

namespace Uuid

theorem getElem?_group {ds : List Char} (length : ds.length = 32) : (group ds)[8]? = some '-' := by
  have first : (ds.take 8).length = 8 := by simp [length]
  rw [group, List.getElem?_append_right (by omega), first]
  rfl

/-- Digits are their five groups one after the other. -/
theorem join_groups (ds : List Char) :
    ds.take 8 ++ ((ds.drop 8).take 4 ++ ((ds.drop 12).take 4 ++ ((ds.drop 16).take 4 ++ ds.drop 20))) = ds := by
  have cut : ∀ n m : Nat, (ds.drop n).take m ++ ds.drop (n + m) = ds.drop n := fun n m => by
    rw [← List.drop_drop, List.take_append_drop]
  rw [cut 16 4, cut 12 4, cut 8 4, List.take_append_drop]

/-- Digits set in groups can be taken out of them. -/
theorem ungroup?_group {ds : List Char} (length : ds.length = 32) : ungroup? (group ds) = some ds := by
  have places : (group ds).length = 36 ∧ (group ds)[8]? = some '-' ∧ (group ds)[13]? = some '-' ∧
      (group ds)[18]? = some '-' ∧ (group ds)[23]? = some '-' := by
    refine ⟨length_group length, getElem?_group length, ?_, ?_, ?_⟩ <;>
      simp [group, length]
  rw [ungroup?, if_pos places]
  simp [group, List.drop_append, List.drop_take, length, join_groups]

/-- Grouped digits are no spelling in braces or after a mark. -/
theorem body_group {ds : List Char} (length : ds.length = 32) : body (group ds) = group ds := by
  have bare : ¬ ((group ds).length = 38 ∧ (group ds).head? = some '\x7b' ∧
      (group ds).getLast? = some '\x7d') := by
    rw [length_group length]
    omega
  have unmarked : ((group ds).take 9).map Char.toLower ≠ ['u', 'r', 'n', ':', 'u', 'u', 'i', 'd', ':'] := by
    intro same
    have ninth := congrArg (·[8]?) same
    simp [getElem?_group length] at ninth
  rw [body, if_neg bare, if_neg unmarked]

theorem read?_write (u : Uuid) : read? u.write = some u := by
  have length : (Hex.ofBytes u.bytes).length = 32 := by rw [Hex.length_ofBytes, u.length_bytes]
  have apart : u.write.length ≠ 32 := by
    rw [write, length_group length]
    decide
  rw [read?, digits?, if_neg apart, write, body_group length, ungroup?_group length, Option.bind_some,
    Hex.bytes?_ofBytes, Option.bind_some, ofBytes?, dif_pos u.length_bytes]

end Uuid

theorem stripMark?_append (mark cs : List Char) : stripMark? mark (mark ++ cs) = some cs := by
  induction mark with
  | nil => rfl
  | cons m mark ih => rw [List.cons_append, stripMark?, if_pos rfl, ih]

theorem readMarked_write (mark : String) (u : Uuid) :
    readMarked mark (String.ofList (mark.toList ++ u.write)) = .ok u := by
  have length : u.write.length = 36 := by
    rw [Uuid.write, Uuid.length_group (by rw [Hex.length_ofBytes, u.length_bytes])]
  have nonempty : mark.toList ++ u.write ≠ [] := by
    intro empty
    have none : u.write = [] := (List.append_eq_nil_iff.mp empty).2
    rw [none] at length
    cases length
  rw [readMarked, String.toList_ofList, if_neg nonempty, stripMark?_append]
  simp only [Uuid.read?_write]

namespace ClaimUid

theorem parse_text (c : ClaimUid) : parse c.text = .ok c := by
  rw [parse, text]
  exact congrArg _ (readMarked_write "" c.uuid)

end ClaimUid

namespace DeviceUuid

theorem parse_text (d : DeviceUuid) : parse d.text = .ok d := by
  rw [parse, text, readMarked_write]
  rfl

end DeviceUuid

end DeviceClaims
