import Std.Data.ExtTreeSet

namespace StreamCatalog

def bytes (text : String) : List UInt8 := text.toUTF8.data.toList

def byteOrder (a b : String) : Bool := decide (bytes a ≤ bytes b)

theorem bytes_eq_flatMap (text : String) :
    bytes text = text.toList.flatMap String.utf8EncodeChar := by
  rw [bytes, String.toUTF8, ← String.utf8Encode_toList, List.utf8Encode,
    List.toList_data_toByteArray]

/-- The smaller of two numbers has the smaller digit where they first differ to the base 64. -/
theorem digits_lt {v w : Nat} (smaller : v < w) :
    v / 262144 < w / 262144 ∨ v / 262144 = w / 262144 ∧
      (v / 4096 % 64 < w / 4096 % 64 ∨ v / 4096 % 64 = w / 4096 % 64 ∧
        (v / 64 % 64 < w / 64 % 64 ∨ v / 64 % 64 = w / 64 % 64 ∧ v % 64 < w % 64)) := by
  omega

theorem utf8EncodeChar_lt {c d : Char} (less : c < d) (rest more : List UInt8) :
    String.utf8EncodeChar c ++ rest < String.utf8EncodeChar d ++ more := by
  have smaller : c.val.toNat < d.val.toNat := less
  have bound : d.val.toNat < 0x110000 := by
    rcases d.valid with low | ⟨-, high⟩
    · omega
    · exact high
  unfold String.utf8EncodeChar
  generalize c.val.toNat = v at smaller
  generalize d.val.toNat = w at smaller bound
  have digits := digits_lt smaller
  dsimp only
  -- One case for each pair of lengths; in each the digits to the base 64 decide.
  repeat' split
  all_goals
    simp only [List.cons_append, List.nil_append, List.cons_lt_cons_iff, UInt8.lt_iff_toNat_lt,
      ← UInt8.toNat_inj, UInt8.toNat_ofNat']
    simp (disch := omega) only [Nat.mod_eq_of_lt]
    rcases digits with first | ⟨first, second | ⟨second, third | ⟨third, fourth⟩⟩⟩ <;> omega

theorem flatMap_utf8EncodeChar_lt {a b : List Char} (less : a < b) :
    a.flatMap String.utf8EncodeChar < b.flatMap String.utf8EncodeChar := by
  induction a generalizing b with
  | nil =>
    cases b with
    | nil => exact absurd less (List.lt_irrefl [])
    | cons d b =>
      rw [List.flatMap_nil, List.flatMap_cons]
      cases form : String.utf8EncodeChar d with
      | nil => exact absurd form String.utf8EncodeChar_ne_nil
      | cons byte others => exact List.nil_lt_cons byte _
  | cons c a ih =>
    cases b with
    | nil => exact absurd less (List.not_lt_nil _)
    | cons d b =>
      rw [List.flatMap_cons, List.flatMap_cons]
      rcases List.cons_lt_cons_iff.mp less with smaller | ⟨rfl, tails⟩
      · exact utf8EncodeChar_lt smaller _ _
      · exact List.append_left_lt (ih tails)

theorem bytes_lt_of_lt {a b : String} (less : a < b) : bytes a < bytes b := by
  rw [bytes_eq_flatMap, bytes_eq_flatMap]
  exact flatMap_utf8EncodeChar_lt less

theorem bytes_le_iff {a b : String} : bytes a ≤ bytes b ↔ a ≤ b := by
  constructor
  · intro ordered less
    exact ordered (bytes_lt_of_lt less)
  · intro ordered
    by_cases less : a < b
    · exact List.lt_asymm (bytes_lt_of_lt less)
    · have same : a = b := String.le_antisymm ordered less
      rw [same]
      exact List.lt_irrefl _

theorem byteOrder_eq : byteOrder = fun a b => decide (a ≤ b) := by
  funext a b
  simp only [byteOrder, bytes_le_iff]

theorem sorted_mergeSort (names : List String) :
    names.mergeSort.Pairwise fun a b => decide (a ≤ b) = true := by
  apply List.pairwise_mergeSort
  · intro a b c first second
    exact decide_eq_true (String.le_trans (of_decide_eq_true first) (of_decide_eq_true second))
  · intro a b
    rw [Bool.or_eq_true, decide_eq_true_iff, decide_eq_true_iff]
    exact String.le_total a b

theorem mergeSort_eq_of_perm {names others : List String} (same : names.Perm others) :
    names.mergeSort = others.mergeSort := by
  have perm : names.mergeSort.Perm others.mergeSort :=
    (List.mergeSort_perm ..).trans (same.trans (List.mergeSort_perm ..).symm)
  refine List.Perm.eq_of_pairwise ?_ (sorted_mergeSort names) (sorted_mergeSort others) perm
  intro a b _ _ ordered reversed
  exact String.le_antisymm (of_decide_eq_true ordered) (of_decide_eq_true reversed)

theorem mergeSort_byteOrder_of_perm {names others : List String} (same : names.Perm others) :
    names.mergeSort byteOrder = others.mergeSort := by
  rw [byteOrder_eq]
  exact mergeSort_eq_of_perm same

theorem mergeSort_increasing {names : List String} (distinct : names.Nodup) :
    names.mergeSort.Pairwise fun a b => bytes a < bytes b := by
  have apart : names.mergeSort.Nodup := (List.mergeSort_perm ..).nodup_iff.mpr distinct
  apply ((sorted_mergeSort names).and apart).imp
  rintro a b ⟨ordered, different⟩
  have less : a < b := by
    apply String.not_le.mp
    intro reversed
    exact different (String.le_antisymm (of_decide_eq_true ordered) reversed)
  exact bytes_lt_of_lt less

theorem mergeSort_toList (names : Std.ExtTreeSet String) :
    names.toList.mergeSort = names.toList := by
  refine List.mergeSort_of_pairwise (names.ordered_toList.imp ?_)
  intro a b less
  have smaller : a < b := (compareOfLessAndEq_eq_lt (x := a) (y := b)).mp less
  exact decide_eq_true (String.lt_asymm smaller)

end StreamCatalog
