import Mathlib.Algebra.Ring.Nat
import StreamCatalog.Proofs.ByteOrder
import StreamCatalog.Settings

namespace StreamCatalog

/-- An ASCII letter, an ASCII digit, a hyphen or a point. -/
def InNameAlphabet (c : Char) : Prop :=
  'A' ≤ c ∧ c ≤ 'Z' ∨ 'a' ≤ c ∧ c ≤ 'z' ∨ '0' ≤ c ∧ c ≤ '9' ∨ c = '-' ∨ c = '.'

instance (c : Char) : Decidable (InNameAlphabet c) :=
  inferInstanceAs (Decidable ('A' ≤ c ∧ c ≤ 'Z' ∨ 'a' ≤ c ∧ c ≤ 'z' ∨ '0' ≤ c ∧ c ≤ '9' ∨ _ ∨ _))

def IsName (limit : Nat) (name : String) : Prop :=
  1 ≤ name.length ∧ name.length ≤ limit ∧ ∀ c ∈ name.toList, InNameAlphabet c

instance (limit : Nat) (name : String) : Decidable (IsName limit name) :=
  have := List.decidableBAll (p := InNameAlphabet) name.toList
  inferInstanceAs (Decidable (1 ≤ name.length ∧ name.length ≤ limit ∧ _))

theorem isNameChar_iff (c : Char) : isNameChar c = true ↔ InNameAlphabet c := by
  have upper : c.isUpper = true ↔ 'A' ≤ c ∧ c ≤ 'Z' := decide_eq_true_iff
  have within (first last : Char) : (decide (first ≤ c) && decide (c ≤ last)) = true ↔
      first ≤ c ∧ c ≤ last := by
    rw [Bool.and_eq_true, decide_eq_true_iff, decide_eq_true_iff]
  have lower : c.isLower = true ↔ 'a' ≤ c ∧ c ≤ 'z' := within 'a' 'z'
  have digit : c.isDigit = true ↔ '0' ≤ c ∧ c ≤ '9' := within '0' '9'
  have alphanum : c.isAlphanum = (c.isUpper || c.isLower || c.isDigit) := rfl
  simp only [isNameChar, InNameAlphabet, alphanum, Bool.or_eq_true, decide_eq_true_eq, upper,
    lower, digit, or_assoc]

theorem utf8Size_of_inNameAlphabet {c : Char} (allowed : InNameAlphabet c) : c.utf8Size = 1 := by
  have below : ∀ last : Char, last.val ≤ 127 → c ≤ last → c.utf8Size = 1 := by
    intro last ascii ordered
    have inside : c.val ≤ 127 := UInt32.le_trans ordered ascii
    exact Char.utf8Size_eq_one_iff.mpr inside
  rcases allowed with ⟨-, upper⟩ | ⟨-, lower⟩ | ⟨-, digit⟩ | rfl | rfl
  · exact below 'Z' (by decide) upper
  · exact below 'z' (by decide) lower
  · exact below '9' (by decide) digit
  · decide
  · decide

theorem utf8ByteSize_eq_sum (text : String) :
    text.utf8ByteSize = (text.toList.map Char.utf8Size).sum := by
  have size : text.utf8ByteSize = (bytes text).length := rfl
  rw [size, bytes_eq_flatMap, List.length_flatMap]
  simp only [String.length_utf8EncodeChar]

theorem length_le_utf8ByteSize (text : String) : text.length ≤ text.utf8ByteSize := by
  rw [utf8ByteSize_eq_sum, ← String.length_toList]
  induction text.toList with
  | nil => exact Nat.le_refl 0
  | cons c rest ih =>
    have some := c.utf8Size_pos
    simp only [List.length_cons, List.map_cons, List.sum_cons]
    omega

theorem utf8ByteSize_eq_length {text : String} (single : ∀ c ∈ text.toList, c.utf8Size = 1) :
    text.utf8ByteSize = text.length := by
  rw [utf8ByteSize_eq_sum, ← String.length_toList]
  generalize text.toList = characters at single
  induction characters with
  | nil => rfl
  | cons c rest ih =>
    have first := single c List.mem_cons_self
    have others := ih fun d member => single d (List.mem_cons_of_mem c member)
    simp only [List.length_cons, List.map_cons, List.sum_cons]
    omega

/-- The length in characters and the length in bytes draw the same line. -/
theorem checkName_ok_iff (limit : Nat) (name : String) :
    checkName limit name = .ok () ↔ IsName limit name := by
  have characters := length_le_utf8ByteSize name
  have empty : name.isEmpty = true ↔ name.length = 0 := by
    rw [String.isEmpty_iff, String.length_eq_zero_iff]
  have alphabet : name.toList.all isNameChar = true ↔ ∀ c ∈ name.toList, InNameAlphabet c := by
    simp only [List.all_eq_true, isNameChar_iff]
  unfold checkName IsName
  constructor
  · intro accepted
    split at accepted
    · cases accepted
    · rename_i filled
      split at accepted
      · cases accepted
      · split at accepted
        · rename_i allowed
          rw [empty] at filled
          exact ⟨by omega, by omega, alphabet.mp allowed⟩
        · cases accepted
  · rintro ⟨filled, short, allowed⟩
    have single := utf8ByteSize_eq_length fun c member =>
      utf8Size_of_inNameAlphabet (allowed c member)
    rw [if_neg (by rw [empty]; omega), if_neg (by omega), if_pos (alphabet.mpr allowed)]

theorem NameFault.message_inj {first second : NameFault} :
    first.message = second.message ↔ first = second := by
  constructor
  · cases first <;> cases second <;> simp [NameFault.message]
  · rintro rfl
    rfl

theorem checkName_error {limit : Nat} {name : String} {fault : NameFault}
    (rejected : checkName limit name = .error fault) :
    (fault = .empty ↔ name = "") ∧
    (fault = .tooLong ↔ name ≠ "" ∧ limit < name.utf8ByteSize) ∧
    (fault = .forbiddenCharacter ↔ name ≠ "" ∧ name.utf8ByteSize ≤ limit) := by
  have empty : name.isEmpty = true ↔ name = "" := String.isEmpty_iff
  unfold checkName at rejected
  split at rejected
  · rename_i none
    rw [empty] at none
    cases rejected
    simp [none]
  · rename_i filled
    rw [empty] at filled
    split at rejected
    · rename_i long
      cases rejected
      simp [filled, long]
    · rename_i short
      have inside : name.utf8ByteSize ≤ limit := by omega
      split at rejected
      · cases rejected
      · cases rejected
        simp [filled, inside]

/-- A controller accepts the documented names and no others, and says why where it does not. -/
theorem Settings.checkName_accepts_documented_names (settings : Settings) (name : String) :
    (settings.checkName name = .ok () ↔ IsName settings.maxNameLength name) ∧
    ∀ error, settings.checkName name = .error error →
      ∃ fault, error = .invalidName name fault ∧
        (fault.message = "name is empty" ↔ name = "") ∧
        (fault.message = "name is too long" ↔
          name ≠ "" ∧ settings.maxNameLength < name.utf8ByteSize) ∧
        (fault.message = "name may only contain alphanumerics, '-' and '.'" ↔
          name ≠ "" ∧ name.utf8ByteSize ≤ settings.maxNameLength) := by
  have accepted := checkName_ok_iff settings.maxNameLength name
  unfold Settings.checkName
  cases checked : StreamCatalog.checkName settings.maxNameLength name with
  | ok _ =>
    rw [checked] at accepted
    exact ⟨⟨fun _ => accepted.mp rfl, fun _ => rfl⟩, nofun⟩
  | error fault =>
    rw [checked] at accepted
    have rejected : ¬ IsName settings.maxNameLength name := fun fits => nomatch accepted.mpr fits
    refine ⟨⟨nofun, fun fits => absurd fits rejected⟩, ?_⟩
    intro error same
    cases same
    have ⟨empty, tooLong, forbidden⟩ := checkName_error checked
    refine ⟨fault, rfl, ?_, ?_, ?_⟩
    · rw [← empty, ← NameFault.message_inj]
      rfl
    · rw [← tooLong, ← NameFault.message_inj]
      rfl
    · rw [← forbidden, ← NameFault.message_inj]
      rfl

theorem Settings.checkName_accepts_documented_names_of_two_bytes :
    Settings.checkName { maxNameLength := 1 } "é" = .error (.invalidName "é" .tooLong) ∧
    ¬ IsName 1 "é" ∧ "é".length = 1 ∧ 1 < "é".utf8ByteSize := by
  have rejected : Settings.checkName { maxNameLength := 1 } "é" =
      .error (.invalidName "é" .tooLong) := by rfl
  have ⟨accepted, reasons⟩ :=
    Settings.checkName_accepts_documented_names { maxNameLength := 1 } "é"
  obtain ⟨fault, same, -, tooLong, -⟩ := reasons _ rejected
  cases same
  refine ⟨rejected, ?_, by rfl, (tooLong.mp rfl).2⟩
  intro fits
  exact nomatch rejected.symm.trans (accepted.mpr fits)

end StreamCatalog
