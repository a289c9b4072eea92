import Mathlib.Algebra.Group.Nat.Defs
import Mathlib.Data.List.Induction
import DocumentFilter.Text.Decimal

/-!
# Reading what has been written

The digits of a number denote the number, with and without leading zeros.
-/

namespace DocumentFilter
namespace Decimal

theorem isNumeral_of_digits {digits : List Char} (hne : digits ≠ [])
    (h : ∀ c ∈ digits, c.isDigit = true) : isNumeral digits = true := by
  simp only [isNumeral, Bool.and_eq_true, List.all_eq_true]
  exact ⟨by simpa using hne, h⟩

theorem nat?_of_digits {digits : List Char} (hne : digits ≠ [])
    (h : ∀ c ∈ digits, c.isDigit = true) : nat? digits = some (value digits) := by
  rw [nat?, if_pos (isNumeral_of_digits hne h)]

/-! ## Without leading zeros -/

theorem value_natText (n : Nat) : value (natText n) = n :=
  Nat.ofDigitChars_toDigits (by decide) (by decide)

theorem isDigit_of_mem_natText {n : Nat} {c : Char} (h : c ∈ natText n) : c.isDigit = true :=
  Nat.isDigit_of_mem_toDigits (by decide) (by decide) h

theorem natText_ne_nil (n : Nat) : natText n ≠ [] := Nat.toDigits_ne_nil

/-- A number is read from its digits. -/
theorem nat?_natText (n : Nat) : nat? (natText n) = some n := by
  rw [nat?_of_digits (natText_ne_nil n) fun _ hc => isDigit_of_mem_natText hc, value_natText]

/-! ## With leading zeros -/

theorem isDigit_digit {d : Nat} (h : d < 10) : (digit d).isDigit = true := by
  revert d
  decide

theorem toNat_digit {d : Nat} (h : d < 10) : (digit d).toNat - '0'.toNat = d := by
  revert d
  decide

theorem isDigit_of_mem_padded {width n : Nat} {c : Char} (h : c ∈ padded width n) :
    c.isDigit = true := by
  induction width generalizing n with
  | zero => cases h
  | succ width ih =>
      rw [padded] at h
      obtain hfront | hlast := List.mem_append.mp h
      · exact ih hfront
      · obtain rfl := List.mem_singleton.mp hlast
        exact isDigit_digit (Nat.mod_lt n (by decide))

theorem value_concat (digits : List Char) (c : Char) :
    value (digits ++ [c]) = 10 * value digits + (c.toNat - '0'.toNat) := by
  rw [value, List.foldl_append]
  rfl

theorem value_padded (width n : Nat) : value (padded width n) = n % 10 ^ width := by
  induction width generalizing n with
  | zero => exact (Nat.mod_one n).symm
  | succ width ih =>
      rw [padded, value_concat, ih, toNat_digit (Nat.mod_lt n (by decide)), Nat.pow_succ',
        Nat.mod_mul, Nat.add_comm]

theorem digit_toNat {c : Char} (hc : c.isDigit = true) :
    c.toNat - '0'.toNat < 10 ∧ digit (c.toNat - '0'.toNat) = c := by
  obtain ⟨hleast, hgreatest⟩ := Char.isDigit_iff_toNat.mp hc
  have hnine : '9'.toNat = '0'.toNat + 9 := rfl
  refine ⟨by omega, ?_⟩
  rw [digit, Nat.add_sub_cancel' hleast, Char.ofNat_toNat]

theorem value_lt {digits : List Char} (h : ∀ c ∈ digits, c.isDigit = true) :
    value digits < 10 ^ digits.length := by
  induction digits using List.reverseRecOn with
  | nil => decide
  | append_singleton digits c ih =>
      obtain ⟨hdigits, hc⟩ := List.forall_mem_append.mp h
      have hlast := (digit_toNat (hc c List.mem_cons_self)).1
      have hvalue := ih hdigits
      rw [value_concat, List.length_append, List.length_singleton, Nat.pow_succ]
      omega

/-- The number that digits denote is written with the same digits in a field of their width. -/
theorem padded_value {digits : List Char} (h : ∀ c ∈ digits, c.isDigit = true) :
    padded digits.length (value digits) = digits := by
  induction digits using List.reverseRecOn with
  | nil => rfl
  | append_singleton digits c ih =>
      obtain ⟨hdigits, hc⟩ := List.forall_mem_append.mp h
      obtain ⟨hlast, hdigit⟩ := digit_toNat (hc c List.mem_cons_self)
      rw [value_concat, List.length_append, List.length_singleton, padded,
        Nat.mul_add_div (by decide), Nat.div_eq_of_lt hlast, Nat.add_zero, Nat.mul_add_mod,
        Nat.mod_eq_of_lt hlast, hdigit, ih hdigits]

/-- Digits without a sign are read as the number that they denote. -/
theorem signed64?_of_digits {digits : List Char} (hne : digits ≠ [])
    (h : ∀ c ∈ digits, c.isDigit = true) (hvalue : value digits ≤ maxSigned64) :
    signed64? digits = some (value digits : Int) := by
  have hnat := nat?_of_digits hne h
  unfold signed64?
  split
  · exact absurd (h '-' List.mem_cons_self) (by decide)
  · exact absurd (h '+' List.mem_cons_self) (by decide)
  · simp [hnat, hvalue]

end Decimal
end DocumentFilter
