import Mathlib.Data.List.Induction
import Mathlib.Data.Nat.Digits.Defs
import ProxyTunnel.Proofs.Text.Numeral

/-!
Decimal numerals by the places of their digits. Any number of leading zeros is read; a number has
one numeral without them, which is the one that is written for it.
-/

set_option autoImplicit false

namespace ProxyTunnel.Decimal

-- One ASCII digit or more, each of which counts by its place.
structure Counts (digits : List Char) (n : Nat) : Prop where
  filled : digits ≠ []
  ascii : ∀ c ∈ digits, '0' ≤ c ∧ c ≤ '9'
  places : n = Nat.ofDigits 10 (digits.reverse.map fun c => c.toNat - '0'.toNat)

-- The same without a zero in front of other digits.
structure Numeral (n : Nat) (digits : List Char) : Prop extends Counts digits n where
  short : digits.head? = some '0' → digits = ['0']

theorem digit_iff (c : Char) : c.isDigit = true ↔ '0' ≤ c ∧ c ≤ '9' := by
  rw [Char.isDigit, Bool.and_eq_true, decide_eq_true_iff, decide_eq_true_iff]
  exact Iff.rfl

theorem value_snoc (digits : List Char) (c : Char) :
    value (digits ++ [c]) = 10 * value digits + (c.toNat - '0'.toNat) := by
  rw [value, List.foldl_append]
  rfl

theorem value_places (digits : List Char) :
    value digits = Nat.ofDigits 10 (digits.reverse.map fun c => c.toNat - '0'.toNat) := by
  induction digits using List.reverseRecOn with
  | nil => rfl
  | append_singleton digits c ih =>
      rw [value_snoc, List.reverse_append, List.reverse_singleton, List.singleton_append,
        List.map_cons, Nat.ofDigits_cons, ih, Nat.add_comm]

theorem read_iff (cs : List Char) (n : Nat) : read? cs = some n ↔ Counts cs n := by
  rw [read?, Option.ite_none_right_eq_some, Option.some.injEq, value_places]
  constructor
  · rintro ⟨⟨filled, ascii⟩, same⟩
    exact ⟨filled, fun c member => (digit_iff c).mp (List.all_eq_true.mp ascii c member), same.symm⟩
  · rintro ⟨filled, ascii, same⟩
    exact ⟨⟨filled, List.all_eq_true.mpr fun c member => (digit_iff c).mpr (ascii c member)⟩,
      same.symm⟩

theorem counts_value (digits : List Char) (n : Nat) (counts : Counts digits n) :
    value digits = n := by
  rw [value_places, counts.places]

theorem counts_same (digits : List Char) (n m : Nat) (first : Counts digits n)
    (second : Counts digits m) : n = m := first.places.trans second.places.symm

-- A digit is the sign of what it counts for.
theorem digit_sign (c : Char) (digit : '0' ≤ c ∧ c ≤ '9') :
    c.toNat - '0'.toNat < 10 ∧ [c] = Nat.toDigits 10 (c.toNat - '0'.toNat) := by
  have low : 48 ≤ c.toNat := UInt32.le_iff_toNat_le.mp digit.1
  have high : c.toNat ≤ 57 := UInt32.le_iff_toNat_le.mp digit.2
  have zero : '0'.toNat = 48 := rfl
  have small : c.toNat - '0'.toNat < 10 := by omega
  have code := Nat.toNat_digitChar_of_lt_ten small
  have same : c = Nat.digitChar (c.toNat - '0'.toNat) := Char.toNat_inj.mp (by omega)
  refine ⟨small, ?_⟩
  rw [Nat.toDigits_of_lt_base small, ← same]

-- Digits behind the numeral of a number that is not zero make the numeral of a greater one.
theorem numeral_on (front : Nat) (cs : List Char) (positive : 0 < front)
    (ascii : ∀ c ∈ cs, '0' ≤ c ∧ c ≤ '9') : Nat.toDigits 10 front ++ cs =
      Nat.toDigits 10 (cs.foldl (fun n c => 10 * n + (c.toNat - '0'.toNat)) front) := by
  induction cs generalizing front with
  | nil => exact List.append_nil _
  | cons c cs ih =>
      obtain ⟨digit, ascii⟩ := List.forall_mem_cons.mp ascii
      obtain ⟨small, sign⟩ := digit_sign c digit
      have longer := Nat.toDigits_append_toDigits (by decide : 1 < 10) positive small
      rw [← sign] at longer
      rw [List.foldl_cons, ← ih _ (by omega) ascii, ← longer, List.append_assoc,
        List.singleton_append]

theorem numeral_unique (n : Nat) (digits : List Char) (numeral : Numeral n digits) :
    digits = Nat.toDigits 10 n := by
  rw [← counts_value digits n numeral.toCounts]
  cases digits with
  | nil => exact absurd rfl numeral.filled
  | cons c rest =>
      obtain ⟨digit, ascii⟩ := List.forall_mem_cons.mp numeral.ascii
      by_cases zero : c = '0'
      · subst zero
        rw [numeral.short rfl]
        rfl
      · obtain ⟨_, sign⟩ := digit_sign c digit
        have positive : 0 < c.toNat - '0'.toNat := by
          have low : '0'.toNat ≤ c.toNat := UInt32.le_iff_toNat_le.mp digit.1
          have apart : c.toNat ≠ '0'.toNat := mt Char.toNat_inj.mp zero
          omega
        have longer := numeral_on _ rest positive ascii
        rw [← sign] at longer
        rw [value, List.foldl_cons, Nat.mul_zero, Nat.zero_add, ← longer, List.singleton_append]

theorem unled_digits (n : Nat) : (Nat.toDigits 10 n).head? = some '0' →
    Nat.toDigits 10 n = ['0'] := by
  induction n using Nat.strongRecOn with
  | ind n ih =>
      by_cases small : n < 10
      · rw [Nat.toDigits_of_lt_base small]
        exact fun zero => List.singleton_inj.mpr (Option.some.inj zero)
      · have cut := Nat.toDigits_of_base_le (by decide : 1 < 10) (Nat.le_of_not_lt small)
        obtain ⟨first, more, split⟩ := List.exists_cons_of_ne_nil
          (Nat.toDigits_ne_nil (b := 10) (n := n / 10))
        intro zero
        rw [cut, split] at zero
        have front := ih (n / 10) (by omega) (by rw [split]; exact zero)
        have count : Nat.ofDigitChars 10 (Nat.toDigits 10 (n / 10)) 0 = n / 10 :=
          Nat.ofDigitChars_toDigits (by decide) (by decide)
        rw [front] at count
        have none : 0 = n / 10 := count
        omega

theorem written_numeral (n : Nat) : Numeral n (toString n).toList where
  toCounts := (read_iff _ n).mp (read_numeral n)
  short := numeral_chars n ▸ unled_digits n

theorem numeral_written (n : Nat) (digits : List Char) (numeral : Numeral n digits) :
    digits = (toString n).toList :=
  (numeral_unique n digits numeral).trans (numeral_chars n).symm

end ProxyTunnel.Decimal
