import ProxyTunnel.Settings

/-!
The numeral that is written for a number is read as that number, with nothing to trim from it.
-/

set_option autoImplicit false

namespace ProxyTunnel

theorem Text.blank_digit (c : Char) (digit : c.isDigit = true) : isBlank c = false := by
  have low : 48 ≤ c.toNat := by
    simp only [Char.isDigit, Bool.and_eq_true, decide_eq_true_eq] at digit
    exact UInt32.le_iff_toNat_le.mp digit.1
  have high : c.toNat ≤ 57 := by
    simp only [Char.isDigit, Bool.and_eq_true, decide_eq_true_eq] at digit
    exact UInt32.le_iff_toNat_le.mp digit.2
  have apart : ∀ range ∈ blankRanges, range.2 < 48 ∨ 57 < range.1 := by decide
  refine List.any_eq_false.mpr fun range member blank => ?_
  simp only [Bool.and_eq_true, decide_eq_true_eq] at blank
  have := apart range member
  omega

theorem Text.trim_filled (cs : List Char) (filled : ∀ c ∈ cs, isBlank c = false) :
    trim cs = cs := by
  have kept (cs : List Char) (filled : ∀ c ∈ cs, isBlank c = false) :
      cs.dropWhile isBlank = cs := by
    cases cs with
    | nil => rfl
    | cons c rest => exact List.dropWhile_cons_of_neg (by simp [filled c List.mem_cons_self])
  rw [trim, kept cs filled, kept cs.reverse (by simpa using filled), List.reverse_reverse]

namespace Decimal

theorem numeral_chars (n : Nat) : (toString n).toList = Nat.toDigits 10 n := by
  rw [Nat.toString_eq_repr, Nat.repr, String.toList_ofList]

theorem numeral_digits (n : Nat) : ∀ c ∈ (toString n).toList, c.isDigit = true := by
  intro c member
  rw [numeral_chars] at member
  exact Nat.isDigit_of_mem_toDigits (by decide) (by decide) member

theorem read_numeral (n : Nat) : read? (toString n).toList = some n := by
  have filled : (toString n).toList ≠ [] := by
    rw [numeral_chars]
    exact Nat.toDigits_ne_nil
  have counts : value (toString n).toList = n := by
    rw [numeral_chars]
    exact Nat.ofDigitChars_toDigits (by decide) (by decide)
  rw [read?, if_pos ⟨filled, List.all_eq_true.mpr (numeral_digits n)⟩, counts]

-- What is read as a number has no sign to be skipped.
theorem read_signed (cs : List Char) (n : Nat) (number : read? cs = some n) :
    readSigned? cs = some n := by
  rw [readSigned?]
  · exact number
  · rintro digits rfl
    simp [read?] at number

end Decimal

theorem Settings.budget_numeral (n : Nat) (positive : 1 ≤ n) (bounded : n ≤ maxMillis) :
    budgetOf (toString n) = some (.ofMillis n) := by
  have trimmed : Text.trim (toString n).toList = (toString n).toList :=
    Text.trim_filled _ fun c member => Text.blank_digit c (Decimal.numeral_digits n c member)
  rw [budgetOf, trimmed, Decimal.read_signed _ n (Decimal.read_numeral n)]
  exact if_pos ⟨positive, bounded⟩

end ProxyTunnel
