import ProxyTunnel.Settings.Path

/-!
What is in lower case stays as it is, and a name in lower case is still a name and has no new marks.
-/

set_option autoImplicit false

namespace ProxyTunnel

namespace Text

theorem lower_code (c : Char) (other : c ≠ '\u212A') :
    (lowerChar c).toNat = if 65 ≤ c.toNat ∧ c.toNat ≤ 90 then c.toNat + 32 else c.toNat := by
  have upper : (c.val ≥ 'A'.val ∧ c.val ≤ 'Z'.val) ↔ 65 ≤ c.toNat ∧ c.toNat ≤ 90 := by
    rw [ge_iff_le, UInt32.le_iff_toNat_le, UInt32.le_iff_toNat_le]
    exact Iff.rfl
  rw [lowerChar, if_neg other]
  unfold Char.toLower
  by_cases capital : c.val ≥ 'A'.val ∧ c.val ≤ 'Z'.val
  · have within := upper.mp capital
    have sum : (c.val + ('a'.val - 'A'.val)).toNat = (c.toNat + 32) % 4294967296 :=
      UInt32.toNat_add _ _
    rw [dif_pos capital, if_pos within]
    exact sum.trans (Nat.mod_eq_of_lt (by omega))
  · rw [dif_neg capital, if_neg (mt upper.mpr capital)]

theorem lower_char_twice (c : Char) : lowerChar (lowerChar c) = lowerChar c := by
  by_cases kelvin : c = '\u212A'
  · subst kelvin
    decide
  · have code := lower_code c kelvin
    have other : lowerChar c ≠ '\u212A' := by
      intro same
      have sign : ('\u212A' : Char).toNat = 8490 := rfl
      have apart : c.toNat ≠ 8490 := fun equal => kelvin (Char.toNat_inj.mp (equal.trans sign.symm))
      rw [same, sign] at code
      split at code <;> omega
    have again := lower_code _ other
    refine Char.toNat_inj.mp (again.trans (if_neg ?_))
    rw [code]
    split <;> omega

theorem lower_kept_iff (text : String) :
    lower text = text ↔ ∀ c ∈ text.toList, lowerChar c = c := by
  rw [lower, ← String.toList_inj, String.toList_ofList]
  constructor
  · intro kept
    exact List.map_inj_left.mp (kept.trans (List.map_id _).symm)
  · intro kept
    exact (List.map_congr_left kept).trans (List.map_id _)

theorem lower_twice (text : String) : lower (lower text) = lower text := by
  rw [lower_kept_iff, lower, String.toList_ofList]
  intro c member
  obtain ⟨d, _, rfl⟩ := List.mem_map.mp member
  exact lower_char_twice d

theorem lower_mark (c mark : Char) (marks : mark = '.' ∨ mark = '[')
    (same : lowerChar c = mark) : c = mark := by
  by_cases kelvin : c = '\u212A'
  · subst kelvin
    rcases marks with rfl | rfl <;> exact absurd same (by decide)
  · have code := lower_code c kelvin
    rw [same] at code
    refine Char.toNat_inj.mp ?_
    rcases marks with rfl | rfl
    · have sign : '.'.toNat = 46 := rfl
      split at code <;> omega
    · have sign : '['.toNat = 91 := rfl
      split at code <;> omega

theorem lower_unmarked (text : String) (mark : Char) (marks : mark = '.' ∨ mark = '[')
    (absent : mark ∉ text.toList) : mark ∉ (lower text).toList := by
  rw [lower, String.toList_ofList]
  intro member
  obtain ⟨c, inside, same⟩ := List.mem_map.mp member
  exact absent (lower_mark c mark marks same ▸ inside)

end Text

namespace Path

theorem name_char_iff (c : Char) : isNameChar c = true ↔
    (65 ≤ c.toNat ∧ c.toNat ≤ 90) ∨ (97 ≤ c.toNat ∧ c.toNat ≤ 122) ∨
      (48 ≤ c.toNat ∧ c.toNat ≤ 57) ∨ c = '_' ∨ c = '-' ∨ c = ' ' := by
  unfold isNameChar Char.isAlphanum Char.isAlpha Char.isUpper Char.isLower Char.isDigit
  simp only [UInt32.le_iff_toNat_le, Bool.or_eq_true, Bool.and_eq_true, decide_eq_true_eq,
    beq_iff_eq, ge_iff_le, or_assoc]
  exact Iff.rfl

theorem name_char_lower (c : Char) (plain : isNameChar c) : isNameChar (Text.lowerChar c) := by
  rw [name_char_iff] at plain ⊢
  have code := Text.lower_code c (by rintro rfl; revert plain; decide)
  by_cases capital : 65 ≤ c.toNat ∧ c.toNat ≤ 90
  · rw [if_pos capital] at code
    omega
  · rw [if_neg capital] at code
    rw [Char.toNat_inj.mp code]
    exact plain

end Path

end ProxyTunnel
