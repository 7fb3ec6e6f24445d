import Mathlib.Data.List.TakeWhile
import ProxyTunnel.Proofs.Text.Digits

/-!
The texts that limit the time for a response: white space, perhaps a plus sign, a number of
milliseconds in decimal, white space. Every other text sets no limit.
-/

set_option autoImplicit false

namespace ProxyTunnel

namespace Text

theorem trim_within (cs : List Char) : ∃ before after,
    cs = before ++ trim cs ++ after ∧ ∀ c ∈ before ++ after, isBlank c = true := by
  let front := cs.takeWhile isBlank
  let back := ((cs.dropWhile isBlank).reverse.takeWhile isBlank).reverse
  have kept : trim cs ++ back = cs.dropWhile isBlank := by
    rw [trim, ← List.reverse_append, List.takeWhile_append_dropWhile, List.reverse_reverse]
  refine ⟨front, back, ?_, fun c member => ?_⟩
  · rw [List.append_assoc, kept, List.takeWhile_append_dropWhile]
  · rcases List.mem_append.mp member with first | last
    · exact List.mem_takeWhile_imp first
    · exact List.mem_takeWhile_imp (List.mem_reverse.mp last)

theorem drop_blank (before cs : List Char) (blank : ∀ c ∈ before, isBlank c = true)
    (filled : cs ≠ []) (plain : ∀ c ∈ cs, isBlank c = false) (after : List Char) :
    (before ++ cs ++ after).dropWhile isBlank = cs ++ after := by
  rw [List.append_assoc, List.dropWhile_append_of_pos blank]
  cases cs with
  | nil => exact absurd rfl filled
  | cons c cs => exact List.dropWhile_cons_of_neg (by simp [plain c List.mem_cons_self])

theorem trim_around (before cs after : List Char)
    (blank : ∀ c ∈ before ++ after, isBlank c = true) (filled : cs ≠ [])
    (plain : ∀ c ∈ cs, isBlank c = false) : trim (before ++ cs ++ after) = cs := by
  obtain ⟨front, back⟩ := List.forall_mem_append.mp blank
  have turned := drop_blank after.reverse cs.reverse (by simpa using back) (by simpa using filled)
    (by simpa using plain) []
  rw [List.append_nil, List.append_nil, ← List.reverse_append] at turned
  rw [trim, drop_blank before cs front filled plain, turned, List.reverse_reverse]

end Text

namespace Decimal

theorem signed_iff (cs : List Char) (n : Nat) : readSigned? cs = some n ↔
    ∃ sign digits, cs = sign ++ digits ∧ (sign = [] ∨ sign = ['+']) ∧ Counts digits n := by
  constructor
  · intro number
    rw [readSigned?.eq_def] at number
    split at number
    · exact ⟨['+'], _, rfl, .inr rfl, (read_iff _ n).mp number⟩
    · exact ⟨[], _, rfl, .inl rfl, (read_iff _ n).mp number⟩
  · rintro ⟨sign, digits, rfl, rfl | rfl, counts⟩
    · exact read_signed digits n ((read_iff digits n).mpr counts)
    · exact (read_iff digits n).mpr counts

end Decimal

namespace Settings

-- The grammar of a limit in milliseconds.
structure Limits (text : String) (n : Nat) : Prop where
  spelled : ∃ before sign digits after, text.toList = before ++ (sign ++ digits) ++ after ∧
    (∀ c ∈ before ++ after, Text.isBlank c = true) ∧ (sign = [] ∨ sign = ['+']) ∧
    Decimal.Counts digits n
  positive : 1 ≤ n
  bounded : n ≤ 2 ^ 64 - 1

theorem signed_plain (sign digits : List Char) (n : Nat) (signed : sign = [] ∨ sign = ['+'])
    (counts : Decimal.Counts digits n) :
    sign ++ digits ≠ [] ∧ ∀ c ∈ sign ++ digits, Text.isBlank c = false := by
  refine ⟨List.append_ne_nil_of_right_ne_nil sign counts.filled, ?_⟩
  refine List.forall_mem_append.mpr ⟨?_, fun c member => ?_⟩
  · have plus : Text.isBlank '+' = false := by decide
    rcases signed with rfl | rfl
    · simp
    · simpa using plus
  · exact Text.blank_digit c ((Decimal.digit_iff c).mpr (counts.ascii c member))

theorem budget_iff (text : String) (limit : Duration) :
    budgetOf text = some limit ↔ ∃ n, Limits text n ∧ limit = .ofMillis n := by
  constructor
  · intro given
    rw [budgetOf] at given
    cases number : Decimal.readSigned? (Text.trim text.toList) with
    | none => simp [number] at given
    | some n =>
        simp only [number, Option.ite_none_right_eq_some, Option.some.injEq] at given
        obtain ⟨⟨positive, bounded⟩, same⟩ := given
        obtain ⟨before, after, split, blank⟩ := Text.trim_within text.toList
        obtain ⟨sign, digits, core, signed, counts⟩ := (Decimal.signed_iff _ n).mp number
        rw [core] at split
        exact ⟨n, ⟨⟨before, sign, digits, after, split, blank, signed, counts⟩, positive,
          bounded⟩, same.symm⟩
  · rintro ⟨n, ⟨spelled, positive, bounded⟩, rfl⟩
    obtain ⟨before, sign, digits, after, split, blank, signed, counts⟩ := spelled
    obtain ⟨filled, plain⟩ := signed_plain sign digits n signed counts
    have number := (Decimal.signed_iff _ n).mpr ⟨sign, digits, rfl, signed, counts⟩
    rw [budgetOf, split, Text.trim_around before _ after blank filled plain, number]
    exact if_pos ⟨positive, bounded⟩

end Settings

end ProxyTunnel
