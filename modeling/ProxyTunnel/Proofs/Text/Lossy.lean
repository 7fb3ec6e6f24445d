import Mathlib.Algebra.Ring.Nat
import ProxyTunnel.Proofs.Text.Utf8

/-!
What a text shows of bytes that may be ill-formed. A character below 0x80 in it stands for a byte of
its own: no longer sequence spells one, and a broken run does not become one.
-/

set_option autoImplicit false

namespace ProxyTunnel.Utf8

-- The least code that a character can have after the bytes that have been seen of it.
def Pending.least (p : Pending) : Nat :=
  (p.bits * 64 + (p.next.low.toNat - 0x80)) * 64 ^ p.later.length

-- A sequence of several bytes never spells what a single byte does.
structure Pending.Long (p : Pending) : Prop where
  least : 0x80 ≤ p.least
  later : ∀ range ∈ p.later, range = tail

theorem two_long (n : Nat) (low : 0xC2 ≤ n) (seen : Bytes) :
    Pending.Long ⟨seen, n - 0xC0, tail, []⟩ := by
  refine ⟨?_, by simp⟩
  have start : tail.low.toNat = 0x80 := rfl
  simp only [Pending.least, List.length_nil, start]
  omega

theorem three_long (n : Nat) (low : 0xE0 ≤ n) (seen : Bytes) :
    Pending.Long ⟨seen, n - 0xE0, second n, [tail]⟩ := by
  refine ⟨?_, by simp⟩
  simp only [Pending.least, List.length_cons, List.length_nil, second_low]
  split
  · omega
  · split <;> omega

theorem four_long (n : Nat) (low : 0xF0 ≤ n) (seen : Bytes) :
    Pending.Long ⟨seen, n - 0xF0, second n, [tail, tail]⟩ := by
  refine ⟨?_, by simp⟩
  simp only [Pending.least, List.length_cons, List.length_nil, second_low]
  split
  · omega
  · split <;> omega

theorem lead_cases (b : UInt8) : (lead b = .char (Char.ofNat b.toNat) ∧ b.toNat < 0x80) ∨
    lead b = .stray ∨ ∃ p, lead b = .pending p ∧ p.Long := by
  obtain ⟨n, small, rfl⟩ : ∃ n, n < 256 ∧ UInt8.ofNat n = b :=
    ⟨b.toNat, b.toNat_lt, UInt8.ofNat_toNat⟩
  rw [code_byte n small]
  by_cases one : n < 0x80
  · exact .inl ⟨lead_one n one, one⟩
  · by_cases before : n < 0xC2
    · refine .inr (.inl ?_)
      simp only [lead, code_byte n small, if_neg one, if_pos before]
    · by_cases two : n < 0xE0
      · exact .inr (.inr ⟨_, lead_two n (by omega) two, two_long n (by omega) _⟩)
      · by_cases three : n < 0xF0
        · exact .inr (.inr ⟨_, lead_three n (by omega) three, three_long n (by omega) _⟩)
        · by_cases four : n < 0xF5
          · exact .inr (.inr ⟨_, lead_four n (by omega) four, four_long n (by omega) _⟩)
          · refine .inr (.inl ?_)
            simp only [lead, code_byte n small]
            repeat' rw [if_neg (by omega)]

theorem long_ends (p : Pending) (b : UInt8) (long : p.Long) (low : p.next.low ≤ b)
    (last : p.later = []) : 0x80 ≤ p.bits * 64 + (b.toNat - 0x80) := by
  have least := long.least
  rw [UInt8.le_iff_toNat_le] at low
  simp only [Pending.least, last, List.length_nil] at least
  omega

theorem long_goes_on (p : Pending) (b : UInt8) (next : Range) (later : List Range) (long : p.Long)
    (low : p.next.low ≤ b) (more : p.later = next :: later) (seen : Bytes) :
    Pending.Long ⟨seen, p.bits * 64 + (b.toNat - 0x80), next, later⟩ := by
  have ranges := long.later
  rw [more, List.forall_mem_cons] at ranges
  obtain ⟨rfl, ranges⟩ := ranges
  refine ⟨?_, ranges⟩
  have least := long.least
  rw [UInt8.le_iff_toNat_le] at low
  have start : tail.low.toNat = 0x80 := rfl
  simp only [Pending.least, more, List.length_cons, start] at least ⊢
  calc 0x80 ≤ _ := least
    _ = (p.bits * 64 + (p.next.low.toNat - 0x80)) * 64 * 64 ^ later.length := by
      rw [Nat.pow_succ', Nat.mul_assoc]
    _ ≤ _ := Nat.mul_le_mul_right _ (by omega)

theorem char_code (n : Nat) (valid : n.isValidChar) : (Char.ofNat n).toNat = n := by
  rw [Char.ofNat, dif_pos valid]
  rfl

-- A code that no character has gives the NUL.
theorem short_code (n : Nat) (c : Char) (same : Char.ofNat n = c) (short : c.toNat < 0x80)
    (shown : c ≠ '\x00') : n < 0x80 := by
  subst same
  by_cases valid : n.isValidChar
  · rwa [char_code n valid] at short
  · exact absurd (dif_neg valid) shown

theorem pending_breaks (p : Pending) (b : UInt8) (rest : Bytes)
    (outside : ¬ (p.next.low ≤ b ∧ b ≤ p.next.high)) :
    piecesFrom (some p) (b :: rest) = .broken p.seen :: piecesFrom none (b :: rest) := by
  simp only [piecesFrom, if_neg outside]

-- Below 0x80 only the NUL can be a character without a byte of its own.
theorem pieces_short (c : Char) (short : c.toNat < 0x80) (shown : c ≠ '\x00') (bytes : Bytes)
    (pending : Option Pending) (long : ∀ p ∈ pending, p.Long)
    (held : .char c ∈ piecesFrom pending bytes) : UInt8.ofNat c.toNat ∈ bytes := by
  induction bytes generalizing pending with
  | nil => cases pending <;> simp [piecesFrom] at held
  | cons b rest later =>
      have afresh (held : .char c ∈ piecesFrom none (b :: rest)) :
          UInt8.ofNat c.toNat ∈ b :: rest := by
        obtain ⟨char, one⟩ | stray | ⟨p, open', long⟩ := lead_cases b
        · simp only [piecesFrom, char, List.mem_cons, Piece.char.injEq] at held
          rcases held with rfl | held
          · rw [char_code b.toNat (.inl (by omega)), UInt8.ofNat_toNat]
            exact List.mem_cons_self
          · exact List.mem_cons_of_mem _ (later none (by simp) held)
        · simp only [piecesFrom, stray, List.mem_cons, reduceCtorEq, false_or] at held
          exact List.mem_cons_of_mem _ (later none (by simp) held)
        · simp only [piecesFrom, open'] at held
          exact List.mem_cons_of_mem _ (later (some p) (by simpa using long) held)
      cases pending with
      | none => exact afresh held
      | some p =>
          have long := long p rfl
          by_cases within : p.next.low ≤ b ∧ b ≤ p.next.high
          · cases more : p.later with
            | nil =>
                simp only [piecesFrom, if_pos within, more, List.mem_cons, Piece.char.injEq] at held
                rcases held with same | held
                · have low := short_code _ c same.symm short shown
                  have high := long_ends p b long within.1 more
                  omega
                · exact List.mem_cons_of_mem _ (later none (by simp) held)
            | cons next ranges =>
                simp only [piecesFrom, if_pos within, more] at held
                have goes := long_goes_on p b next ranges long within.1 more (p.seen ++ [b])
                exact List.mem_cons_of_mem _ (later (some _) (by simpa using goes) held)
          · rw [pending_breaks p b rest within, List.mem_cons] at held
            exact afresh (held.resolve_left (by simp))

theorem lossy_byte (bytes : Bytes) (b : UInt8) (short : b.toNat < 0x80) (shown : b ≠ 0)
    (held : b ∈ encode (lossy bytes)) : b ∈ bytes := by
  have code : (Char.ofNat b.toNat).toNat = b.toNat := char_code b.toNat (.inl (by omega))
  have other : Char.ofNat b.toNat ≠ '\x00' := by
    intro same
    rw [same] at code
    exact shown (UInt8.toNat_inj.mp code.symm)
  have spelled := plain_byte (lossy bytes) b short held
  simp only [lossy, String.toList_ofList, List.mem_map] at spelled
  obtain ⟨piece, inside, same⟩ := spelled
  cases piece with
  | char c =>
      cases same
      have own := pieces_short _ (by omega) other bytes none (by simp) inside
      rwa [code, UInt8.ofNat_toNat] at own
  | broken run =>
      have large : 0xFFFD = b.toNat := (congrArg Char.toNat same).trans code
      omega

-- Only bytes that spell a text are shown as they are.
theorem lossy_same_iff (bytes : Bytes) :
    encode (lossy bytes) = bytes ↔ (decode? bytes).isSome = true := by
  constructor
  · intro same
    rw [← same, decode_encode]
    rfl
  · intro spelled
    obtain ⟨text, spelled⟩ := Option.isSome_iff_exists.mp spelled
    rw [← decode_spells bytes text spelled, lossy_encode]

end ProxyTunnel.Utf8
