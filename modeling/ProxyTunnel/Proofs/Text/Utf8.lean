import ProxyTunnel.Text.Utf8

/-!
A text that is spelled in UTF-8 and cut into characters again is the same text, and its bytes below
0x80 are characters of their own.
-/

set_option autoImplicit false

namespace ProxyTunnel.Utf8

theorem encode_chars (text : String) : encode text = text.toList.flatMap String.utf8EncodeChar := by
  have spelled : text.toByteArray = (text.toList.flatMap String.utf8EncodeChar).toByteArray := by
    rw [← String.utf8Encode_toList]
    rfl
  rw [encode, spelled]
  simp

theorem decode_spells (bytes : Bytes) (text : String) (decoded : decode? bytes = some text) :
    encode text = bytes := by
  unfold decode? String.fromUTF8? at decoded
  split at decoded
  · cases decoded
    simp [encode, String.fromUTF8]
  · cases decoded

theorem encode_inj (text other : String) (same : encode text = encode other) : text = other := by
  have decoded := congrArg decode? same
  rw [decode_encode, decode_encode] at decoded
  exact Option.some.inj decoded

theorem encode_empty (text : String) : encode text = [] ↔ text = "" := by
  constructor
  · exact fun none => encode_inj text "" none
  · rintro rfl
    rfl

theorem code_byte (n : Nat) (small : n < 256) : (UInt8.ofNat n).toNat = n :=
  UInt8.toNat_ofNat_of_lt' small

-- The first bytes of characters of one byte and of two, three and four bytes.
theorem lead_one (n : Nat) (short : n < 0x80) : lead (UInt8.ofNat n) = .char (Char.ofNat n) := by
  simp only [lead, code_byte n (by omega), if_pos short]

theorem lead_two (n : Nat) (low : 0xC2 ≤ n) (high : n < 0xE0) :
    lead (UInt8.ofNat n) = .pending ⟨[UInt8.ofNat n], n - 0xC0, tail, []⟩ := by
  simp only [lead, code_byte n (by omega)]
  rw [if_neg (by omega), if_neg (by omega), if_pos high]

-- The range of the second byte rules out overlong forms, surrogates and values that are too large.
def secondLow (n : Nat) : UInt8 := if n = 0xE0 then 0xA0 else if n = 0xF0 then 0x90 else 0x80

def secondHigh (n : Nat) : UInt8 := if n = 0xED then 0x9F else if n = 0xF4 then 0x8F else 0xBF

def second (n : Nat) : Range := ⟨secondLow n, secondHigh n⟩

theorem lead_three (n : Nat) (low : 0xE0 ≤ n) (high : n < 0xF0) :
    lead (UInt8.ofNat n) = .pending ⟨[UInt8.ofNat n], n - 0xE0, second n, [tail]⟩ := by
  simp only [lead, code_byte n (by omega)]
  rw [if_neg (by omega), if_neg (by omega), if_neg (by omega)]
  by_cases first : n = 0xE0
  · subst n
    rfl
  · by_cases surrogate : n = 0xED
    · subst n
      rfl
    · rw [if_neg first, if_neg surrogate, if_pos high]
      have range : second n = tail := by
        rw [second, secondLow, secondHigh, if_neg first, if_neg surrogate, if_neg (by omega), if_neg (by omega)]
        rfl
      rw [range]

theorem lead_four (n : Nat) (low : 0xF0 ≤ n) (high : n < 0xF5) :
    lead (UInt8.ofNat n) = .pending ⟨[UInt8.ofNat n], n - 0xF0, second n, [tail, tail]⟩ := by
  obtain rfl | rfl | rfl | rfl | rfl : n = 0xF0 ∨ n = 0xF1 ∨ n = 0xF2 ∨ n = 0xF3 ∨ n = 0xF4 := by omega
  all_goals rfl

theorem pending_takes (p : Pending) (n : Nat) (rest : Bytes) (small : n < 256)
    (low : p.next.low.toNat ≤ n) (high : n ≤ p.next.high.toNat) :
    piecesFrom (some p) (UInt8.ofNat n :: rest) =
      match p.later with
      | [] => .char (Char.ofNat (p.bits * 64 + (n - 0x80))) :: piecesFrom none rest
      | next :: later =>
          piecesFrom (some ⟨p.seen ++ [UInt8.ofNat n], p.bits * 64 + (n - 0x80), next, later⟩)
            rest := by
  have value := code_byte n small
  have within : p.next.low ≤ UInt8.ofNat n ∧ UInt8.ofNat n ≤ p.next.high := by
    rw [UInt8.le_iff_toNat_le, UInt8.le_iff_toNat_le, value]
    exact ⟨low, high⟩
  cases found : p.later with
  | nil => simp only [piecesFrom, if_pos within, value, found]
  | cons next later => simp only [piecesFrom, if_pos within, value, found]

theorem tail_takes (seen : Bytes) (bits n : Nat) (later : List Range) (rest : Bytes)
    (small : n < 64) : piecesFrom (some ⟨seen, bits, tail, later⟩) (UInt8.ofNat (n + 0x80) :: rest) =
      match later with
      | [] => .char (Char.ofNat (bits * 64 + n)) :: piecesFrom none rest
      | next :: later =>
          piecesFrom (some ⟨seen ++ [UInt8.ofNat (n + 0x80)], bits * 64 + n, next, later⟩) rest := by
  have low : tail.low.toNat = 0x80 := rfl
  have high : tail.high.toNat = 0xBF := rfl
  rw [pending_takes _ _ _ (by omega) (by rw [low]; omega) (by rw [high]; omega)]
  simp only [Nat.add_sub_cancel]

theorem second_low (lead : Nat) : (second lead).low.toNat =
    if lead = 0xE0 then 0xA0 else if lead = 0xF0 then 0x90 else 0x80 := by
  rw [second, secondLow]
  split
  · rfl
  · split <;> rfl

theorem second_high (lead : Nat) : (second lead).high.toNat =
    if lead = 0xED then 0x9F else if lead = 0xF4 then 0x8F else 0xBF := by
  rw [second, secondHigh]
  split
  · rfl
  · split <;> rfl

-- The second byte of a character that is neither overlong nor a surrogate nor too large.
theorem second_takes (seen : Bytes) (lead bits n : Nat) (next : Range) (later : List Range)
    (rest : Bytes) (small : n < 64) (long : lead = 0xE0 → 0x20 ≤ n) (longer : lead = 0xF0 → 0x10 ≤ n)
    (scalar : lead = 0xED → n < 0x20) (limited : lead = 0xF4 → n < 0x10) :
    piecesFrom (some ⟨seen, bits, second lead, next :: later⟩) (UInt8.ofNat (n + 0x80) :: rest) =
      piecesFrom (some ⟨seen ++ [UInt8.ofNat (n + 0x80)], bits * 64 + n, next, later⟩) rest := by
  have low : (second lead).low.toNat ≤ n + 0x80 := by
    rw [second_low]
    split
    · omega
    · split <;> omega
  have high : n + 0x80 ≤ (second lead).high.toNat := by
    rw [second_high]
    split
    · omega
    · split <;> omega
  rw [pending_takes _ _ _ (by omega) low high]
  simp only [Nat.add_sub_cancel]

theorem pieces_two (v : Nat) (rest : Bytes) (low : 0x80 ≤ v) (high : v < 0x800) :
    piecesFrom none (UInt8.ofNat (v / 64 % 0x20 + 0xc0) :: UInt8.ofNat (v % 0x40 + 0x80) :: rest) =
      .char (Char.ofNat v) :: piecesFrom none rest := by
  have value : (v / 64 % 0x20 + 0xc0 - 0xC0) * 64 + v % 0x40 = v := by omega
  rw [piecesFrom, lead_two _ (by omega) (by omega)]
  dsimp only
  rw [tail_takes _ _ _ _ _ (by omega)]
  dsimp only
  rw [value]

theorem pieces_three (v : Nat) (rest : Bytes) (low : 0x800 ≤ v) (high : v < 0x10000)
    (scalar : v < 0xD800 ∨ 0xDFFF < v) :
    piecesFrom none (UInt8.ofNat (v / 4096 % 0x10 + 0xe0) :: UInt8.ofNat (v / 64 % 0x40 + 0x80) ::
      UInt8.ofNat (v % 0x40 + 0x80) :: rest) = .char (Char.ofNat v) :: piecesFrom none rest := by
  have value : ((v / 4096 % 0x10 + 0xe0 - 0xE0) * 64 + v / 64 % 0x40) * 64 + v % 0x40 = v := by omega
  rw [piecesFrom, lead_three _ (by omega) (by omega)]
  dsimp only
  rw [second_takes _ _ _ _ _ _ _ (by omega) (by omega) (by omega) (by omega) (by omega),
    tail_takes _ _ _ _ _ (by omega)]
  dsimp only
  rw [value]

theorem pieces_four (v : Nat) (rest : Bytes) (low : 0x10000 ≤ v) (high : v < 0x110000) :
    piecesFrom none (UInt8.ofNat (v / 262144 % 0x08 + 0xf0) :: UInt8.ofNat (v / 4096 % 0x40 + 0x80) ::
      UInt8.ofNat (v / 64 % 0x40 + 0x80) :: UInt8.ofNat (v % 0x40 + 0x80) :: rest) =
      .char (Char.ofNat v) :: piecesFrom none rest := by
  have value : (((v / 262144 % 0x08 + 0xf0 - 0xF0) * 64 + v / 4096 % 0x40) * 64 +
      v / 64 % 0x40) * 64 + v % 0x40 = v := by omega
  rw [piecesFrom, lead_four _ (by omega) (by omega)]
  dsimp only
  rw [second_takes _ _ _ _ _ _ _ (by omega) (by omega) (by omega) (by omega) (by omega),
    tail_takes _ _ _ _ _ (by omega)]
  dsimp only
  rw [tail_takes _ _ _ _ _ (by omega)]
  dsimp only
  rw [value]

theorem pieces_char (c : Char) (rest : Bytes) :
    piecesFrom none (String.utf8EncodeChar c ++ rest) = .char c :: piecesFrom none rest := by
  have scalar : c.val.toNat < 0xD800 ∨ (0xDFFF < c.val.toNat ∧ c.val.toNat < 0x110000) := c.valid
  have same : Char.ofNat c.val.toNat = c := Char.ofNat_toNat c
  rw [String.utf8EncodeChar]
  generalize c.val.toNat = v at scalar same
  rw [← same]
  by_cases one : v ≤ 0x7f
  · rw [if_pos one, List.singleton_append, piecesFrom, lead_one v (by omega)]
  · rw [if_neg one]
    by_cases two : v ≤ 0x7ff
    · rw [if_pos two]
      exact pieces_two v rest (by omega) (by omega)
    · rw [if_neg two]
      by_cases three : v ≤ 0xffff
      · rw [if_pos three]
        exact pieces_three v rest (by omega) (by omega) (by omega)
      · rw [if_neg three]
        exact pieces_four v rest (by omega) (by omega)

theorem lossy_encode (text : String) : lossy (encode text) = text := by
  have whole : ∀ chars : List Char,
      pieces (chars.flatMap String.utf8EncodeChar) = chars.map Piece.char := by
    intro chars
    induction chars with
    | nil => rfl
    | cons c chars ih => 
      rw [List.flatMap_cons, pieces, pieces_char]
      exact congrArg _ ih
  rw [lossy, encode_chars, whole, List.map_map]
  simp [Function.comp_def]

-- A byte below 0x80 stands for itself.
theorem long_bytes (c : Char) (long : 0x7f < c.val.toNat) :
    ∀ b ∈ String.utf8EncodeChar c, 0x80 ≤ b.toNat := by
  have byte (n : Nat) (high : 0x80 ≤ n) (small : n < 256) : 0x80 ≤ (UInt8.ofNat n).toNat := by
    rwa [code_byte n small]
  rw [String.utf8EncodeChar]
  generalize c.val.toNat = v at long
  simp only [if_neg (Nat.not_le.mpr long)]
  split
  · simp only [List.forall_mem_cons]
    exact ⟨byte _ (by omega) (by omega), byte _ (by omega) (by omega), by simp⟩
  · split
    · simp only [List.forall_mem_cons]
      exact ⟨byte _ (by omega) (by omega), byte _ (by omega) (by omega),
        byte _ (by omega) (by omega), by simp⟩
    · simp only [List.forall_mem_cons]
      exact ⟨byte _ (by omega) (by omega), byte _ (by omega) (by omega),
        byte _ (by omega) (by omega), byte _ (by omega) (by omega), by simp⟩

theorem char_byte (c : Char) (b : UInt8) (held : b ∈ String.utf8EncodeChar c)
    (plain : b.toNat < 0x80) : c = Char.ofNat b.toNat := by
  by_cases short : c.val.toNat ≤ 0x7f
  · rw [String.utf8EncodeChar] at held
    simp only [if_pos short, List.mem_singleton] at held
    rw [held, code_byte _ (by omega)]
    exact (Char.ofNat_toNat c).symm
  · have high := long_bytes c (Nat.not_le.mp short) b held
    omega

theorem plain_byte (text : String) (b : UInt8) (plain : b.toNat < 0x80) (held : b ∈ encode text) :
    Char.ofNat b.toNat ∈ text.toList := by
  rw [encode_chars, List.mem_flatMap] at held
  obtain ⟨c, inside, held⟩ := held
  rw [← char_byte c b held plain]
  exact inside

end ProxyTunnel.Utf8
