import ProxyTunnel.Proxy.Request

/-!
What a frame holds of a request: the first bytes of its text, and whether that is all of it. It does
not matter in which pieces the text is written.
-/

set_option autoImplicit false

namespace ProxyTunnel

-- The frame in which a text has been written.
def Frame.holding (text : Bytes) : Frame := ⟨text.take capacity, decide (capacity < text.length)⟩

theorem Frame.holding_write (text piece : Bytes) :
    (holding text).write piece = holding (text ++ piece) := by
  simp only [holding, write, List.length_take, List.length_append]
  by_cases full : capacity < text.length
  · have longer : capacity < text.length + piece.length := by omega
    simp only [full, longer, decide_true, if_true]
    rw [List.take_append_of_le_length (Nat.le_of_lt full)]
  · have short : text.length ≤ capacity := Nat.le_of_not_lt full
    simp only [full, decide_false, Bool.false_eq_true, if_false, Nat.min_eq_right short]
    rw [List.take_of_length_le short, List.take_append, List.take_of_length_le short]
    by_cases fits : piece.length ≤ capacity - text.length
    · rw [if_pos fits, List.take_of_length_le fits]
      simp
      omega
    · rw [if_neg fits]
      simp
      omega

theorem Frame.holding_pieces (pieces : List Bytes) (before : Bytes) :
    pieces.foldl Frame.write (holding before) = holding (before ++ pieces.flatten) := by
  induction pieces generalizing before with
  | nil => simp
  | cons piece pieces rest =>
      rw [List.foldl_cons, holding_write, rest, List.flatten_cons, List.append_assoc]

namespace Request

-- The whole text of a request.
def text (r : Request) : Bytes := (r.pieces.map Utf8.encode).flatten

theorem frame_holds (r : Request) : r.frame = Frame.holding r.text :=
  Frame.holding_pieces (r.pieces.map Utf8.encode) []

theorem truncated_iff (r : Request) : r.truncated = true ↔ 1023 < r.text.length := by
  rw [truncated, frame_holds]
  exact decide_eq_true_iff

theorem bytes_whole (r : Request) (whole : r.truncated = false) :
    r.bytes = r.text ∧ r.text.length ≤ 1023 := by
  have short : r.text.length ≤ 1023 := by
    have within := mt r.truncated_iff.mpr (Bool.eq_false_iff.mp whole)
    omega
  rw [bytes, frame_holds]
  exact ⟨List.take_of_length_le short, short⟩

-- The text of a request, put together in one piece.
def printed (r : Request) : Bytes :=
  Utf8.encode (r.verb ++ " " ++ r.path ++ " HTTP/1.1\r\nHost: " ++ r.host ++ "\r\n\r\n")

theorem text_printed (r : Request) : r.text = r.printed := by
  simp only [text, pieces, printed, List.map_cons, List.map_nil, List.flatten_cons,
    List.flatten_nil, Utf8.encode_append, List.append_assoc, List.append_nil]

-- Written in its six pieces, a request is cut off where it would be if it were written at once.
theorem printed_within (r : Request) :
    r.bytes = r.printed.take (min r.printed.length 1023) ∧
      (r.truncated = true ↔ 1023 < r.printed.length) := by
  rw [← text_printed]
  refine ⟨?_, r.truncated_iff⟩
  calc r.bytes = r.text.take 1023 := by rw [bytes, frame_holds]; rfl
    _ = r.text.take (min r.text.length 1023) := by
      rw [Nat.min_comm, ← List.take_eq_take_min]

end Request

end ProxyTunnel
