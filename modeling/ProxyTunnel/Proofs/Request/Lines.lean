import ProxyTunnel.Proofs.Request.Framing
import ProxyTunnel.Proofs.Response.Block
import ProxyTunnel.Proofs.Text.Utf8

/-!
The question for a name as lines: the request line, one header line that holds the name, and a blank
line. A name without a newline makes exactly these lines, unless it is too long for the frame; then
the blank line is missing.
-/

set_option autoImplicit false

namespace ProxyTunnel.Request

open HeadText

-- A line without the return that may stand before its newline.
def bare (line : Bytes) : Bytes := if line.getLast? = some 13 then line.dropLast else line

-- The lines of a request that asks for a name, and asks for nothing else.
def linesFor (name : String) : List Bytes :=
  [Utf8.encode "RESOLVE * HTTP/1.1", Utf8.encode "Host: " ++ Utf8.encode name, []]

-- The bytes are one request for the name and nothing besides. The last line is the only blank one.
structure AsksFor (name : String) (bytes : Bytes) : Prop where
  lines : (lines bytes).map bare = linesFor name
  closed : openLine bytes = []

-- How many bytes of a name fit into the frame.
def nameLimit : Nat := 993

theorem bare_return (line : Bytes) : bare (line ++ [13]) = line := by simp [bare]

theorem resolve_text (name : String) :
    (resolve name).text = spell ((linesFor name).map (· ++ [13])) := by
  have front : Utf8.encode "RESOLVE" ++ (Utf8.encode " " ++ (Utf8.encode "*" ++
      Utf8.encode " HTTP/1.1\r\nHost: ")) =
      Utf8.encode "RESOLVE * HTTP/1.1" ++ [13, 10] ++ Utf8.encode "Host: " := by decide
  have back : Utf8.encode "\r\n\r\n" = [13, 10, 13, 10] := by decide
  simp only [text, resolve, pieces, linesFor, spell, List.map_cons, List.map_nil,
    List.flatten_cons, List.flatten_nil, List.flatMap_cons, List.flatMap_nil, back]
  simp only [← List.append_assoc] at front ⊢
  rw [front]
  simp

theorem resolve_length (name : String) :
    (resolve name).text.length = (Utf8.encode name).length + 30 := by
  have line : (Utf8.encode "RESOLVE * HTTP/1.1").length = 18 := by decide
  have header : (Utf8.encode "Host: ").length = 6 := by decide
  rw [resolve_text]
  simp only [linesFor, spell, List.map_cons, List.map_nil, List.flatMap_cons, List.flatMap_nil,
    List.length_append, List.length_cons, List.length_nil, line, header]
  omega

theorem whole_lines (name : String) (single : '\n' ∉ name.toList) :
    ∀ line ∈ (linesFor name).map (· ++ [13]), 10 ∉ line := by
  have named : (10 : UInt8) ∉ Utf8.encode name :=
    fun held => single (Utf8.plain_byte name 10 (by decide) held)
  have line : (10 : UInt8) ∉ Utf8.encode "RESOLVE * HTTP/1.1" := by decide
  have header : (10 : UInt8) ∉ Utf8.encode "Host: " := by decide
  simp [linesFor, named, line, header]

theorem text_asks (name : String) (single : '\n' ∉ name.toList) :
    AsksFor name (resolve name).text := by
  obtain ⟨spelled, closed⟩ := lines_spelled _ (whole_lines name single)
  rw [resolve_text]
  refine ⟨?_, closed⟩
  rw [spelled, List.map_map]
  exact (List.map_congr_left fun line _ => bare_return line).trans (List.map_id _)

theorem resolve_bytes (name : String) :
    (resolve name).bytes = (resolve name).text.take Frame.capacity := by
  rw [bytes, frame_holds]
  rfl

-- The last byte of the text ends its last line, so that nothing less has all the lines.
theorem part_misses (name : String) (part : Bytes) (taken : part <+: (resolve name).text)
    (less : part.length < (resolve name).text.length) :
    part.count 10 < (resolve name).text.count 10 := by
  rw [resolve_text] at taken less ⊢
  have ends : spell ((linesFor name).map (· ++ [13])) =
      spell (((linesFor name).take 2).map (· ++ [13])) ++ [13] ++ [10] := by
    rw [← spell_snoc]
    rfl
  rw [ends] at taken less ⊢
  rw [List.length_append, List.length_singleton] at less
  have inside := List.prefix_of_prefix_length_le taken (List.prefix_append _ [10]) (by omega)
  have fewer := inside.sublist.count_le 10
  rw [List.count_append, List.count_singleton_self]
  omega

theorem bytes_ask_iff (name : String) (single : '\n' ∉ name.toList) :
    AsksFor name (resolve name).bytes ↔ (Utf8.encode name).length ≤ nameLimit := by
  have length := resolve_length name
  rw [resolve_bytes]
  constructor
  · intro asks
    by_contra long
    have cut : ((resolve name).text.take Frame.capacity).length < (resolve name).text.length := by
      rw [List.length_take, Frame.capacity]
      simp only [nameLimit] at long
      omega
    have fewer := part_misses name _ (List.take_prefix _ _) cut
    have count (bytes : Bytes) (asks : AsksFor name bytes) : bytes.count 10 = 3 := by
      have same := congrArg List.length asks.lines
      rwa [List.length_map, lines_length] at same
    rw [count _ asks, count _ (text_asks name single)] at fewer
    omega
  · intro short
    have fits : (resolve name).text.length ≤ Frame.capacity := by
      rw [length, Frame.capacity]
      simp only [nameLimit] at short
      omega
    rw [List.take_of_length_le fits]
    exact text_asks name single

end ProxyTunnel.Request
