import ProxyTunnel.Proofs.Response.Course

/-!
Complete header blocks: a status line, lines that have a key, and a blank line. Reading ends with
the last byte of a block unless one of the limits is reached before.
-/

set_option autoImplicit false

namespace ProxyTunnel.HeadText

-- Carriage returns count as nothing in a key and on the blank line.
structure BlockLines (status : Bytes) (headers : List Bytes) (closing : Bytes) : Prop where
  whole : ∀ line ∈ status :: headers ++ [closing], 10 ∉ line
  keyed : ∀ line ∈ headers, key (withoutReturns line) ≠ []
  blank : withoutReturns closing = []

def Block (bytes : Bytes) : Prop := ∃ status headers closing,
  BlockLines status headers closing ∧ bytes = spell (status :: headers ++ [closing])

theorem lines_extend (s line : Bytes) (whole : 10 ∉ line) :
    lines (s ++ line) = lines s ∧ openLine (s ++ line) = openLine s ++ line := by
  induction line using List.reverseRecOn with
  | nil => simp
  | append_singleton line b ih =>
      obtain ⟨inside, other⟩ : 10 ∉ line ∧ b ≠ 10 := by simpa [eq_comm] using whole
      obtain ⟨done, opened⟩ := ih inside
      rw [← List.append_assoc, lines_push _ b other, open_line_push _ b other, done, opened,
        List.append_assoc]
      exact ⟨rfl, rfl⟩

theorem lines_spelled (done : List Bytes) (whole : ∀ line ∈ done, 10 ∉ line) :
    lines (spell done) = done ∧ openLine (spell done) = [] := by
  induction done using List.reverseRecOn with
  | nil => exact ⟨rfl, rfl⟩
  | append_singleton done line ih =>
      obtain ⟨before, last⟩ : (∀ line ∈ done, 10 ∉ line) ∧ 10 ∉ line := by
        simpa [or_imp, forall_and] using whole
      obtain ⟨spelled, closed⟩ := ih before
      obtain ⟨done', opened⟩ := lines_extend (spell done) line last
      rw [spell_snoc, lines_push_newline, open_line_push_newline, done', opened, spelled, closed]
      exact ⟨rfl, rfl⟩

theorem without_returns_append (a b : Bytes) :
    withoutReturns (a ++ b) = withoutReturns a ++ withoutReturns b :=
  List.filter_append a b

theorem without_returns_spell (done : List Bytes) :
    withoutReturns (spell done) = spell (done.map withoutReturns) := by
  induction done with
  | nil => rfl
  | cons line done ih =>
      rw [spell_cons, without_returns_append, without_returns_append, ih, List.map_cons, spell_cons]
      rfl

theorem without_returns_count (bytes : Bytes) :
    (withoutReturns bytes).count 10 = bytes.count 10 :=
  List.count_filter (by decide)

-- The text of a block is blank at its end and nowhere before.
theorem block_text (block : Bytes) (complete : Block block) : ∃ front, block = front ++ [10] ∧
    EndsBlank (withoutReturns block) ∧ ∀ q, q <+: withoutReturns front → ¬ EndsBlank q := by
  obtain ⟨status, headers, closing, valid, rfl⟩ := complete
  have whole : ∀ line ∈ (status :: headers).map withoutReturns, 10 ∉ line := by
    intro line member
    obtain ⟨original, held, rfl⟩ := List.mem_map.mp member
    intro newline
    exact valid.whole original (List.mem_append_left _ held) (List.mem_filter.mp newline).1
  obtain ⟨spelled, closed⟩ := lines_spelled _ whole
  have text : withoutReturns (spell (status :: headers) ++ closing) =
      spell ((status :: headers).map withoutReturns) := by
    rw [without_returns_append, without_returns_spell, valid.blank, List.append_nil]
  rw [spell_snoc, without_returns_append, text]
  refine ⟨spell (status :: headers) ++ closing, rfl, ?_, ?_⟩
  · have newline : withoutReturns [10] = [10] := rfl
    rw [newline, EndsBlank, fields, lines_push_newline, spelled, closed]
    simp [key]
  · intro q part blank
    rw [text] at part
    have before := lines_prefix q _ part
    rw [spelled] at before
    rw [EndsBlank, fields, List.getLast?_map, Option.map_map, Option.map_eq_some_iff] at blank
    obtain ⟨line, last, empty⟩ := blank
    have member : line ∈ headers.map withoutReturns := by
      cases done : lines q with
      | nil => simp [done] at last
      | cons first rest =>
          rw [done, List.map_cons, List.cons_prefix_cons] at before
          rw [done, List.tail_cons] at last
          exact before.2.subset (List.mem_of_getLast? last)
    obtain ⟨original, held, rfl⟩ := List.mem_map.mp member
    exact valid.keyed original held empty

-- A text within the limits.
def Fits (bytes : Bytes) : Prop := (withoutReturns bytes).length ≤ 1023 ∧ bytes.count 10 ≤ 32

theorem block_fits (front : Bytes)
    (further : ∀ q, q <+: withoutReturns front → ¬ EndsBlank q) :
    Fits (front ++ [10]) ↔ ∀ q, q <+: withoutReturns front → verdict q = none := by
  have newline : withoutReturns [10] = [10] := rfl
  have length : (withoutReturns (front ++ [10])).length = (withoutReturns front).length + 1 := by
    rw [without_returns_append, newline, List.length_append, List.length_singleton]
  have count : (front ++ [10]).count 10 = (withoutReturns front).count 10 + 1 := by
    rw [without_returns_count]
    simp
  rw [Fits, length, count]
  constructor
  · rintro ⟨short, few⟩ q part
    have shorter := part.length_le
    have fewer := part.sublist.count_le 10
    rw [verdict, if_neg (further q part), if_neg (by omega), if_neg (by omega)]
  · intro quiet
    have whole := quiet _ (List.prefix_refl _)
    have room := verdict_none_length _ whole
    rw [verdict, if_neg (further _ (List.prefix_refl _))] at whole
    have few : ¬ 32 ≤ (withoutReturns front).count 10 := by
      intro many
      rw [if_pos many] at whole
      cases whole
    omega

end ProxyTunnel.HeadText
