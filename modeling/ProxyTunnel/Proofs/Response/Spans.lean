import Mathlib.Data.List.TakeWhile
import ProxyTunnel.Proofs.Response.HeadText

/-!
The positions that a reader of heads keeps are those of the lines of the text it has stored: storing
byte after byte leads to the draft of the text, and what a head says of itself is what its text
says.
-/

set_option autoImplicit false

namespace ProxyTunnel.HeadText

def colonIn (start : Nat) (line : Bytes) : Option Nat :=
  if 58 ∈ line then some (start + (key line).length) else none

def spans (start : Nat) : List Bytes → List Line
  | [] => []
  | line :: rest =>
      ⟨start, start + line.length, colonIn start line⟩ :: spans (start + line.length + 1) rest

def draftOf (s : Bytes) : Draft :=
  let start := (spell (lines s)).length
  ⟨s, spans 0 (lines s), start, colonIn start (openLine s)⟩

theorem spell_length (s : Bytes) :
    (spell (lines s)).length + (openLine s).length = s.length := by
  rw [← List.length_append, lines_spell]

theorem spans_snoc (start : Nat) (done : List Bytes) (line : Bytes) :
    let stop := start + (spell done).length
    spans start (done ++ [line]) =
      spans start done ++ [⟨stop, stop + line.length, colonIn stop line⟩] := by
  induction done generalizing start with
  | nil => rfl
  | cons first done ih =>
      have room : start + first.length + 1 + (spell done).length =
          start + (spell (first :: done)).length := by
        rw [spell_cons, List.length_append, List.length_append, List.length_singleton]
        omega
      simp only [List.cons_append, spans, ih, room]

theorem spans_length (start : Nat) (done : List Bytes) :
    (spans start done).length = done.length := by
  induction done generalizing start with
  | nil => rfl
  | cons line done ih => simp [spans, ih]

theorem key_snoc (line : Bytes) (b : UInt8) :
    key (line ++ [b]) = if 58 ∈ line then key line else if b = 58 then line else line ++ [b] := by
  induction line with
  | nil => by_cases colon : b = 58 <;> simp [key, colon]
  | cons a line ih =>
      by_cases colon : a = 58
      · simp [key, colon]
      · simp only [key] at ih
        simp only [key, List.cons_append, List.takeWhile_cons, ih, colon, ne_eq, not_false_eq_true,
          decide_true, if_true, List.mem_cons, Ne.symm colon, false_or]
        split <;> [rfl; (split <;> rfl)]

theorem key_without_colon (line : Bytes) (plain : 58 ∉ line) : key line = line := by
  rw [key, List.takeWhile_eq_self_iff]
  intro b member
  have different : b ≠ 58 := fun same => plain (same ▸ member)
  simpa using different

theorem colon_snoc (start : Nat) (line : Bytes) (b : UInt8) (other : b ≠ 58) :
    colonIn start (line ++ [b]) = colonIn start line := by
  have absent : 58 ∈ line ++ [b] ↔ 58 ∈ line := by simp [Ne.symm other]
  by_cases colon : 58 ∈ line
  · simp [colonIn, colon, key_snoc]
  · simp [colonIn, absent, colon]

theorem colon_snoc_colon (start : Nat) (line : Bytes) :
    colonIn start (line ++ [58]) = some ((colonIn start line).getD (start + line.length)) := by
  by_cases colon : 58 ∈ line <;> simp [colonIn, key_snoc, colon]

theorem draft_push (s : Bytes) (b : UInt8) : draftOf (s ++ [b]) = (draftOf s).push b := by
  have here := spell_length s
  by_cases newline : b = 10
  · subst b
    simp only [draftOf, Draft.push, lines_push_newline, open_line_push_newline, if_true, spans_snoc,
      Nat.zero_add, here]
    have next : (spell (lines s ++ [openLine s])).length = s.length + 1 := by
      rw [spell_snoc, lines_spell, List.length_append, List.length_singleton]
    simp [next, colonIn]
  · by_cases colon : b = 58
    · subst b
      simp [draftOf, Draft.push, lines_push s 58 newline, open_line_push s 58 newline,
        colon_snoc_colon, here]
    · simp [draftOf, Draft.push, lines_push s b newline, open_line_push s b newline, newline, colon,
        colon_snoc _ _ b colon]

theorem key_bound (line : Bytes) : (key line).length ≤ line.length :=
  (List.takeWhile_prefix _).length_le

theorem value_drop (line : Bytes) : value line = line.drop ((key line).length + 2) := by
  have whole : key line ++ line.dropWhile (· ≠ 58) = line := List.takeWhile_append_dropWhile
  calc value line
      = (key line ++ line.dropWhile (· ≠ 58)).drop ((key line).length + 2) := by
        rw [List.drop_length_add_append]
        rfl
    _ = line.drop ((key line).length + 2) := by rw [whole]

theorem span_key_stop (start : Nat) (line : Bytes) :
    (Line.mk start (start + line.length) (colonIn start line)).keyStop =
      start + (key line).length := by
  have bound := key_bound line
  by_cases colon : 58 ∈ line
  · simp only [Line.keyStop, colonIn, if_pos colon, Option.map_some, Option.getD_some]
    omega
  · simp [Line.keyStop, colonIn, colon, key_without_colon line colon]

theorem span_value_start (start : Nat) (line : Bytes) :
    (Line.mk start (start + line.length) (colonIn start line)).valueStart =
      start + min ((key line).length + 2) line.length := by
  have bound := key_bound line
  by_cases colon : 58 ∈ line
  · simp only [Line.valueStart, colonIn, if_pos colon, Option.map_some, Option.getD_some]
    omega
  · simp [Line.valueStart, colonIn, colon, key_without_colon line colon]

theorem slice_within (before line after : Bytes) (i j : Nat) (within : j ≤ line.length) :
    slice (before ++ (line ++ after)) (before.length + i) (before.length + j) =
      (line.take j).drop i := by
  rw [slice, List.drop_length_add_append, Nat.add_sub_add_left, ← List.drop_take,
    List.take_append_of_le_length within]

-- What a head says of the line at a span, read off a text in which the line stands there.
theorem span_read (before line after : Bytes) :
    let span := Line.mk before.length (before.length + line.length) (colonIn before.length line)
    slice (before ++ (line ++ after)) span.start span.keyStop = key line ∧
      slice (before ++ (line ++ after)) span.valueStart span.stop = value line := by
  refine ⟨?_, ?_⟩
  · rw [span_key_stop]
    have read := slice_within before line after 0 (key line).length (key_bound line)
    have part : line.take (key line).length = key line :=
      (List.prefix_iff_eq_take.mp (List.takeWhile_prefix _)).symm
    simpa [part] using read
  · rw [span_value_start, slice_within before line after _ _ (Nat.le_refl _), List.take_length,
      value_drop]
    by_cases short : (key line).length + 2 ≤ line.length
    · rw [Nat.min_eq_left short]
    · rw [List.drop_eq_nil_of_le (by omega), List.drop_eq_nil_of_le (by omega)]

theorem spans_read (before after : Bytes) (done : List Bytes) :
    (spans before.length done).map (fun span =>
      (slice (before ++ (spell done ++ after)) span.start span.keyStop,
        slice (before ++ (spell done ++ after)) span.valueStart span.stop)) =
      done.map fun line => (key line, value line) := by
  induction done generalizing before with
  | nil => rfl
  | cons line done ih =>
      have first := span_read before line ([10] ++ (spell done ++ after))
      have rest := ih (before ++ line ++ [10])
      have room : (before ++ line ++ [10]).length = before.length + line.length + 1 := by
        simp only [List.length_append, List.length_singleton]
      rw [room] at rest
      simp only [List.append_assoc] at rest
      simp only [spell_cons, List.append_assoc, spans, List.map_cons, rest]
      rw [first.1, first.2]

-- The head of a text, whatever ended its reading.
def headOf (s : Bytes) (t : Termination) : Head := (draftOf s).finish t

theorem head_pairs (s : Bytes) (t : Termination) :
    (headOf s t).lines.map (fun span => ((headOf s t).key span, (headOf s t).value span)) =
      (lines s).map fun line => (key line, value line) := by
  have read := spans_read [] (openLine s) (lines s)
  rw [lines_spell] at read
  exact read

theorem head_fields (s : Bytes) (t : Termination) :
    (headOf s t).lines.tail.map (fun span => ((headOf s t).key span, (headOf s t).value span)) =
      fields s := by
  rw [List.map_tail, head_pairs, ← List.map_tail]
  rfl

theorem head_lines_length (s : Bytes) (t : Termination) : (headOf s t).lines.length = s.count 10 :=
  (spans_length 0 (lines s)).trans (lines_length s)

theorem head_headers (s : Bytes) (t : Termination) :
    (headOf s t).headers = (fields s).filter (·.1 ≠ []) := by
  rw [← head_fields s t, List.filter_map]
  simp only [Head.headers]
  congr 1
  apply List.filter_congr
  intro span _
  cases keyEq : (headOf s t).key span <;> simp [keyEq]

theorem head_get (s : Bytes) (t : Termination) (name : String) :
    (headOf s t).get? name = ((fields s).find? (·.1 = Utf8.encode name)).bind fun field =>
      if field.2 = [] then none else Utf8.decode? field.2 := by
  rw [← head_fields s t, List.find?_map, Head.get?]
  have same : (fun span => (headOf s t).key span == Utf8.encode name) =
      ((fun field : Bytes × Bytes => decide (field.1 = Utf8.encode name)) ∘
        fun span => ((headOf s t).key span, (headOf s t).value span)) := by
    funext span
    simp [beq_eq_decide]
  rw [same]
  cases (headOf s t).lines.tail.find? _ <;> rfl

theorem head_status (s : Bytes) (t : Termination) :
    (headOf s t).statusBytes = (lines s).head?.getD s := by
  have spelled := lines_spell s
  cases done : lines s with
  | nil => simp [headOf, Head.statusBytes, Draft.finish, draftOf, done, spans]
  | cons first rest =>
      rw [done] at spelled
      simp only [headOf, Head.statusBytes, Draft.finish, draftOf, done, spans, Nat.zero_add,
        List.head?_cons, Option.getD_some]
      rw [← spelled, spell_cons, List.append_assoc, List.append_assoc, List.take_left]

theorem ends_blank_snoc (d : Draft) (front : List Line) (last : Line)
    (shape : d.lines = front ++ [last]) (further : front ≠ []) :
    d.endsBlank = (last.start == last.keyStop) := by
  obtain ⟨first, front, rfl⟩ := List.exists_cons_of_ne_nil further
  cases front with
  | nil => simp [Draft.endsBlank, shape]
  | cons second front =>
      have final : (second :: (front ++ [last])).getLast (by simp) = last :=
        List.getLast_concat (l := second :: front)
      simp [Draft.endsBlank, shape, final]

theorem draft_ends_blank (s : Bytes) : (draftOf s).endsBlank = decide (EndsBlank s) := by
  rcases List.eq_nil_or_concat (lines s) with none | ⟨front, last, shape⟩
  · simp [Draft.endsBlank, draftOf, EndsBlank, fields, none, spans]
  · rw [List.concat_eq_append] at shape
    have span := spans_snoc 0 front last
    rw [← shape] at span
    cases front with
    | nil => simp [Draft.endsBlank, draftOf, EndsBlank, fields, shape, spans]
    | cons first front =>
        have further : spans 0 (first :: front) ≠ [] := by simp [spans]
        have blank : EndsBlank s ↔ (key last).length = 0 := by simp [EndsBlank, fields, shape]
        rw [ends_blank_snoc (draftOf s) _ _ span further, span_key_stop, Bool.eq_iff_iff,
          decide_eq_true_iff, blank, beq_iff_eq]
        dsimp only
        omega

-- Reading checks the room that is left only before the next read, and then it stops at once.
theorem draft_verdict (s : Bytes) :
    verdict s = (draftOf s).verdict.or (if 1023 ≤ s.length then some .bufferFull else none) := by
  have count : (draftOf s).lines.length = s.count 10 := head_lines_length s .endOfStream
  rw [verdict, Draft.verdict, draft_ends_blank, count, Draft.lineLimit]
  by_cases blank : EndsBlank s
  · simp [blank]
  · by_cases many : 32 ≤ s.count 10 <;> simp [blank, many]

end ProxyTunnel.HeadText
