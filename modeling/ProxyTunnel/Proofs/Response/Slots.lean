import Mathlib.Data.List.Forall2
import ProxyTunnel.Proofs.Response.Positions
import ProxyTunnel.Proofs.Response.Storage

/-!
What is read off storage that holds a text. The slots of a line lead to its key and its value within
range, and everything that is read off them is what the head of the text says.
-/

set_option autoImplicit false

namespace ProxyTunnel.Storage

open HeadText

theorem bytes_extend (s : Storage) (p : Bytes) (holds : Holds s (draftOf p)) :
    ∃ more, s.bytes = p ++ more := by
  refine ⟨s.bytes.drop s.size, ?_⟩
  have stored : s.bytes.take s.size = p := holds.stored
  rw [← stored, List.take_append_drop]

theorem lines_count (s : Storage) (p : Bytes) (holds : Holds s (draftOf p)) :
    s.lines = (HeadText.lines p).length := holds.lines.trans (spans_length 0 (HeadText.lines p))

theorem slice_in (s : Storage) (p : Bytes) (holds : Holds s (draftOf p)) (start stop : Nat)
    (ordered : start ≤ stop) (within : stop ≤ p.length) :
    s.slice? start stop = some (slice p start stop) := by
  obtain ⟨more, extended⟩ := bytes_extend s p holds
  have inside : stop ≤ s.bytes.length := by
    rw [extended, List.length_append]
    omega
  rw [slice?, if_pos ⟨ordered, inside⟩, extended, slice_extended p more start stop within]

-- What is read off the slots of a completed line.
structure Reads (s : Storage) (h : Head) (i : Nat) (l : Line) : Prop where
  line : s.line? i = some l
  span : s.keySpan? i = some (l.start, l.keyStop)
  key : s.key? i = some (h.key l)
  value : s.value? i = some (h.value l)

theorem slots_read (s : Storage) (p : Bytes) (t : Termination) (holds : Holds s (draftOf p))
    (i : Nat) (l : Line) (found : (draftOf p).lines[i]? = some l) : Reads s (headOf p t) i l := by
  have line := holds.completed i l found
  obtain ⟨start, stop, colon⟩ := (line_slots s i l).mp line
  have here := (draft_line_at p i l found).1
  have place := (List.getElem?_eq_some_iff.mp found).1
  rw [← holds.lines] at place
  have ended : s.lineStop? i = some l.stop := by rw [lineStop?, if_pos place, stop]
  have span : s.keySpan? i = some (l.start, l.keyStop) := by
    simp [keySpan?, ended, start, colon, Line.keyStop]
  have within : l.stop ≤ p.length := Nat.le_of_lt here.inside
  refine ⟨line, span, ?_, ?_⟩
  · obtain ⟨ordered, before⟩ := key_stop_bounds p p.length l here
    simp only [key?, span, Option.bind_eq_bind, Option.bind_some]
    exact slice_in s p holds _ _ ordered (before.trans within)
  · simp only [value?, ended, colon, Option.bind_eq_bind, Option.bind_some]
    cases noted : l.colon with
    | none => simp [Head.value, Line.valueStart, noted, slice]
    | some place =>
        dsimp only
        rw [slice_in s p holds _ _ (Nat.min_le_right _ _) within]
        simp [Head.value, Line.valueStart, noted, headOf, Draft.finish, draftOf]

theorem all_slots_read (s : Storage) (p : Bytes) (t : Termination) (holds : Holds s (draftOf p)) :
    List.Forall₂ (Reads s (headOf p t)) (List.range s.lines) (headOf p t).lines := by
  rw [List.forall₂_iff_get]
  refine ⟨by rw [List.length_range]; exact holds.lines, fun i _ inside => ?_⟩
  rw [List.get_eq_getElem, List.getElem_range]
  exact slots_read s p t holds i _ (List.getElem?_eq_getElem inside)

theorem head_lines (s : Storage) (h : Head) (slots : List Nat) (found : List Line)
    (reads : List.Forall₂ (Reads s h) slots found) : slots.filterMap s.line? = found := by
  induction reads with
  | nil => rfl
  | cons first _ ih => rw [List.filterMap_cons_some first.line, ih]

theorem holds_head (s : Storage) (p : Bytes) (t : Termination) (holds : Holds s (draftOf p)) :
    s.head t = headOf p t := by
  rw [head, head_lines s (headOf p t) _ _ (all_slots_read s p t holds),
    show s.stored = p from holds.stored]
  rfl

theorem headers_at (s : Storage) (h : Head) (slots : List Nat) (found : List Line)
    (reads : List.Forall₂ (Reads s h) slots found) : s.headersAt? slots =
      some ((found.filter fun l => !(h.key l).isEmpty).map fun l => (h.key l, h.value l)) := by
  induction reads with
  | nil => rfl
  | @cons i l slots found first _ ih =>
      by_cases blank : h.key l = []
      · simp [headersAt?, first.key, blank, ih]
      · simp [headersAt?, first.key, first.value, blank, ih]

-- The slot of the first line with a key is that of the line found.
theorem slot_found (s : Storage) (h : Head) (key : Bytes) (slots : List Nat) (found : List Line)
    (reads : List.Forall₂ (Reads s h) slots found) :
    match found.find? fun l => h.key l == key with
    | none => s.slotOf? key slots = some none
    | some l => ∃ i, s.slotOf? key slots = some (some i) ∧ Reads s h i l := by
  induction reads with
  | nil => rfl
  | @cons i l slots found first _ ih =>
      by_cases same : h.key l = key
      · rw [List.find?_cons_of_pos (by simpa using same)]
        exact ⟨i, by simp [slotOf?, first.key, same], first⟩
      · have skips : s.slotOf? key (i :: slots) = s.slotOf? key slots := by
          simp [slotOf?, first.key, same]
        rw [List.find?_cons_of_neg (by simpa using same), skips]
        exact ih

theorem get_reads (s : Storage) (h : Head) (name : String)
    (reads : List.Forall₂ (Reads s h) s.fieldSlots h.lines.tail) :
    s.get? name = some (h.get? name) := by
  have found := slot_found s h (Utf8.encode name) _ _ reads
  unfold get? Head.get?
  cases first : h.lines.tail.find? fun l => h.key l == Utf8.encode name with
  | none =>
      rw [first] at found
      simp [found]
  | some l =>
      rw [first] at found
      obtain ⟨i, slot, read⟩ := found
      simp [slot, read.value]

theorem status_reads (s : Storage) (p : Bytes) (t : Termination) (holds : Holds s (draftOf p)) :
    s.statusLine? = some (headOf p t).statusLine := by
  have count : s.lines = (headOf p t).lines.length := holds.lines
  unfold statusLine? Head.statusLine Head.statusBytes
  cases done : (headOf p t).lines with
  | nil =>
      have none : ¬ 0 < s.lines := by simp [count, done]
      have size : s.size = p.length := holds.size
      have whole := slice_in s p holds 0 p.length (Nat.zero_le _) (Nat.le_refl _)
      simp [none, size, whole, slice, headOf, Draft.finish, draftOf]
  | cons l rest =>
      have started : 0 < s.lines := by simp [count, done]
      have found : (draftOf p).lines[0]? = some l := congrArg (·[0]?) done
      obtain ⟨_, stop, _⟩ := (line_slots s 0 l).mp (holds.completed 0 l found)
      have here := (draft_line_at p 0 l found).1
      have read := slice_in s p holds 0 l.stop (Nat.zero_le _) (Nat.le_of_lt here.inside)
      simp [started, stop, read, slice, headOf, Draft.finish, draftOf]

theorem ends_blank_reads (s : Storage) (p : Bytes) (holds : Holds s (draftOf p)) :
    s.endsBlank? = some (draftOf p).endsBlank := by
  have count := holds.lines
  rcases List.eq_nil_or_concat (draftOf p).lines with none | ⟨front, last, shape⟩
  · rw [none] at count
    simp [endsBlank?, Draft.endsBlank, count, none]
  · rw [List.concat_eq_append] at shape
    rw [shape, List.length_append, List.length_singleton] at count
    cases front with
    | nil => simp [endsBlank?, Draft.endsBlank, count, shape]
    | cons first front =>
        have found : (draftOf p).lines[(first :: front).length]? = some last := by
          rw [shape, List.getElem?_concat_length]
        have read := slots_read s p .endOfStream holds _ last found
        rw [ends_blank_snoc (draftOf p) _ last shape (by simp), endsBlank?, if_neg (by simp [count]),
          count, Nat.add_sub_cancel, read.span]
        rfl

theorem fields_count (s : Storage) (p : Bytes) (holds : Holds s (draftOf p)) :
    (fields p).length = s.lines - 1 := by
  rw [lines_count s p holds, fields, List.length_map, List.length_tail]

-- The slots after the first are those of the fields.
theorem slot_field (s : Storage) (p : Bytes) (holds : Holds s (draftOf p)) (i : Nat) (later : 0 < i)
    (inside : i < s.lines) : ∃ field, (fields p)[i - 1]? = some field ∧
      s.key? i = some field.1 ∧ s.value? i = some field.2 := by
  rw [holds.lines] at inside
  have found := List.getElem?_eq_getElem inside
  let h := headOf p .endOfStream
  let l := (draftOf p).lines[i]
  have read : Reads s h i l := slots_read s p .endOfStream holds i l found
  refine ⟨(h.key l, h.value l), ?_, read.key, read.value⟩
  have place : i - 1 + 1 = i := Nat.sub_add_cancel later
  rw [← head_fields p .endOfStream, List.getElem?_map, List.getElem?_tail, place,
    show (headOf p .endOfStream).lines[i]? = some l from found, Option.map_some]

end ProxyTunnel.Storage
