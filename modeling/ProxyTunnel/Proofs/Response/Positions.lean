import ProxyTunnel.Proofs.Response.Spans

/-!
Where the lines of a text are: what a reader of heads notes of a line are the place of its first
byte, that of the newline after it and that of its first colon.
-/

set_option autoImplicit false

namespace ProxyTunnel.HeadText

-- Where the first colon of a stretch of bytes is, if it has one.
def ColonAt (bytes : Bytes) (start stop : Nat) : Option Nat → Prop
  | none => 58 ∉ slice bytes start stop
  | some colon => start ≤ colon ∧ colon < stop ∧ bytes[colon]? = some 58 ∧
      58 ∉ slice bytes start colon

-- The positions are those of a completed line among the first so many bytes.
structure LineAt (bytes : Bytes) (size : Nat) (l : Line) : Prop where
  ordered : l.start ≤ l.stop
  inside : l.stop < size
  newline : bytes[l.stop]? = some 10
  whole : 10 ∉ slice bytes l.start l.stop
  colon : ColonAt bytes l.start l.stop l.colon

theorem key_stop_bounds (bytes : Bytes) (size : Nat) (l : Line) (here : LineAt bytes size l) :
    l.start ≤ l.keyStop ∧ l.keyStop ≤ l.stop := by
  have first := here.colon
  have ordered := here.ordered
  cases noted : l.colon with
  | none => simp [Line.keyStop, noted, ordered]
  | some place =>
      rw [noted] at first
      simp only [Line.keyStop, noted, Option.map_some, Option.getD_some]
      exact ⟨Nat.le_min.mpr ⟨first.1, ordered⟩, Nat.min_le_right _ _⟩

-- Where a line starts. The one after the last completed line is the open one.
def lineStart (s : Bytes) (i : Nat) : Nat := (spell ((lines s).take i)).length

theorem slice_line (before line after : Bytes) :
    slice (before ++ (line ++ after)) before.length (before.length + line.length) = line := by
  have read := slice_within before line after 0 line.length (Nat.le_refl _)
  simpa using read

theorem key_colon (line : Bytes) (colon : 58 ∈ line) :
    58 ∉ key line ∧ ∃ rest, line = key line ++ 58 :: rest := by
  obtain ⟨front, rest, rfl, absent⟩ := List.eq_append_cons_of_mem colon
  have front_key : key (front ++ 58 :: rest) = front := by
    rw [key, List.takeWhile_append_of_pos]
    · simp
    · intro b member
      have different : b ≠ 58 := fun same => absent (same ▸ member)
      simpa using different
  rw [front_key]
  exact ⟨absent, rest, rfl⟩

theorem colon_in_at (before line after : Bytes) :
    ColonAt (before ++ (line ++ after)) before.length (before.length + line.length)
      (colonIn before.length line) := by
  by_cases colon : 58 ∈ line
  · obtain ⟨absent, rest, split⟩ := key_colon line colon
    have length : line.length = (key line).length + (rest.length + 1) := by
      rw [← List.length_cons, ← List.length_append, ← split]
    have behind : line ++ after = key line ++ (58 :: rest ++ after) := by
      rw [← List.append_assoc, ← split]
    rw [colonIn, if_pos colon]
    refine ⟨Nat.le_add_right _ _, by omega, ?_, ?_⟩
    · rw [List.getElem?_append_right (Nat.le_add_right _ _), Nat.add_sub_cancel_left, behind,
        List.getElem?_append_right (Nat.le_refl _)]
      simp
    · rwa [behind, slice_line]
  · rw [colonIn, if_neg colon, ColonAt, slice_line]
    exact colon

theorem lines_whole (s : Bytes) : (∀ line ∈ lines s, 10 ∉ line) ∧ 10 ∉ openLine s := by
  induction s using List.reverseRecOn with
  | nil => simp
  | append_singleton s b ih =>
      by_cases newline : b = 10
      · subst b
        rw [lines_push_newline, open_line_push_newline, List.forall_mem_append]
        exact ⟨⟨ih.1, by simpa using ih.2⟩, by simp⟩
      · rw [lines_push s b newline, open_line_push s b newline]
        exact ⟨ih.1, by simp [ih.2, Ne.symm newline]⟩

theorem spans_get (start : Nat) (done : List Bytes) (i : Nat) (l : Line)
    (found : (spans start done)[i]? = some l) : ∃ line, done[i]? = some line ∧
      l = ⟨start + (spell (done.take i)).length,
        start + (spell (done.take i)).length + line.length,
        colonIn (start + (spell (done.take i)).length) line⟩ := by
  induction done generalizing start i with
  | nil => simp [spans] at found
  | cons first done ih =>
      cases i with
      | zero => exact ⟨first, rfl, by simpa [spans, spell, eq_comm] using found⟩
      | succ i =>
          obtain ⟨line, here, rfl⟩ := ih (start + first.length + 1) i found
          have room : start + first.length + 1 + (spell (done.take i)).length =
              start + (spell ((first :: done).take (i + 1))).length := by
            rw [List.take_succ_cons, spell_cons, List.length_append, List.length_append,
              List.length_singleton]
            omega
          exact ⟨line, here, by rw [room]⟩

theorem spell_append (first second : List Bytes) :
    spell (first ++ second) = spell first ++ spell second := List.flatMap_append

theorem text_around (s : Bytes) (i : Nat) (line : Bytes) (found : (lines s)[i]? = some line) :
    ∃ after, s = spell ((lines s).take i) ++ (line ++ 10 :: after) := by
  obtain ⟨inside, rfl⟩ := List.getElem?_eq_some_iff.mp found
  refine ⟨spell ((lines s).drop (i + 1)) ++ openLine s, ?_⟩
  have parts : lines s = (lines s).take i ++ (lines s)[i] :: (lines s).drop (i + 1) := by
    rw [← List.drop_eq_getElem_cons inside, List.take_append_drop]
  have whole := lines_spell s
  rw [parts, spell_append, spell_cons] at whole
  simpa using whole.symm

theorem line_start_next (s : Bytes) (i : Nat) (line : Bytes)
    (found : (lines s)[i]? = some line) : lineStart s (i + 1) = lineStart s i + line.length + 1 := by
  rw [lineStart, List.take_add_one, found, Option.toList_some, spell_snoc]
  simp [lineStart, Nat.add_assoc]

-- What a draft notes of a completed line of its text.
theorem draft_line_at (s : Bytes) (i : Nat) (l : Line) (found : (draftOf s).lines[i]? = some l) :
    LineAt s s.length l ∧ l.start = lineStart s i ∧ lineStart s (i + 1) = l.stop + 1 := by
  obtain ⟨line, here, rfl⟩ := spans_get 0 (lines s) i l found
  obtain ⟨after, split⟩ := text_around s i line here
  have next := line_start_next s i line here
  simp only [Nat.zero_add]
  refine ⟨?_, rfl, next⟩
  generalize spell ((lines s).take i) = before at split ⊢
  have whole : 10 ∉ line := (lines_whole s).1 line (List.mem_of_getElem? here)
  subst s
  refine ⟨Nat.le_add_right _ _, ?_, ?_, ?_, colon_in_at before line _⟩
  · simp
  · simp
  · rwa [slice_line]

theorem draft_open_at (s : Bytes) : (draftOf s).start = lineStart s (lines s).length ∧
    (draftOf s).start ≤ s.length ∧ 10 ∉ slice s (draftOf s).start s.length ∧
      ColonAt s (draftOf s).start s.length (draftOf s).colon := by
  have whole := lines_spell s
  have colon := colon_in_at (spell (lines s)) (openLine s) []
  have read := slice_line (spell (lines s)) (openLine s) []
  rw [List.append_nil, whole, spell_length] at colon read
  refine ⟨by rw [lineStart, List.take_length]; rfl, ?_, ?_, colon⟩
  · have length := spell_length s
    exact Nat.le.intro length
  · rw [show slice s (draftOf s).start s.length = openLine s from read]
    exact (lines_whole s).2

-- A longer text keeps what stands among its first bytes.
theorem slice_extended (bytes more : Bytes) (start stop : Nat) (within : stop ≤ bytes.length) :
    slice (bytes ++ more) start stop = slice bytes start stop := by
  rw [slice, slice, ← List.drop_take, ← List.drop_take, List.take_append_of_le_length within]

theorem colon_at_extended (bytes more : Bytes) (start stop : Nat) (colon : Option Nat)
    (within : stop ≤ bytes.length) (here : ColonAt bytes start stop colon) :
    ColonAt (bytes ++ more) start stop colon := by
  cases colon with
  | none => rwa [ColonAt, slice_extended bytes more start stop within]
  | some colon =>
      obtain ⟨after, before, found, first⟩ := here
      refine ⟨after, before, ?_, ?_⟩
      · rwa [List.getElem?_append_left (by omega)]
      · rwa [slice_extended bytes more start colon (by omega)]

theorem line_at_extended (bytes more : Bytes) (l : Line) (here : LineAt bytes bytes.length l) :
    LineAt (bytes ++ more) bytes.length l where
  ordered := here.ordered
  inside := here.inside
  newline := by rw [List.getElem?_append_left here.inside]; exact here.newline
  whole := by
    rw [slice_extended bytes more _ _ (Nat.le_of_lt here.inside)]
    exact here.whole
  colon := colon_at_extended bytes more _ _ _ (Nat.le_of_lt here.inside) here.colon

end ProxyTunnel.HeadText
