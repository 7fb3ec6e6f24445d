import ProxyTunnel.Proofs.Response.Block

/-!
Reading a head looks at nothing beyond what it takes: where a verdict has ended it, it takes the
same bytes whatever follows them, and it never takes a byte that follows a blank line.
-/

set_option autoImplicit false

namespace ProxyTunnel.HeadText

-- There is one course at most: a longer one would have gone on after a verdict, a shorter one would
-- have stopped without.
theorem course_bound (p : Bytes) (used rest more : List ReadOutcome) (t u : Termination)
    (course : Course p used (more ++ rest) t) (longer : Course p (used ++ more) rest u) :
    more = [] := by
  by_contra left
  obtain ⟨passing, quiet⟩ := longer.going used more rfl left
  rcases course.stop with ⟨_, stop⟩ | ⟨_, _, finished⟩
  · rw [quiet] at stop
    cases stop
  · exact left (List.append_eq_nil_iff.mp (finished passing)).1

theorem course_same_end (p : Bytes) (used rest : List ReadOutcome) (t u : Termination)
    (course : Course p used rest t) (other : Course p used rest u) : t = u := by
  rcases course.stop with ⟨_, stop⟩ | ⟨quiet, cut, _⟩ <;>
    rcases other.stop with ⟨_, stop'⟩ | ⟨quiet', cut', _⟩
  · exact Option.some.inj (stop.symm.trans stop')
  · rw [quiet'] at stop
    cases stop
  · rw [quiet] at stop'
    cases stop'
  · rw [cut, cut']

theorem course_unique (p : Bytes) (used rest used' rest' : List ReadOutcome) (t t' : Termination)
    (course : Course p used rest t) (other : Course p used' rest' t')
    (same : used ++ rest = used' ++ rest') : used = used' ∧ rest = rest' ∧ t = t' := by
  have equal : used = used' ∧ rest = rest' := by
    rcases List.append_eq_append_iff.mp same with ⟨more, rfl, rfl⟩ | ⟨more, rfl, rfl⟩
    · have none := course_bound p used rest' more t t' course other
      simp [none]
    · have none := course_bound p used' rest more t' t other course
      simp [none]
  obtain ⟨rfl, rfl⟩ := equal
  exact ⟨rfl, rfl, course_same_end p used rest t t' course other⟩

-- Reading follows the course that there is.
theorem course_read (used rest : List ReadOutcome) (t : Termination)
    (course : Course [] used rest t) :
    Head.read (used ++ rest) = (headOf (text used) t, rest) := by
  obtain ⟨used', rest', t', split, read, other⟩ := read_course (used ++ rest) [] (by decide)
  obtain ⟨rfl, rfl, rfl⟩ := course_unique [] used rest used' rest' t t' course other split
  exact read

theorem cutoff_outside (outcomes : List ReadOutcome) :
    cutoff outcomes = .endOfStream ∨ ∃ failure, cutoff outcomes = .readError failure := by
  unfold cutoff
  split
  · exact .inr ⟨_, rfl⟩
  · exact .inl rfl

theorem verdict_inside (s : Bytes) (t : Termination) (stop : verdict s = some t) :
    t = .blankLine ∨ t = .headerLimit ∨ t = .bufferFull := by
  simp only [verdict] at stop
  split_ifs at stop <;> simp_all

theorem cutoff_failed (o : ReadOutcome) (halts : passes o = false) (failure : ReadFailure) :
    cutoff [o] = .readError failure ↔ o = .failed failure := by
  cases o with
  | byte b => cases halts
  | ended => simp [cutoff, passes]
  | failed met => simp [cutoff, halts]

-- A verdict stands whatever follows what was taken.
theorem course_continues (used rest more : List ReadOutcome) (t : Termination)
    (course : Course [] used rest t)
    (settled : t = .blankLine ∨ t = .headerLimit ∨ t = .bufferFull) :
    Course [] used more t where
  going := course.going
  stop := by
    rcases course.stop with stop | ⟨_, cut, _⟩
    · exact .inl stop
    · rcases cutoff_outside used with ended | ⟨failure, failed⟩
      · rw [cut, ended] at settled
        simp at settled
      · rw [cut, failed] at settled
        simp at settled

-- What lacks something at its end lacks the last.
theorem front_within {α : Type} (front part more : List α) (last : α)
    (split : front ++ [last] = part ++ more) (left : more ≠ []) : part <+: front := by
  rcases List.prefix_concat_iff.mp ⟨more, split.symm⟩ with rfl | within
  · exact absurd (List.append_right_eq_self.mp split.symm) left
  · exact within

theorem text_bytes (bytes : Bytes) : text (bytes.map .byte) = withoutReturns bytes := by
  rw [text, List.filterMap_map]
  exact congrArg withoutReturns List.filterMap_some

theorem blank_line_ends (before returns : Bytes) (blank : ∀ b ∈ returns, b = 13) :
    EndsBlank (withoutReturns (before ++ 10 :: returns ++ [10])) := by
  have nothing : withoutReturns returns = [] :=
    List.filter_eq_nil_iff.mpr fun b member => by simp [blank b member]
  have newline (rest : Bytes) : withoutReturns (10 :: rest) = 10 :: withoutReturns rest := rfl
  have stored : withoutReturns (before ++ 10 :: returns ++ [10]) =
      withoutReturns before ++ [10] ++ [10] := by
    rw [without_returns_append, without_returns_append, newline, nothing]
    rfl
  rw [stored, EndsBlank, fields, lines_push_newline, lines_push_newline, open_line_push_newline]
  cases lines (withoutReturns before) <;> simp [key]

theorem course_within (s before returns after : Bytes) (used rest : List ReadOutcome)
    (t : Termination) (course : Course [] used rest t) (split : s.map .byte = used ++ rest)
    (whole : s = before ++ 10 :: returns ++ 10 :: after) (blank : ∀ b ∈ returns, b = 13) :
    used.length ≤ (before ++ 10 :: returns ++ [10]).length := by
  by_contra beyond
  have parts : (before ++ 10 :: returns ++ [10]).map ReadOutcome.byte ++ after.map .byte =
      used ++ rest := by
    rw [← split, whole]
    simp
  obtain ⟨more, split', _⟩ | ⟨more, split', _⟩ := List.append_eq_append_iff.mp parts
  · have left : more ≠ [] := by
      rintro rfl
      apply beyond
      simp [split']
    have quiet := (course.going _ more split' left).2
    rw [List.nil_append, text_bytes, verdict,
      if_pos (blank_line_ends before returns blank)] at quiet
    cases quiet
  · apply beyond
    have lengths := congrArg List.length split'
    rw [List.length_map] at lengths
    rw [lengths]
    exact (List.prefix_append used more).length_le

-- How many bytes reading a head takes from a stream of bytes.
def taken (s : Bytes) : Nat := s.length - (Head.read (s.map .byte)).2.length

theorem head_needs_no_more (s : Bytes) :
    let (head, rest) := Head.read (s.map .byte)
    let k := taken s
    rest = (s.drop k).map .byte ∧
      (head.termination = .blankLine ∨ head.termination = .headerLimit ∨
          head.termination = .bufferFull →
        ∀ more, Head.read ((s.take k).map .byte ++ more) = (head, more)) ∧
      ∀ before returns after, s = before ++ 10 :: returns ++ 10 :: after →
        (∀ b ∈ returns, b = 13) → k ≤ (before ++ 10 :: returns ++ [10]).length := by
  obtain ⟨used, rest, t, split, read, course⟩ := read_course (s.map .byte) [] (by decide)
  change Head.read (s.map .byte) = _ at read
  have count : taken s = used.length := by
    have lengths := congrArg List.length split
    rw [List.length_map, List.length_append] at lengths
    rw [taken, read]
    exact Nat.sub_eq_of_eq_add lengths
  have front : (s.take used.length).map ReadOutcome.byte = used := by
    rw [List.map_take, split, List.take_left]
  rw [read]
  dsimp only
  rw [count, front]
  refine ⟨?_, ?_, ?_⟩
  · rw [List.map_drop, split, List.drop_left]
  · intro settled more
    exact course_read used more t (course_continues used rest more t course settled)
  · intro before returns after whole blank
    exact course_within s before returns after used rest t course split whole blank

end ProxyTunnel.HeadText
