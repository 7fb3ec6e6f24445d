import ProxyTunnel.Proofs.Response.Course

/-!
Reading a head is tokenizing a text: what is stored is the shortest part of the delivered text on
which there is a verdict, and everything the head says can be read off the lines of that part.
-/

set_option autoImplicit false

namespace ProxyTunnel.HeadText

-- Of all parts of the text `s` from its start, `p` is the shortest on which there is a verdict.
def FirstVerdict (s p : Bytes) (t : Termination) : Prop :=
  p <+: s ∧ verdict p = some t ∧ ∀ q, q <+: p → q ≠ p → verdict q = none

-- What is stored of a text, and why reading stops, when `ending` is what comes after the text.
def Stores (s : Bytes) (ending : Termination) (stored : Bytes) (t : Termination) : Prop :=
  FirstVerdict s stored t ∨ ((∀ q, q <+: s → verdict q = none) ∧ stored = s ∧ t = ending)

theorem course_stores (used rest : List ReadOutcome) (t : Termination)
    (course : Course [] used rest t) :
    Stores (withoutReturns (delivered (used ++ rest))) (cutoff (used ++ rest)) (text used) t := by
  rcases course.stop with ⟨passing, stop⟩ | ⟨quiet, cut, finished⟩
  · refine .inl ⟨?_, stop, course_prefix used rest t course⟩
    rw [delivered_append used rest passing]
    simp [text, withoutReturns]
  · have silent : ∀ q, q <+: text used → verdict q = none := by
      intro q part
      by_cases proper : q = text used
      · rw [proper]
        exact quiet
      · exact course_prefix used rest t course q part proper
    have whole : withoutReturns (delivered (used ++ rest)) = text used ∧
        cutoff (used ++ rest) = cutoff used := by
      rcases course_shape [] used rest t course with passing | ⟨part, o, rfl, passing, halts⟩
      · rw [finished passing, List.append_nil]
        have all := delivered_append used [] passing
        rw [List.append_nil] at all
        exact ⟨by rw [all]; simp [text, delivered], rfl⟩
      · rw [List.append_assoc, List.singleton_append, delivered_append part _ passing,
          delivered_halt o rest halts, cutoff_append part _ passing, cutoff_append part _ passing,
          cutoff_halt o rest halts, text_append, text_halted o halts]
        simp [text]
    rw [whole.1, whole.2]
    exact .inr ⟨silent, rfl, cut⟩

theorem read_head (outcomes : List ReadOutcome) : ∃ used rest t, outcomes = used ++ rest ∧
    Head.read outcomes = (headOf (text used) t, rest) ∧ Course [] used rest t :=
  read_course outcomes [] (by decide)

theorem head_tokenizes (outcomes : List ReadOutcome) :
    let head := (Head.read outcomes).1
    Stores (withoutReturns (delivered outcomes)) (cutoff outcomes) head.stored head.termination ∧
      head.size = head.stored.length ∧
      head.lines.length = head.stored.count 10 ∧
      head.statusLine = Utf8.lossy ((lines head.stored).head?.getD head.stored) ∧
      head.headers = (fields head.stored).filter (·.1 ≠ []) ∧
      ∀ name, head.get? name =
        ((fields head.stored).find? (·.1 = Utf8.encode name)).bind fun field =>
          if field.2 = [] then none else Utf8.decode? field.2 := by
  obtain ⟨used, rest, t, rfl, read, course⟩ := read_head outcomes
  rw [read]
  refine ⟨course_stores used rest t course, rfl, head_lines_length _ t, ?_, head_headers _ t,
    head_get _ t⟩
  rw [Head.statusLine, head_status]
  rfl

end ProxyTunnel.HeadText
