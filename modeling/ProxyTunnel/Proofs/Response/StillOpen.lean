import Mathlib.Data.List.Infix
import ProxyTunnel.Proofs.Response.Lookahead

/-!
Heads that are still open: all outcomes so far are ones that reading goes on after, and there is no
verdict yet on the text. Reading stops with the first outcome that leaves the head open no more.
-/

set_option autoImplicit false

namespace ProxyTunnel.HeadText

-- The head is still open after these outcomes.
def Open (outcomes : List ReadOutcome) : Prop :=
  (∀ o ∈ outcomes, passes o = true) ∧ ∀ q, q <+: text outcomes → verdict q = none

theorem open_part (part more : List ReadOutcome) (opened : Open (part ++ more)) : Open part := by
  refine ⟨(List.forall_mem_append.mp opened.1).1, fun q within => opened.2 q ?_⟩
  rw [text_append]
  exact within.trans (List.prefix_append _ _)

instance decidableOpen (outcomes : List ReadOutcome) : Decidable (Open outcomes) :=
  decidable_of_iff ((∀ o ∈ outcomes, passes o = true) ∧
    ∀ q ∈ (text outcomes).inits, verdict q = none) (by simp only [Open, List.mem_inits])

-- All that comes before the next outcome leaves the head open as well.
theorem open_going (part before after : List ReadOutcome) (o : ReadOutcome) (opened : Open part)
    (split : part ++ [o] = before ++ after) (left : after ≠ []) :
    (∀ o ∈ before, passes o = true) ∧ verdict (text before) = none := by
  obtain ⟨more, rfl⟩ := front_within part before after o split left
  have front := open_part before more opened
  exact ⟨front.1, front.2 _ (List.prefix_refl _)⟩

theorem open_course (part rest : List ReadOutcome) (o : ReadOutcome) (opened : Open part)
    (halts : passes o = false) : Course [] (part ++ [o]) rest (cutoff [o]) := by
  have quiet := opened.2 _ (List.prefix_refl _)
  refine ⟨fun before after split left => open_going part before after o opened split left,
    .inr ⟨?_, ?_, ?_⟩⟩
  · rwa [text_append, text_halted o halts, List.append_nil, List.nil_append]
  · exact (cutoff_append part [o] opened.1).symm
  · intro passing
    have goes := passing o (by simp)
    rw [halts] at goes
    cases goes

-- A head is cut short by a failure that is met while the head is open.
theorem read_fails_iff (outcomes : List ReadOutcome) (failure : ReadFailure)
    (final : passes (.failed failure) = false) :
    (Head.read outcomes).1.termination = .readError failure ↔
      ∃ part rest, outcomes = part ++ .failed failure :: rest ∧ Open part := by
  constructor
  · obtain ⟨used, rest, t, rfl, read, course⟩ := read_course outcomes [] (by decide)
    change Head.read _ = _ at read
    rw [read]
    rintro rfl
    rcases course.stop with ⟨_, stop⟩ | ⟨quiet, cut, _⟩
    · have inside := verdict_inside _ _ stop
      simp at inside
    · rcases course_shape [] used rest _ course with passing | ⟨part, o, rfl, passing, halts⟩
      · have ended := cutoff_append used [] passing
        rw [List.append_nil] at ended
        rw [ended] at cut
        cases cut
      · rw [cutoff_append part _ passing, eq_comm, cutoff_failed o halts] at cut
        subst o
        rw [List.nil_append, text_append, text_halted _ halts, List.append_nil] at quiet
        refine ⟨part, rest, by simp, passing, fun q within => ?_⟩
        by_cases whole : q = text part
        · rwa [whole]
        · refine course_prefix _ rest _ course q ?_ ?_
          · rwa [text_append, text_halted _ halts, List.append_nil]
          · rwa [text_append, text_halted _ halts, List.append_nil]
  · rintro ⟨part, rest, rfl, opened⟩
    have course := open_course part rest (.failed failure) opened final
    have read := course_read _ rest _ course
    rw [List.append_assoc, List.singleton_append] at read
    rw [read]
    exact (cutoff_failed _ final failure).mpr rfl

theorem open_snoc (part : List ReadOutcome) (o : ReadOutcome) (opened : Open part)
    (goes : passes o = true) (quiet : verdict (text (part ++ [o])) = none) :
    Open (part ++ [o]) := by
  refine ⟨List.forall_mem_append.mpr ⟨opened.1, by simpa using goes⟩, fun q within => ?_⟩
  rcases passing_cases o goes with silent | ⟨b, rfl, kept⟩
  · rw [text_append, silent, List.append_nil] at within
    exact opened.2 q within
  · have grown := within
    rw [text_append, text_kept b kept, List.prefix_concat_iff] at grown
    rcases grown with whole | before
    · rwa [whole, ← text_kept b kept, ← text_append]
    · exact opened.2 q before

theorem open_stops (part rest : List ReadOutcome) (o : ReadOutcome) (t : Termination)
    (opened : Open part) (goes : passes o = true)
    (stop : verdict (text (part ++ [o])) = some t) : Course [] (part ++ [o]) rest t where
  going before after split left := open_going part before after o opened split left
  stop := .inl ⟨List.forall_mem_append.mpr ⟨opened.1, by simpa using goes⟩, stop⟩

-- Reading is over with these outcomes, whatever comes after them.
def Ended (outcomes : List ReadOutcome) (head : Head) : Prop :=
  ∀ more, Head.read (outcomes ++ more) = (head, more)

theorem course_ended (outcomes : List ReadOutcome) (t : Termination)
    (course : ∀ rest, Course [] outcomes rest t) : Ended outcomes (headOf (text outcomes) t) :=
  fun more => course_read outcomes more t (course more)

-- The induction is on what has been read; the last outcome leaves the head open or ends it.
theorem open_or_ended (outcomes : List ReadOutcome) :
    Open outcomes ∨ ∃ used rest head, outcomes = used ++ rest ∧ Ended used head := by
  induction outcomes using List.reverseRecOn with
  | nil => exact .inl ⟨by simp, fun q within => by rw [List.prefix_nil.mp within]; decide⟩
  | append_singleton part o ih =>
      rcases ih with opened | ⟨used, rest, head, rfl, ended⟩
      · have whole : part ++ [o] = part ++ [o] ++ [] := (List.append_nil _).symm
        cases goes : passes o with
        | false =>
            exact .inr ⟨part ++ [o], [], _, whole, course_ended _ (cutoff [o]) fun rest =>
              open_course part rest o opened goes⟩
        | true =>
            cases stop : verdict (text (part ++ [o])) with
            | none => exact .inl (open_snoc part o opened goes stop)
            | some t =>
                exact .inr ⟨part ++ [o], [], _, whole, course_ended _ t fun rest =>
                  open_stops part rest o t opened goes stop⟩
      · exact .inr ⟨used, rest ++ [o], head, List.append_assoc _ _ _, ended⟩

theorem open_unended (outcomes : List ReadOutcome) (head : Head) (opened : Open outcomes) :
    ¬ Ended outcomes head := by
  intro ended
  have read := course_read _ [] _ (open_course outcomes [] .ended opened rfl)
  rw [List.append_nil, ended] at read
  cases read

end ProxyTunnel.HeadText
