import ProxyTunnel.Proofs.Response.Spans

/-!
The course of reading a head: which outcomes are used, what is stored of them and why reading stops.
Reading goes on as long as there is no verdict on the text, and it leaves alone what it does not
need for the verdict.
-/

set_option autoImplicit false

namespace ProxyTunnel.HeadText

-- Reading on from the text `p` uses the outcomes `used`, leaves `rest` and stops because of `t`.
structure Course (p : Bytes) (used rest : List ReadOutcome) (t : Termination) : Prop where
  going : ∀ part more, used = part ++ more → more ≠ [] →
    (∀ o ∈ part, passes o = true) ∧ verdict (p ++ text part) = none
  stop : ((∀ o ∈ used, passes o = true) ∧ verdict (p ++ text used) = some t) ∨
    (verdict (p ++ text used) = none ∧ t = cutoff used ∧
      ((∀ o ∈ used, passes o = true) → rest = []))

theorem text_append (a b : List ReadOutcome) : text (a ++ b) = text a ++ text b := by
  simp [text, withoutReturns]

theorem text_cons (o : ReadOutcome) (outcomes : List ReadOutcome) :
    text (o :: outcomes) = text [o] ++ text outcomes := text_append [o] outcomes

@[simp] theorem text_nil : text [] = [] := rfl

theorem text_halted (o : ReadOutcome) (halts : passes o = false) : text [o] = [] := by
  cases o with
  | byte b => cases halts
  | ended => rfl
  | failed failure => rfl

theorem text_kept (b : UInt8) (kept : b ≠ 13) : text [.byte b] = [b] := by
  simp [text, withoutReturns, ReadOutcome.byte?, kept]

theorem text_silent (b : UInt8) (silent : text [.byte b] = []) : b = 13 := by
  by_contra kept
  simp [text_kept b kept] at silent

theorem passing_cases (o : ReadOutcome) (goes : passes o = true) :
    text [o] = [] ∨ ∃ b, o = .byte b ∧ b ≠ 13 := by
  cases o with
  | ended => cases goes
  | failed failure => exact .inl rfl
  | byte b =>
      by_cases dropped : b = 13
      · exact .inl (by subst b; rfl)
      · exact .inr ⟨b, rfl, dropped⟩

theorem cutoff_cons (o : ReadOutcome) (outcomes : List ReadOutcome) (goes : passes o = true) :
    cutoff (o :: outcomes) = cutoff outcomes := by
  simp [cutoff, goes]

theorem verdict_none_length (s : Bytes) (quiet : verdict s = none) : s.length < 1023 := by
  unfold verdict at quiet
  split at quiet
  · cases quiet
  · split at quiet
    · cases quiet
    · split at quiet
      · cases quiet
      · omega

theorem read_room (p : Bytes) (quiet : verdict p = none) :
    ¬ Draft.byteLimit ≤ (draftOf p).stored.length :=
  Nat.not_le.mpr (verdict_none_length p quiet)

theorem read_silent (p : Bytes) (o : ReadOutcome) (outcomes : List ReadOutcome)
    (quiet : verdict p = none) (goes : passes o = true) (silent : text [o] = []) :
    (draftOf p).read (o :: outcomes) = (draftOf p).read outcomes := by
  rw [Draft.read.eq_def, if_neg (read_room p quiet)]
  cases o with
  | ended => cases goes
  | failed failure => cases failure <;> first | rfl | cases goes
  | byte b =>
      simp [text_silent b silent]

theorem read_halted (p : Bytes) (o : ReadOutcome) (outcomes : List ReadOutcome)
    (quiet : verdict p = none) (halts : passes o = false) :
    (draftOf p).read (o :: outcomes) = (headOf p (cutoff [o]), outcomes) := by
  rw [Draft.read.eq_def, if_neg (read_room p quiet)]
  cases o with
  | byte b => cases halts
  | ended => rfl
  | failed failure => cases failure <;> first | rfl | cases halts

theorem read_kept (p : Bytes) (b : UInt8) (outcomes : List ReadOutcome) (quiet : verdict p = none)
    (kept : b ≠ 13) :
    (draftOf p).read (.byte b :: outcomes) =
      match verdict (p ++ [b]) with
      | some t => (headOf (p ++ [b]) t, outcomes)
      | none => (draftOf (p ++ [b])).read outcomes := by
  rw [Draft.read.eq_def, if_neg (read_room p quiet)]
  simp only [if_neg kept, ← draft_push, draft_verdict (p ++ [b])]
  cases early : (draftOf (p ++ [b])).verdict with
  | some t => rfl
  | none =>
      by_cases full : 1023 ≤ (p ++ [b]).length
      · rw [if_pos full, Draft.read.eq_def, if_pos (by exact full)]
        rfl
      · rw [if_neg full]
        rfl

theorem course_cons (p : Bytes) (o : ReadOutcome) (used rest : List ReadOutcome) (t : Termination)
    (goes : passes o = true) (quiet : verdict p = none)
    (course : Course (p ++ text [o]) used rest t) :
    Course p (o :: used) rest t where
  going part more split left := by
    cases part with
    | nil => simpa using quiet
    | cons first part =>
        obtain ⟨rfl, rest⟩ : o = first ∧ used = part ++ more := by simpa using split
        obtain ⟨passing, silent⟩ := course.going part more rest left
        rw [text_cons, ← List.append_assoc]
        exact ⟨List.forall_mem_cons.mpr ⟨goes, passing⟩, silent⟩
  stop := by
    rw [text_cons, ← List.append_assoc]
    rcases course.stop with ⟨passing, verdict⟩ | ⟨silent, cut, finished⟩
    · exact .inl ⟨List.forall_mem_cons.mpr ⟨goes, passing⟩, verdict⟩
    · refine .inr ⟨silent, cut.trans (cutoff_cons o used goes).symm, ?_⟩
      intro passing
      exact finished (List.forall_mem_cons.mp passing).2

-- One outcome is used: only nothing comes before it.
theorem course_single (p : Bytes) (o : ReadOutcome) (rest : List ReadOutcome) (t : Termination)
    (quiet : verdict p = none)
    (stop : (passes o = true ∧ verdict (p ++ text [o]) = some t) ∨
      (passes o = false ∧ t = cutoff [o])) : Course p [o] rest t where
  going part more split left := by
    cases part with
    | nil => simpa using quiet
    | cons first part => simp_all
  stop := by
    rcases stop with ⟨goes, stop⟩ | ⟨halts, cut⟩
    · exact .inl ⟨by simpa using goes, stop⟩
    · exact .inr ⟨by rwa [text_halted o halts, List.append_nil], cut, fun passing => by simp_all⟩

-- The induction is on what there is to read; the text stored so far is arbitrary, but without a
-- verdict, so that there is room for one more byte.
theorem read_course (outcomes : List ReadOutcome) (p : Bytes) (quiet : verdict p = none) :
    ∃ used rest t, outcomes = used ++ rest ∧
      (draftOf p).read outcomes = (headOf (p ++ text used) t, rest) ∧ Course p used rest t := by
  induction outcomes generalizing p with
  | nil =>
      refine ⟨[], [], .endOfStream, rfl, ?_, ?_, ?_⟩
      · rw [Draft.read.eq_def, if_neg (read_room p quiet), text_nil, List.append_nil]
        rfl
      · intro part more split left
        simp_all
      · exact .inr ⟨by simpa using quiet, rfl, fun _ => rfl⟩
  | cons o outcomes ih =>
      by_cases goes : passes o = true
      · rcases passing_cases o goes with silent | ⟨b, rfl, kept⟩
        · obtain ⟨used, rest, t, split, read, course⟩ := ih p quiet
          refine ⟨o :: used, rest, t, by rw [split, List.cons_append], ?_, ?_⟩
          · rw [read_silent p o outcomes quiet goes silent, read, text_cons, silent,
              List.nil_append]
          · exact course_cons p o used rest t goes quiet (by rwa [silent, List.append_nil])
        · have step := read_kept p b outcomes quiet kept
          have stored := text_kept b kept
          cases stop : verdict (p ++ [b]) with
          | some t =>
              rw [stop] at step
              refine ⟨[.byte b], outcomes, t, rfl, by rw [step, stored], ?_⟩
              exact course_single p (.byte b) outcomes t quiet (.inl ⟨rfl, by rwa [stored]⟩)
          | none =>
              rw [stop] at step
              obtain ⟨used, rest, t, split, read, course⟩ := ih (p ++ [b]) stop
              refine ⟨.byte b :: used, rest, t, by rw [split, List.cons_append], ?_, ?_⟩
              · rw [step, text_cons, stored, ← List.append_assoc]
                exact read
              · exact course_cons p (.byte b) used rest t rfl quiet (by rwa [stored])
      · have halts : passes o = false := Bool.eq_false_iff.mpr goes
        refine ⟨[o], outcomes, cutoff [o], rfl, ?_, ?_⟩
        · rw [read_halted p o outcomes quiet halts, text_halted o halts, List.append_nil]
        · exact course_single p o outcomes _ quiet (.inr ⟨halts, rfl⟩)

-- Only the last outcome used may be one that reading does not go on after.
theorem course_shape (p : Bytes) (used rest : List ReadOutcome) (t : Termination)
    (course : Course p used rest t) : (∀ o ∈ used, passes o = true) ∨
      ∃ part o, used = part ++ [o] ∧ (∀ x ∈ part, passes x = true) ∧ passes o = false := by
  rcases List.eq_nil_or_concat used with rfl | ⟨part, o, rfl⟩
  · exact .inl (by simp)
  · rw [List.concat_eq_append] at course ⊢
    have passing := (course.going part [o] rfl (by simp)).1
    cases goes : passes o with
    | true => exact .inl (List.forall_mem_append.mpr ⟨passing, by simpa using goes⟩)
    | false => exact .inr ⟨part, o, rfl, passing, goes⟩

theorem text_split (outcomes : List ReadOutcome) (q r : Bytes) (split : text outcomes = q ++ r) :
    ∃ part more, outcomes = part ++ more ∧ text part = q ∧ text more = r := by
  obtain ⟨first, second, bytes, left, right⟩ := List.filter_eq_append_iff.mp split
  obtain ⟨part, more, whole, leftBytes, rightBytes⟩ := List.filterMap_eq_append_iff.mp bytes
  refine ⟨part, more, whole, ?_, ?_⟩
  · rw [text, leftBytes]
    exact left
  · rw [text, rightBytes]
    exact right

theorem course_prefix (used rest : List ReadOutcome) (t : Termination)
    (course : Course [] used rest t) (q : Bytes) (part : q <+: text used) (proper : q ≠ text used) :
    verdict q = none := by
  obtain ⟨r, split⟩ := part
  obtain ⟨before, more, whole, same, remaining⟩ := text_split used q r split.symm
  have left : more ≠ [] := by
    intro nothing
    rw [nothing, List.append_nil] at whole
    exact proper (by rw [whole, same])
  simpa [same] using (course.going before more whole left).2

theorem delivered_append (a b : List ReadOutcome) (passing : ∀ o ∈ a, passes o = true) :
    delivered (a ++ b) = a.filterMap ReadOutcome.byte? ++ delivered b := by
  rw [delivered, List.takeWhile_append_of_pos passing, List.filterMap_append]
  rfl

theorem cutoff_append (a b : List ReadOutcome) (passing : ∀ o ∈ a, passes o = true) :
    cutoff (a ++ b) = cutoff b := by
  have absent : a.find? (!passes ·) = none := List.find?_eq_none.mpr (by simpa using passing)
  simp [cutoff, absent]

theorem delivered_halt (o : ReadOutcome) (rest : List ReadOutcome) (halts : passes o = false) :
    delivered (o :: rest) = [] := by
  simp [delivered, halts]

theorem cutoff_halt (o : ReadOutcome) (rest : List ReadOutcome) (halts : passes o = false) :
    cutoff (o :: rest) = cutoff [o] := by
  simp [cutoff, halts]

end ProxyTunnel.HeadText
