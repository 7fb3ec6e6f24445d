import ProxyTunnel.Proofs.Response.Endless

/-!
Carriage returns and interruptions leave no mark. A read that is skipped leaves the draft as it is,
so the head depends on the other reads alone, wherever the skipped ones stand between them.
-/

set_option autoImplicit false

namespace ProxyTunnel.HeadText

instance (o : ReadOutcome) : Decidable (Skipped o) :=
  inferInstanceAs (Decidable (o = .byte 13 ∨ o = .failed .interrupted))

-- The reads that count.
def shown (outcomes : List ReadOutcome) : List ReadOutcome := outcomes.filter (¬ Skipped ·)

-- What one read makes of a draft with room: a head, or the draft to go on with.
def advance (d : Draft) : ReadOutcome → Head ⊕ Draft
  | .ended => .inl (d.finish .endOfStream)
  | .failed .interrupted => .inr d
  | .failed failure => .inl (d.finish (.readError failure))
  | .byte b =>
      if b = 13 then .inr d
      else
        match (d.push b).verdict with
        | some termination => .inl ((d.push b).finish termination)
        | none => .inr (d.push b)

theorem read_full (d : Draft) (outcomes : List ReadOutcome)
    (full : Draft.byteLimit ≤ d.stored.length) :
    d.read outcomes = (d.finish .bufferFull, outcomes) := by
  rw [Draft.read.eq_def, if_pos full]

theorem read_advances (d : Draft) (o : ReadOutcome) (rest : List ReadOutcome)
    (room : ¬ Draft.byteLimit ≤ d.stored.length) :
    d.read (o :: rest) =
      match advance d o with
      | .inl head => (head, rest)
      | .inr next => next.read rest := by
  rw [Draft.read.eq_def, if_neg room]
  cases o with
  | ended => rfl
  | failed failure => cases failure <;> rfl
  | byte b =>
      by_cases dropped : b = 13
      · simp only [advance, if_pos dropped]
      · simp only [advance, if_neg dropped]
        cases (d.push b).verdict <;> rfl

theorem advance_skipped (d : Draft) (o : ReadOutcome) (skipped : Skipped o) :
    advance d o = .inr d := by
  rcases skipped with rfl | rfl <;> rfl

theorem shown_skipped (o : ReadOutcome) (outcomes : List ReadOutcome) (skipped : Skipped o) :
    shown (o :: outcomes) = shown outcomes :=
  List.filter_cons_of_neg (by simpa using skipped)

theorem shown_kept (o : ReadOutcome) (outcomes : List ReadOutcome) (kept : ¬ Skipped o) :
    shown (o :: outcomes) = o :: shown outcomes :=
  List.filter_cons_of_pos (by simpa using kept)

-- The induction is on what there is to read. A full draft leaves everything alone, and otherwise a
-- skipped read changes nothing and any other one does the same to both drafts.
theorem read_shown (d : Draft) (outcomes : List ReadOutcome) :
    d.read (shown outcomes) = ((d.read outcomes).1, shown (d.read outcomes).2) := by
  induction outcomes generalizing d with
  | nil =>
      by_cases full : Draft.byteLimit ≤ d.stored.length
      · rw [read_full d [] full]
        exact read_full d [] full
      · have ended : d.read [] = (d.finish .endOfStream, []) := by
          rw [Draft.read.eq_def, if_neg full]
        rw [ended]
        exact ended
  | cons o outcomes ih =>
      by_cases full : Draft.byteLimit ≤ d.stored.length
      · rw [read_full d _ full, read_full d _ full]
      · rw [read_advances d o outcomes full]
        by_cases skipped : Skipped o
        · rw [shown_skipped o outcomes skipped, advance_skipped d o skipped]
          exact ih d
        · rw [shown_kept o outcomes skipped, read_advances d o _ full]
          cases advance d o with
          | inl head => rfl
          | inr next => exact ih next

theorem read_spends (outcomes : List ReadOutcome) :
    ∃ used, outcomes = used ++ (Head.read outcomes).2 ∧
      bytesAmong used = (Head.read outcomes).1.size + used.count (.byte 13) := by
  obtain ⟨used, rest, t, split, read, _⟩ := read_course outcomes [] (by decide)
  change Head.read outcomes = _ at read
  rw [read]
  exact ⟨used, split, bytes_stored used⟩

theorem shown_append (a b : List ReadOutcome) : shown (a ++ b) = shown a ++ shown b :=
  List.filter_append _ _

-- Skipped reads before the one that ends the reading do not move that one.
theorem read_shown_before (d : Draft) (before after : List ReadOutcome)
    (reaches : (d.read (before ++ after)).2.length < after.length ∨
      (d.read (shown before ++ after)).2.length < after.length) :
    d.read (before ++ after) = d.read (shown before ++ after) := by
  induction before generalizing d with
  | nil => rfl
  | cons o before ih =>
      by_cases full : Draft.byteLimit ≤ d.stored.length
      · simp only [read_full d _ full, List.length_append] at reaches
        omega
      · rw [List.cons_append, read_advances d o _ full] at reaches ⊢
        by_cases skipped : Skipped o
        · rw [shown_skipped o before skipped, advance_skipped d o skipped] at reaches ⊢
          exact ih d reaches
        · rw [shown_kept o before skipped, List.cons_append, read_advances d o _ full]
            at reaches ⊢
          cases next : advance d o with
          | inl head =>
              simp only [next, List.length_append] at reaches
              omega
          | inr next' =>
              simp only [next] at reaches
              exact ih next' reaches

theorem reads_alike (outcomes outcomes' : List ReadOutcome)
    (same : shown outcomes = shown outcomes') : (Head.read outcomes).1 = (Head.read outcomes').1 ∧
      shown (Head.read outcomes).2 = shown (Head.read outcomes').2 := by
  have first := read_shown Draft.empty outcomes
  rw [same, read_shown Draft.empty outcomes', Prod.mk.injEq] at first
  exact ⟨first.1.symm, first.2.symm⟩

theorem skips_unseen :
    (∀ before before' after, shown before = shown before' →
      (Head.read (before ++ after)).1 = (Head.read (before' ++ after)).1 ∧
      shown (Head.read (before ++ after)).2 = shown (Head.read (before' ++ after)).2 ∧
      ((Head.read (before ++ after)).2.length < after.length →
        (Head.read (before ++ after)).2 = (Head.read (before' ++ after)).2)) ∧
    ∀ outcomes, ∃ used, outcomes = used ++ (Head.read outcomes).2 ∧
      bytesAmong used = (Head.read outcomes).1.size + used.count (.byte 13) := by
  refine ⟨fun before before' after same => ?_, read_spends⟩
  obtain ⟨head, left⟩ := reads_alike (before ++ after) (before' ++ after) (by
    rw [shown_append, shown_append, same])
  refine ⟨head, left, fun reaches => congrArg Prod.snd ?_⟩
  have bare := read_shown_before Draft.empty before after (.inl reaches)
  have reaches' : (Draft.empty.read (shown before' ++ after)).2.length < after.length := by
    rw [← same, ← bare]
    exact reaches
  exact bare.trans (same ▸ (read_shown_before Draft.empty before' after (.inr reaches')).symm)

-- A head with a return inside its key, one between the colon and the value, and an interruption and
-- a return on its blank line.
theorem skips_unseen_in_header :
    let before := [72, 10, 75, 58, 32, 118, 10].map ReadOutcome.byte
    let before' := [72, 13, 10, 75, 13, 58, 13, 32, 118, 10].map ReadOutcome.byte ++
      [.failed .interrupted, .byte 13]
    let after := [ReadOutcome.byte 10, .byte 81]
    shown before = shown before' ∧ (Head.read (before ++ after)).2.length < after.length ∧
      (Head.read (before' ++ after)).1.headers = [([75], [118])] ∧
      (Head.read (before' ++ after)).2 = [.byte 81] := by
  intro before before' after
  have same : shown before = shown before' := by decide
  have reaches : (Head.read (before ++ after)).2.length < after.length := by decide
  have headers : (Head.read (before ++ after)).1.headers = [([75], [118])] := by decide
  have left : (Head.read (before ++ after)).2 = [.byte 81] := by decide
  obtain ⟨head, _, exactly⟩ := skips_unseen.1 before before' after same
  exact ⟨same, reaches, head ▸ headers, exactly reaches ▸ left⟩

end ProxyTunnel.HeadText
