import ProxyTunnel.Proofs.Network.Deadline

/-!
When reading a head never ends: no wait is limited, the far end falls silent without ending the
stream, and all that it has delivered by then leaves the head open.
-/

set_option autoImplicit false

namespace ProxyTunnel

-- Whoever waits without a limit waits until something is ready.
theorem Patience.unlimited_waits (p : Patience) (now ready : Nat) (unlimited : p.deadline = none)
    (blocking : p.blocking = true) : p.await now (some ready) = (.ready, max now ready) := by
  simp only [await, unlimited, blocking, if_true]
  by_cases early : ready ≤ now
  · rw [if_pos early, Nat.max_eq_left early]
  · rw [if_neg early, Nat.max_eq_right (Nat.le_of_not_le early)]

namespace Inbound

-- Every arrival is met without a limit, and then the end.
theorem unlimited_outcomes (i : Inbound) (p : Patience) (now : Nat) (arrivals : List Arrival)
    (unlimited : p.deadline = none) (blocking : p.blocking = true) :
    (i.outcomesFrom p now arrivals).map (·.1) = arrivals.map (·.outcome) ++ [i.endOutcome] := by
  induction arrivals generalizing now with
  | nil =>
      rw [outcomesFrom]
      cases met : i.endReady with
      | some time =>
          rw [p.unlimited_waits now time unlimited blocking]
          rfl
      | none =>
          have found := end_unready i met
          cases lapses : p.lapses <;> simp [Patience.await, unlimited, blocking, lapses, found]
  | cons a arrivals ih =>
      rw [outcomesFrom, p.unlimited_waits now a.time unlimited blocking]
      simp [ih]

theorem stalls_iff (i : Inbound) (p : Patience) (now : Nat) :
    i.stalls p now = true ↔ p.endless = true ∧ i.endReady = none ∧
      HeadText.Open (i.arrivals.map (·.outcome)) := by
  rw [stalls, Bool.and_eq_true, Bool.and_eq_true, Option.isNone_iff_eq_none, List.isEmpty_iff,
    and_assoc, and_congr_right_iff]
  intro endless
  rw [and_congr_right_iff]
  intro unready
  obtain ⟨unlimited, blocking, _⟩ :
      p.deadline = none ∧ p.blocking = true ∧ p.lapses = false := by
    simpa [Patience.endless, and_assoc] using endless
  rw [outcomes, unlimited_outcomes i p now i.arrivals unlimited blocking, end_unready i unready]
  rcases HeadText.open_or_ended (i.arrivals.map (·.outcome)) with
    opened | ⟨used, rest, head, all, ended⟩
  · have read := HeadText.course_read _ [] _
      (HeadText.open_course _ [] (.failed .wouldBlock) opened rfl)
    rw [List.append_nil] at read
    simp only [read, opened]
  · have closed : ¬ HeadText.Open (i.arrivals.map (·.outcome)) := by
      intro opened
      rw [all] at opened
      exact HeadText.open_unended used head (HeadText.open_part used rest opened) ended
    rw [all, List.append_assoc, ended]
    simp [all ▸ closed]

end Inbound

end ProxyTunnel
