import ProxyTunnel.Network.Inbound
import ProxyTunnel.Proofs.Response.Tokenizer

/-!
What reading a head off a descriptor meets and what it leaves: arrivals in their order and then one
more outcome, which is the end of the stream or a wait that was given up.
-/

set_option autoImplicit false

namespace ProxyTunnel

namespace Patience

-- The failures with which a wait for something that arrives is given up.
def GivesUp (p : Patience) (failure : ReadFailure) : Prop :=
  failure = .timedOut ∨
    (failure = .invalidInput ∧ p.deadline ≠ none ∧ p.barred = true) ∨
    (failure = .wouldBlock ∧ p.deadline = none ∧ p.blocking = false)

theorem await_gives_up (p : Patience) (now ready : Nat) (failure : ReadFailure) (time : Nat)
    (ended : p.await now (some ready) = (.failed failure, time)) : p.GivesUp failure := by
  rcases p with ⟨_ | deadline, blocking, barred, lapses⟩
  · cases blocking with
    | true =>
        simp only [await, if_true] at ended
        split at ended <;> cases ended
    | false =>
        simp only [await, Bool.false_eq_true, if_false] at ended
        split at ended
        · cases ended
        · cases ended
          exact .inr (.inr ⟨rfl, rfl, rfl⟩)
  · simp only [await] at ended
    split at ended
    · cases ended
      exact .inl rfl
    · split at ended
      · cases ended
        exact .inr (.inl ⟨rfl, by simp, by assumption⟩)
      · split at ended
        · cases ended
        · cases ended
          exact .inl rfl

-- Something that is ready at a time is never waited for in vain.
theorem await_some (p : Patience) (now ready : Nat) : (p.await now (some ready)).1 ≠ .never := by
  rcases p with ⟨_ | deadline, blocking, barred, lapses⟩
  · simp only [await]
    split_ifs <;> simp
  · simp only [await]
    split_ifs <;> simp

theorem await_barred (p : Patience) (now : Nat) (ready : Option Nat)
    (limited : p.deadline ≠ none) (barred : p.barred = true) :
    ∃ failure, (p.await now ready).1 = .failed failure := by
  rcases p with ⟨_ | deadline, blocking, barred, lapses⟩
  · exact absurd rfl limited
  · cases barred
    simp only [await, if_true]
    split <;> exact ⟨_, rfl⟩

end Patience

namespace Inbound

-- The outcomes that reading meets: the first `k` arrivals and one more, which is no byte.
structure Meets (p : Patience) (arrivals : List Arrival) (outcomes : List ReadOutcome) (k : Nat)
    (final : ReadOutcome) : Prop where
  within : k ≤ arrivals.length
  split : outcomes = (arrivals.take k).map (·.outcome) ++ [final]
  last : final.byte? = none
  early : k < arrivals.length → ∃ failure, final = .failed failure ∧ p.GivesUp failure
  unpolled : p.deadline ≠ none → p.barred = true → k = 0

theorem end_outcome_byte (i : Inbound) : i.endOutcome.byte? = none := by
  cases ending : i.ending <;> simp [endOutcome, ending, ReadOutcome.byte?]

theorem outcomes_meet (i : Inbound) (p : Patience) (now : Nat) (arrivals : List Arrival) :
    ∃ k final, Meets p arrivals ((i.outcomesFrom p now arrivals).map (·.1)) k final := by
  induction arrivals generalizing now with
  | nil =>
      rw [outcomesFrom]
      rcases p.await now i.endReady with ⟨_ | failure | _, time⟩
      · exact ⟨0, i.endOutcome, by simp, rfl, end_outcome_byte i, by simp, fun _ _ => rfl⟩
      · exact ⟨0, .failed failure, by simp, rfl, rfl, by simp, fun _ _ => rfl⟩
      · exact ⟨0, i.endOutcome, by simp, rfl, end_outcome_byte i, by simp, fun _ _ => rfl⟩
  | cons a arrivals ih =>
      rw [outcomesFrom]
      rcases waited : p.await now (some a.time) with ⟨_ | failure | _, time⟩
      · obtain ⟨k, final, met⟩ := ih time
        refine ⟨k + 1, final, Nat.succ_le_succ met.within, ?_, met.last, ?_, ?_⟩
        · simp only [List.map_cons, List.take_succ_cons, List.cons_append, met.split]
        · intro short
          exact met.early (Nat.lt_of_succ_lt_succ short)
        · intro limited full
          obtain ⟨_, fails⟩ := Patience.await_barred p now (some a.time) limited full
          rw [waited] at fails
          cases fails
      · refine ⟨0, .failed failure, by simp, rfl, rfl, ?_, fun _ _ => rfl⟩
        intro _
        exact ⟨failure, rfl, Patience.await_gives_up p now a.time failure time waited⟩
      · exact absurd (congrArg Prod.fst waited) (Patience.await_some p now a.time)

-- Where waiting is refused, that is all that a read finds.
theorem barred_outcomes (i : Inbound) (p : Patience) (now : Nat) (limited : p.deadline ≠ none)
    (barred : p.barred = true) : ∃ failure time, i.outcomes p now = [(.failed failure, time)] := by
  rw [outcomes]
  cases i.arrivals with
  | nil =>
      obtain ⟨failure, refused⟩ := Patience.await_barred p now i.endReady limited barred
      rw [outcomesFrom]
      rcases waited : p.await now i.endReady with ⟨ended, time⟩
      rw [waited] at refused
      cases refused
      exact ⟨failure, time, rfl⟩
  | cons a rest =>
      obtain ⟨failure, refused⟩ := Patience.await_barred p now (some a.time) limited barred
      rw [outcomesFrom]
      rcases waited : p.await now (some a.time) with ⟨ended, time⟩
      rw [waited] at refused
      cases refused
      exact ⟨failure, time, rfl⟩

-- What reading a head uses of the outcomes that it meets, and what is left to be read.
structure Reads (i : Inbound) (p : Patience) (now : Nat) (k : Nat) (final : ReadOutcome)
    (used rest : List ReadOutcome) (t : Termination) : Prop where
  met : Meets p i.arrivals (used ++ rest) k final
  course : HeadText.Course [] used rest t
  head : (i.readHead p now).1 = HeadText.headOf (HeadText.text used) t
  left : (i.readHead p now).2.2.arrivals = i.arrivals.drop (min used.length k)

theorem read_head_reads (i : Inbound) (p : Patience) (now : Nat) :
    ∃ k final used rest t, Reads i p now k final used rest t := by
  obtain ⟨k, final, met⟩ := outcomes_meet i p now i.arrivals
  obtain ⟨used, rest, t, split, read, course⟩ :=
    HeadText.read_head ((i.outcomes p now).map (·.1))
  have total : (i.outcomes p now).length = used.length + rest.length := by
    rw [← List.length_map (·.1), split, List.length_append]
  have whole : used.length + rest.length = k + 1 := by
    have lengths := congrArg List.length met.split
    have within := met.within
    simp only [List.length_map, List.length_append, List.length_take, List.length_singleton]
      at lengths
    rw [← total, outcomes]
    omega
  refine ⟨k, final, used, rest, t, ?_, course, ?_, ?_⟩
  · rw [← split]
    exact met
  · simp only [readHead, read]
  · simp only [readHead, read, consume, total, whole]
    congr 1
    omega

end Inbound

end ProxyTunnel
