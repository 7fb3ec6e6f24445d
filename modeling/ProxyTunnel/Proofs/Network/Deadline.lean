import ProxyTunnel.Proofs.Network.Reading
import ProxyTunnel.Proofs.Response.StillOpen

/-!
When reading a head fails for want of time: some arrivals have been read in time and leave the head
open, and the wait for what comes next outlasts the deadline. Besides that only a read which itself
reports a time-out ends the same way.
-/

set_option autoImplicit false

namespace ProxyTunnel

namespace Patience

-- A wait that outlasts the deadline: the time is up before it begins, or nothing is ready before it
-- is given up. A wait that is refused does not outlast anything.
def Outlasts (p : Patience) (now : Nat) (ready : Option Nat) : Prop :=
  ∃ deadline, p.deadline = some deadline ∧ (deadline ≤ now ∨ (p.barred = false ∧
    ∀ time, ready = some time →
      now + waitMillis (deadline - now) * Duration.nanosPerMilli < time))

theorem await_timed_out (p : Patience) (now : Nat) (ready : Option Nat) :
    (p.await now ready).1 = .failed .timedOut ↔ p.Outlasts now ready := by
  rcases p with ⟨_ | deadline, blocking, barred, lapses⟩
  · have unlimited : ¬ Outlasts ⟨none, blocking, barred, lapses⟩ now ready := by simp [Outlasts]
    cases ready with
    | none =>
        simp only [unlimited, iff_false, await]
        split_ifs <;> simp
    | some time =>
        simp only [unlimited, iff_false, await]
        split_ifs <;> simp
  · simp only [await, Outlasts, Option.some.injEq, exists_eq_left']
    by_cases late : deadline ≤ now
    · simp [late]
    · cases barred with
      | true => simp [late]
      | false =>
          cases ready with
          | none => simp [late]
          | some time =>
              by_cases ready : time ≤ now + waitMillis (deadline - now) * Duration.nanosPerMilli
              · simp [late, ready]
              · simp [late, ready, Nat.lt_of_not_le ready]

-- When the reads of these arrivals are over that are made one after another, if none of their waits
-- is given up.
def readsThrough (p : Patience) (now : Nat) : List Arrival → Option Nat
  | [] => some now
  | a :: rest =>
      match p.await now (some a.time) with
      | (.ready, time) => p.readsThrough time rest
      | _ => none

end Patience

namespace Inbound

-- What a read can find next once these arrivals are left, and when.
def nextReady (i : Inbound) (rest : List Arrival) : Option Nat :=
  (rest.head?.map (·.time)).or i.endReady

def nextFound (i : Inbound) (rest : List Arrival) : ReadOutcome :=
  (rest.head?.map (·.outcome)).getD i.endOutcome

-- What the next read comes to.
def nextRead (i : Inbound) (p : Patience) (now : Nat) (rest : List Arrival) : ReadOutcome :=
  match (p.await now (i.nextReady rest)).1 with
  | .failed failure => .failed failure
  | _ => i.nextFound rest

theorem outcomes_next (i : Inbound) (p : Patience) (now : Nat) (rest : List Arrival) :
    ∃ more, (rest = [] → more = []) ∧ i.outcomesFrom p now rest =
      (i.nextRead p now rest, (p.await now (i.nextReady rest)).2) :: more := by
  cases rest with
  | nil =>
      have ready : i.nextReady [] = i.endReady := rfl
      have found : i.nextFound [] = i.endOutcome := rfl
      rw [outcomesFrom, nextRead, ready, found]
      rcases p.await now i.endReady with ⟨_ | failure | _, time⟩ <;> exact ⟨[], fun _ => rfl, rfl⟩
  | cons a rest =>
      have ready : i.nextReady (a :: rest) = some a.time := rfl
      have found : i.nextFound (a :: rest) = a.outcome := rfl
      rw [outcomesFrom, nextRead, ready, found]
      rcases p.await now (some a.time) with ⟨_ | failure | _, time⟩ <;>
        exact ⟨_, fun last => absurd last (List.cons_ne_nil _ _), rfl⟩

-- Whatever is met after some outcomes is met by a read after their arrivals, which is over when its
-- wait is, and the other way round; both by induction on what is read before.
theorem outcomes_reach (i : Inbound) (p : Patience) (now : Nat) (arrivals : List Arrival)
    (part more : List (ReadOutcome × Nat)) (o : ReadOutcome) (stop : Nat)
    (split : i.outcomesFrom p now arrivals = part ++ (o, stop) :: more) :
    ∃ read rest time, arrivals = read ++ rest ∧ part.map (·.1) = read.map (·.outcome) ∧
      p.readsThrough now read = some time ∧ o = i.nextRead p time rest ∧
      stop = (p.await time (i.nextReady rest)).2 := by
  induction part generalizing now arrivals with
  | nil =>
      obtain ⟨later, _, next⟩ := outcomes_next i p now arrivals
      rw [next, List.nil_append, List.cons.injEq, Prod.mk.injEq] at split
      exact ⟨[], arrivals, now, rfl, rfl, rfl, split.1.1.symm, split.1.2.symm⟩
  | cons first part ih =>
      cases arrivals with
      | nil =>
          rw [outcomesFrom] at split
          rcases waited : p.await now i.endReady with ⟨_ | failure | _, time⟩ <;>
            simp [waited] at split
      | cons a arrivals =>
          rw [outcomesFrom] at split
          rcases waited : p.await now (some a.time) with ⟨_ | failure | _, time⟩
          · rw [waited] at split
            obtain ⟨rfl, later⟩ : (a.outcome, time) = first ∧
                i.outcomesFrom p time arrivals = part ++ (o, stop) :: more := by
              simpa using split
            obtain ⟨read, rest, ended, rfl, same, through, found⟩ := ih time arrivals later
            refine ⟨a :: read, rest, ended, rfl, by simp [same], ?_, found⟩
            rw [Patience.readsThrough, waited]
            exact through
          · rw [waited] at split
            simp at split
          · exact absurd (congrArg Prod.fst waited) (Patience.await_some p now a.time)

theorem outcomes_after (i : Inbound) (p : Patience) (now time : Nat) (read rest : List Arrival)
    (through : p.readsThrough now read = some time) :
    ∃ more, (rest = [] → more = []) ∧ (i.outcomesFrom p now (read ++ rest)).map (·.1) =
      read.map (·.outcome) ++ i.nextRead p time rest :: more := by
  induction read generalizing now with
  | nil =>
      obtain rfl : now = time := Option.some.inj through
      obtain ⟨more, last, next⟩ := outcomes_next i p now rest
      refine ⟨more.map (·.1), fun done => by rw [last done]; rfl, ?_⟩
      rw [List.nil_append, next]
      rfl
  | cons a read ih =>
      rw [Patience.readsThrough] at through
      rcases waited : p.await now (some a.time) with ⟨_ | failure | _, next⟩
      · rw [waited] at through
        obtain ⟨more, last, later⟩ := ih next through
        refine ⟨more, last, ?_⟩
        rw [List.cons_append, outcomesFrom, waited]
        simp only [List.map_cons, List.cons_append, later]
      · rw [waited] at through
        cases through
      · exact absurd (congrArg Prod.fst waited) (Patience.await_some p now a.time)

-- These arrivals are read in time, and the head is still open after them.
def Awaits (i : Inbound) (p : Patience) (now time : Nat) (rest : List Arrival) : Prop :=
  ∃ read, i.arrivals = read ++ rest ∧ HeadText.Open (read.map (·.outcome)) ∧
    p.readsThrough now read = some time

-- The deadline expires before the head is complete.
def Expires (i : Inbound) (p : Patience) (now : Nat) : Prop :=
  ∃ rest time, i.Awaits p now time rest ∧ p.Outlasts time (i.nextReady rest)

-- A read that is made in time reports itself that time has run out.
def ReportsTimeOut (i : Inbound) (p : Patience) (now : Nat) : Prop :=
  ∃ rest time, i.Awaits p now time rest ∧ (p.await time (i.nextReady rest)).1 = .ready ∧
    i.nextFound rest = .failed .timedOut

-- A wait that never ends is one for the end of a stream that has none.
theorem never_awaits (i : Inbound) (p : Patience) (now : Nat) (rest : List Arrival)
    (never : (p.await now (i.nextReady rest)).1 = .never) : rest = [] ∧ i.endReady = none := by
  cases rest with
  | cons a rest => exact absurd never (Patience.await_some p now a.time)
  | nil =>
      refine ⟨rfl, ?_⟩
      have ready : i.nextReady [] = i.endReady := rfl
      rw [ready] at never
      cases met : i.endReady with
      | none => rfl
      | some time => exact absurd (met ▸ never) (Patience.await_some p now time)

theorem end_unready (i : Inbound) (unready : i.endReady = none) :
    i.endOutcome = .failed .wouldBlock := by
  cases ending : i.ending <;> simp_all [endReady, endOutcome]

theorem next_timed_out (i : Inbound) (p : Patience) (time : Nat) (rest : List Arrival) :
    i.nextRead p time rest = .failed .timedOut ↔ p.Outlasts time (i.nextReady rest) ∨
      ((p.await time (i.nextReady rest)).1 = .ready ∧ i.nextFound rest = .failed .timedOut) := by
  rw [← Patience.await_timed_out, nextRead]
  cases waited : (p.await time (i.nextReady rest)).1 with
  | ready => simp
  | failed failure => simp
  | never =>
      obtain ⟨rfl, unready⟩ := never_awaits i p time rest waited
      have found : i.nextFound [] = .failed .wouldBlock := end_unready i unready
      simp [found]

-- A head that a time-out cuts short is read until the wait for what is next is over.
theorem timed_out_over (i : Inbound) (p : Patience) (now : Nat)
    (late : (i.readHead p now).1.termination = .readError .timedOut) :
    ∃ rest time, i.Awaits p now time rest ∧ i.nextRead p time rest = .failed .timedOut ∧
      (i.readHead p now).2.1 = (p.await time (i.nextReady rest)).2 := by
  obtain ⟨part, more, split, opened⟩ := (HeadText.read_fails_iff _ .timedOut rfl).mp late
  have course := HeadText.open_course part more (.failed .timedOut) opened rfl
  have read := HeadText.course_read _ more _ course
  rw [List.append_assoc, List.singleton_append, ← split] at read
  obtain ⟨before, last, pairs, rfl, lasts⟩ := List.map_eq_append_iff.mp split
  obtain ⟨⟨o, stop⟩, after, rfl, found, rfl⟩ := List.map_eq_cons_iff.mp lasts
  obtain ⟨arrived, rest, time, whole, same, through, next, waited⟩ :=
    outcomes_reach i p now i.arrivals before after o stop pairs
  refine ⟨rest, time, ⟨arrived, whole, same ▸ opened, through⟩, next.symm.trans found, ?_⟩
  rw [← waited]
  have used : (i.outcomes p now).length - (after.map (·.1)).length =
      (before ++ [(o, stop)]).length := by
    rw [pairs]
    simp only [List.length_append, List.length_cons, List.length_map, List.length_nil]
    omega
  have taken : (i.outcomes p now).take (before ++ [(o, stop)]).length = before ++ [(o, stop)] := by
    rw [pairs, List.append_cons before (o, stop) after, List.take_left]
  simp only [readHead, read, used, taken, List.getLast?_concat, Option.map_some, Option.getD_some]

theorem head_timed_out_iff (i : Inbound) (p : Patience) (now : Nat) :
    (i.readHead p now).1.termination = .readError .timedOut ↔
      i.Expires p now ∨ i.ReportsTimeOut p now := by
  have met : (i.readHead p now).1.termination = .readError .timedOut ↔
      ∃ rest time, i.Awaits p now time rest ∧ i.nextRead p time rest = .failed .timedOut := by
    constructor
    · intro late
      obtain ⟨rest, time, awaits, found, _⟩ := timed_out_over i p now late
      exact ⟨rest, time, awaits, found⟩
    · rintro ⟨rest, time, ⟨read, whole, opened, through⟩, found⟩
      obtain ⟨more, _, split⟩ := outcomes_after i p now time read rest through
      rw [← whole, found] at split
      exact (HeadText.read_fails_iff _ .timedOut rfl).mpr ⟨_, more, split, opened⟩
  simp only [met, next_timed_out, Expires, ReportsTimeOut, and_or_left, exists_or]

end Inbound

end ProxyTunnel
