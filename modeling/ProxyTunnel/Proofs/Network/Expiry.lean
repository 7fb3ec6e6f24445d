import ProxyTunnel.Proofs.Network.Budget
import ProxyTunnel.Proofs.Network.Stalling

/-!
How early a reader may give up. A head is cut short for want of time only when the deadline is less
than a millisecond away or nothing has come for as long as one wait can last; a reply that ends
before that is read as if there were no deadline.
-/

set_option autoImplicit false

namespace ProxyTunnel.Inbound

open Duration

-- The head that is read where time does not matter.
def parsed (i : Inbound) : Head := (Head.read (i.arrivals.map (·.outcome) ++ [i.endOutcome])).1

-- The reply ends the head by a time that is a millisecond before the deadline, and is not silent
-- until then for as long as one wait can last.
structure Timely (i : Inbound) (start deadline time : Nat) : Prop where
  ahead : start < deadline
  ends : ¬ i.StaysOpen time
  early : time + nanosPerMilli ≤ deadline
  lively : ∀ since, start ≤ since → since + Patience.longestWait * nanosPerMilli ≤ time →
    ¬ i.Silent since (since + Patience.longestWait * nanosPerMilli)

variable (i : Inbound) (p : Patience) (start : Nat)

theorem timed_out_runs_out (late : (i.readHead p start).1.termination = .readError .timedOut) :
    i.ReportsTimeOut p start ∨ ∃ deadline, p.deadline = some deadline ∧
      i.RunsOut start deadline (i.readHead p start).2.1 := by
  obtain ⟨rest, time, awaits, found, stop⟩ := timed_out_over i p start late
  rcases (next_timed_out i p time rest).mp found with outlasts | ⟨waited, told⟩
  · obtain ⟨deadline, limited, _⟩ := id outlasts
    rw [stop]
    exact .inr ⟨deadline, limited,
      outlasts_runs_out i p deadline start time rest limited awaits outlasts⟩
  · exact .inl ⟨rest, time, awaits, waited, told⟩

variable (deadline : Nat) (limited : p.deadline = some deadline)
include limited

theorem timely_unexpired (time : Nat) (timely : i.Timely start deadline time) :
    ¬ i.Expires p start := by
  rintro ⟨rest, began, awaits, outlasts⟩
  have spent := outlasts_runs_out i p deadline start began rest limited awaits outlasts
  have within : (p.await began (i.nextReady rest)).2 ≤ time :=
    Nat.le_of_not_lt fun before => timely.ends (spent.opened timely.ahead time before)
  have early := timely.early
  rcases spent.due with due | ⟨since, later, longest, silent⟩
  · omega
  · rw [← longest] at silent within
    exact timely.lively since later within silent

-- Reading ends with what is read in time, or goes on to the end of the stream; it is the same then
-- whatever would have come after.
theorem unexpired_head (room : p.barred = false) (going : ¬ i.Expires p start) :
    (i.readHead p start).1 = i.parsed := by
  change (Head.read ((i.outcomes p start).map (·.1))).1 = i.parsed
  obtain ⟨read, rest, time, split, _, through, next⟩ :=
    p.reads_until i deadline start i.arrivals limited room
  obtain ⟨more, last, found⟩ := outcomes_after i p start time read rest through
  rw [outcomes, parsed, split, found, List.map_append]
  rcases next with outlasts | ⟨rfl, waited, _⟩
  · have closed : ¬ HeadText.Open (read.map (·.outcome)) := fun opened =>
      going ⟨rest, time, ⟨read, split, opened, through⟩, outlasts⟩
    obtain ⟨used, left, head, all, ended⟩ :=
      (HeadText.open_or_ended (read.map (·.outcome))).resolve_left closed
    rw [all]
    simp only [List.append_assoc, ended _]
  · have ready : i.nextReady [] = i.endReady := rfl
    rw [last rfl, nextRead, ready, waited]
    simp [nextFound]

omit limited

-- Whoever can wait and is not late reads all that there is to read.
theorem unexpired_parsed (waits : p.blocking = true) (room : p.deadline = none ∨ p.barred = false)
    (going : ¬ i.Expires p start) : (i.readHead p start).1 = i.parsed := by
  cases limited : p.deadline with
  | none =>
      change (Head.read ((i.outcomes p start).map (·.1))).1 = i.parsed
      rw [outcomes, unlimited_outcomes i p start i.arrivals limited waits]
      rfl
  | some deadline =>
      have free := room.resolve_left (by rw [limited]; exact Option.some_ne_none deadline)
      exact unexpired_head i p start deadline limited free going

-- Where nothing comes one wait is made, and it is taken for the whole time.
theorem silence_read (stop : Nat) (nothing : i.arrivals = []) (silent : i.ending = .silent)
    (waited : p.await start none = (.failed .timedOut, stop)) :
    (i.readHead p start).1.termination = .readError .timedOut ∧
      (i.readHead p start).2.1 = stop := by
  have never : i.endReady = none := by rw [endReady, silent]
  have outcomes : i.outcomes p start = [(.failed .timedOut, stop)] := by
    rw [outcomes, nothing, outcomesFrom, never, waited]
  have read : Head.read [.failed .timedOut] = (⟨[], [], .readError .timedOut⟩, []) := by decide
  simp [readHead, outcomes, read]

end ProxyTunnel.Inbound
