import Mathlib.Data.List.Infix
import ProxyTunnel.Proofs.Network.Deadline

/-!
How far the budget of a reply reaches. Waits are made in whole milliseconds, so a reader may wait
for up to a millisecond too long, and may give up as much too early; however many reads it makes,
what arrives later than that has no part in the head.
-/

set_option autoImplicit false

namespace ProxyTunnel

open Duration

namespace Patience

theorem wait_bound (left : Nat) : waitMillis left * nanosPerMilli ≤ max nanosPerMilli left := by
  have whole := Nat.div_mul_le_self left nanosPerMilli
  have capped : min (left / nanosPerMilli) longestWait ≤ left / nanosPerMilli := Nat.min_le_left _ _
  have within := Nat.mul_le_mul_right nanosPerMilli capped
  rw [waitMillis]
  rcases Nat.le_total (min (left / nanosPerMilli) longestWait) 1 with few | many
  · rw [Nat.max_eq_left few, Nat.one_mul]
    exact Nat.le_max_left _ _
  · rw [Nat.max_eq_right many]
    exact (within.trans whole).trans (Nat.le_max_right _ _)

-- A wait that does not outlast the deadline ends at most a millisecond after it.
theorem outlasts_or_ready (p : Patience) (deadline now : Nat) (ready : Option Nat)
    (limited : p.deadline = some deadline) (room : p.barred = false) :
    p.Outlasts now ready ∨ ∃ time, ready = some time ∧ time ≤ deadline + nanosPerMilli ∧
      p.await now ready = (.ready, max now time) := by
  by_cases late : deadline ≤ now
  · exact .inl ⟨deadline, limited, .inl late⟩
  · by_cases met : ∃ time, ready = some time ∧
        time ≤ now + waitMillis (deadline - now) * nanosPerMilli
    · obtain ⟨time, rfl, soon⟩ := met
      have bound := wait_bound (deadline - now)
      refine .inr ⟨time, rfl, by omega, ?_⟩
      simp only [await, limited, if_neg late, room, Bool.false_eq_true, if_false, if_pos soon]
    · refine .inl ⟨deadline, limited, .inr ⟨room, fun time found => ?_⟩⟩
      by_contra soon
      exact met ⟨time, found, Nat.le_of_not_lt soon⟩

-- The induction is on what is still to be read; all that is read is there a millisecond after the
-- deadline at the latest.
theorem reads_until (p : Patience) (i : Inbound) (deadline now : Nat) (arrivals : List Arrival)
    (limited : p.deadline = some deadline) (room : p.barred = false) :
    ∃ read rest time, arrivals = read ++ rest ∧
      (∀ a ∈ read, a.time ≤ deadline + nanosPerMilli) ∧ p.readsThrough now read = some time ∧
      (p.Outlasts time (i.nextReady rest) ∨ rest = [] ∧ (p.await time i.endReady).1 = .ready ∧
        ∃ ended, i.endReady = some ended ∧ ended ≤ deadline + nanosPerMilli) := by
  induction arrivals generalizing now with
  | nil =>
      refine ⟨[], [], now, rfl, by simp, rfl, ?_⟩
      rcases outlasts_or_ready p deadline now i.endReady limited room with
        long | ⟨time, ends, soon, waited⟩
      · exact .inl long
      · exact .inr ⟨rfl, congrArg Prod.fst waited, time, ends, soon⟩
  | cons a arrivals ih =>
      rcases outlasts_or_ready p deadline now (some a.time) limited room with
        long | ⟨time, same, soon, waited⟩
      · exact ⟨[], a :: arrivals, now, rfl, by simp, rfl, .inl long⟩
      · cases same
        obtain ⟨read, rest, ended, split, early, through, next⟩ := ih (max now a.time)
        refine ⟨a :: read, rest, ended, by rw [split, List.cons_append],
          List.forall_mem_cons.mpr ⟨soon, early⟩, ?_, next⟩
        rw [readsThrough, waited]
        exact through

theorem await_ready (p : Patience) (now ready time : Nat)
    (waited : p.await now (some ready) = (.ready, time)) : time = max now ready := by
  rcases p with ⟨_ | deadline, blocking, barred, lapses⟩
  · simp only [await] at waited
    split_ifs at waited <;> simp_all
    omega
  · simp only [await] at waited
    split_ifs at waited <;> simp_all

-- Reads that are over at a time began then, or the last thing to arrive for them came then.
theorem reads_through_time (p : Patience) (now time : Nat) (read : List Arrival)
    (through : p.readsThrough now read = some time) :
    now ≤ time ∧ (∀ a ∈ read, a.time ≤ time) ∧ (time = now ∨ ∃ a ∈ read, a.time = time) := by
  induction read generalizing now with
  | nil =>
      obtain rfl : now = time := Option.some.inj through
      exact ⟨Nat.le_refl _, by simp, .inl rfl⟩
  | cons a read ih =>
      rw [readsThrough] at through
      rcases waited : p.await now (some a.time) with ⟨_ | failure | _, next⟩
      · rw [waited] at through
        have met := await_ready p now a.time next waited
        obtain ⟨later, within, began | ⟨last, member, same⟩⟩ := ih next through
        · refine ⟨by omega, List.forall_mem_cons.mpr ⟨by omega, within⟩, ?_⟩
          by_cases waits : now ≤ a.time
          · exact .inr ⟨a, by simp, by omega⟩
          · exact .inl (by omega)
        · exact ⟨by omega, List.forall_mem_cons.mpr ⟨by omega, within⟩,
            .inr ⟨last, List.mem_cons_of_mem _ member, same⟩⟩
      · rw [waited] at through
        cases through
      · rw [waited] at through
        cases through

theorem wait_reaches (left : Nat) (short : left ≤ longestWait * nanosPerMilli) :
    left < waitMillis left * nanosPerMilli + nanosPerMilli := by
  have rest := Nat.lt_div_mul_add (a := left) (b := nanosPerMilli) (by decide)
  have few : left / nanosPerMilli ≤ longestWait := Nat.div_le_of_le_mul (by rwa [Nat.mul_comm])
  have waits : left / nanosPerMilli ≤ waitMillis left := by
    rw [waitMillis, Nat.min_eq_left few]
    exact Nat.le_max_right _ _
  have within := Nat.mul_le_mul_right nanosPerMilli waits
  omega

theorem wait_longest (left : Nat) (long : longestWait * nanosPerMilli < left) :
    waitMillis left = longestWait := by
  have many : longestWait ≤ left / nanosPerMilli := (Nat.le_div_iff_mul_le (by decide)).mpr long.le
  rw [waitMillis, Nat.min_eq_right many]
  decide

-- A wait that outlasts the deadline begins after it, or is over before what it was for is there: at
-- most a millisecond too early, or after the longest wait of all.
theorem outlasts_over (p : Patience) (deadline now : Nat) (ready : Option Nat)
    (limited : p.deadline = some deadline) (outlasts : p.Outlasts now ready) :
    deadline ≤ now ∧ (p.await now ready).2 = now ∨
      (∀ time, ready = some time → (p.await now ready).2 < time) ∧ now ≤ (p.await now ready).2 ∧
        (deadline < (p.await now ready).2 + nanosPerMilli ∨
          now + longestWait * nanosPerMilli = (p.await now ready).2) := by
  obtain ⟨_, same, outlasts⟩ := outlasts
  obtain rfl := Option.some.inj (limited.symm.trans same)
  by_cases late : deadline ≤ now
  · refine .inl ⟨late, ?_⟩
    simp only [await, limited, if_pos late]
  · obtain ⟨room, waits⟩ := outlasts.resolve_left late
    have stop : (p.await now ready).2 =
        now + waitMillis (deadline - now) * nanosPerMilli := by
      cases ready with
      | none => simp only [await, limited, if_neg late, room, Bool.false_eq_true, if_false]
      | some time =>
          have later := Nat.not_le.mpr (waits time rfl)
          simp only [await, limited, if_neg late, room, Bool.false_eq_true, if_false, if_neg later]
    rw [stop]
    refine .inr ⟨waits, by omega, ?_⟩
    rcases Nat.lt_or_ge (longestWait * nanosPerMilli) (deadline - now) with long | short
    · rw [wait_longest _ long]
      exact .inr rfl
    · have reaches := wait_reaches _ short
      exact .inl (by omega)

end Patience

namespace Inbound

-- What has arrived by a time and can be read, in the order of reading.
def arrivedBy (i : Inbound) (time : Nat) : List Arrival :=
  i.arrivals.takeWhile fun a => decide (a.time ≤ time)

-- All that has arrived by a time does not end the head: there is no verdict on it, no read of it
-- fails, and the end of the stream has not come.
structure StaysOpen (i : Inbound) (time : Nat) : Prop where
  opened : HeadText.Open ((i.arrivedBy time).map (·.outcome))
  unended : i.arrivedBy time = i.arrivals → ∀ ended, i.endReady = some ended → time < ended

instance decidableStaysOpen (i : Inbound) (time : Nat) : Decidable (i.StaysOpen time) :=
  decidable_of_iff (HeadText.Open ((i.arrivedBy time).map (·.outcome)) ∧
      (i.arrivedBy time = i.arrivals → ∀ ended ∈ i.endReady, time < ended))
    ⟨fun held => ⟨held.1, held.2⟩, fun held => ⟨held.opened, held.unended⟩⟩

theorem open_expires (i : Inbound) (p : Patience) (deadline now : Nat)
    (limited : p.deadline = some deadline) (room : p.barred = false)
    (quiet : i.StaysOpen (deadline + nanosPerMilli)) : i.Expires p now := by
  obtain ⟨read, rest, time, split, early, through, next⟩ :=
    p.reads_until i deadline now i.arrivals limited room
  have taken : i.arrivedBy (deadline + nanosPerMilli) =
      read ++ rest.takeWhile fun a => decide (a.time ≤ deadline + nanosPerMilli) := by
    rw [arrivedBy, split, List.takeWhile_append_of_pos (by simpa using early)]
  have opened : HeadText.Open (read.map (·.outcome)) := by
    have whole := quiet.opened
    rw [taken, List.map_append] at whole
    exact HeadText.open_part _ _ whole
  rcases next with long | ⟨rfl, _, ended, ends, soon⟩
  · exact ⟨rest, time, ⟨read, split, opened, through⟩, long⟩
  · have all : i.arrivedBy (deadline + nanosPerMilli) = i.arrivals := by
      rw [taken, split]
      rfl
    exact absurd soon (Nat.not_le.mpr (quiet.unended all ended ends))

-- Nothing beyond what is read has arrived where something of it, or what comes next, is late.
theorem arrived_part (i : Inbound) (time : Nat) (read rest : List Arrival)
    (split : i.arrivals = read ++ rest)
    (later : (∃ a ∈ read, time < a.time) ∨ ∀ a, rest.head? = some a → time < a.time) :
    i.arrivedBy time <+: read := by
  rw [arrivedBy, split, List.takeWhile_append]
  split
  · rename_i all
    have early : ∀ a ∈ read, a.time ≤ time := by
      have same := (List.takeWhile_prefix _).eq_of_length all
      intro a member
      rw [← same] at member
      simpa using List.mem_takeWhile_imp member
    rcases later with ⟨a, member, late⟩ | next
    · exact absurd (early a member) (Nat.not_le.mpr late)
    · cases rest with
      | nil => simp
      | cons a rest =>
          have late := next a rfl
          rw [List.takeWhile_cons_of_neg (by simpa using late), List.append_nil]
  · exact List.takeWhile_prefix _

-- Nothing arrives after `since` up to a time, nor has the stream ended by then.
structure Silent (i : Inbound) (since time : Nat) : Prop where
  same : i.arrivedBy time = i.arrivedBy since
  unended : i.arrivedBy time = i.arrivals → ∀ ended, i.endReady = some ended → time < ended

-- Reading that began at `start` is given up at a time. The head is still open then, and the time is
-- less than a millisecond before the deadline or ends the longest silence that one wait can bear.
structure RunsOut (i : Inbound) (start deadline stop : Nat) : Prop where
  opened : start < deadline → ∀ time < stop, i.StaysOpen time
  due : deadline < stop + nanosPerMilli ∨ ∃ since, start ≤ since ∧
    since + Patience.longestWait * nanosPerMilli = stop ∧ i.Silent since stop

theorem arrived_read (i : Inbound) (time : Nat) (read rest : List Arrival)
    (split : i.arrivals = read ++ rest) (early : ∀ a ∈ read, a.time ≤ time)
    (later : ∀ a, rest.head? = some a → time < a.time) : i.arrivedBy time = read := by
  rw [arrivedBy, split, List.takeWhile_append_of_pos (by simpa using early)]
  cases rest with
  | nil => simp
  | cons a rest =>
      have late := later a rfl
      rw [List.takeWhile_cons_of_neg (by simpa using late), List.append_nil]

-- What is read leaves the head open, and what comes by an earlier time is part of it.
theorem awaits_open (i : Inbound) (time : Nat) (read rest : List Arrival)
    (split : i.arrivals = read ++ rest)
    (opened : HeadText.Open (read.map (·.outcome)))
    (next : (∃ a ∈ read, time < a.time) ∨
      ∀ ready, i.nextReady rest = some ready → time < ready) : i.StaysOpen time := by
  have part : i.arrivedBy time <+: read := by
    refine arrived_part i time read rest split (next.imp_right fun late a first => ?_)
    exact late a.time (by rw [nextReady, first]; rfl)
  obtain ⟨more, rfl⟩ := part
  rw [List.map_append] at opened
  refine ⟨HeadText.open_part _ _ opened, fun all ends ready => ?_⟩
  rw [all] at split
  have none : more = [] ∧ rest = [] := by simpa using split
  rcases next with ⟨a, member, late⟩ | late
  · rw [none.1, List.append_nil] at member
    have soon := List.mem_takeWhile_imp member
    simp at soon
    omega
  · exact late ends (by rw [none.2]; exact ready)

theorem outlasts_runs_out (i : Inbound) (p : Patience) (deadline start time : Nat)
    (rest : List Arrival) (limited : p.deadline = some deadline)
    (awaits : i.Awaits p start time rest) (outlasts : p.Outlasts time (i.nextReady rest)) :
    i.RunsOut start deadline (p.await time (i.nextReady rest)).2 := by
  obtain ⟨read, split, opened, through⟩ := awaits
  obtain ⟨began, within, reached⟩ := p.reads_through_time start time read through
  rcases p.outlasts_over deadline time _ limited outlasts with ⟨late, stop⟩ | ⟨waits, after, due⟩
  · rw [stop]
    have unit : 0 < nanosPerMilli := by decide
    refine ⟨fun ahead earlier before => ?_, .inl (by omega)⟩
    obtain ⟨a, member, rfl⟩ := reached.resolve_left (by omega)
    exact awaits_open i earlier read rest split opened (.inl ⟨a, member, before⟩)
  · generalize (p.await time (i.nextReady rest)).2 = stop at waits after due
    refine ⟨fun _ earlier before => ?_, due.imp_right fun longest => ?_⟩
    · exact awaits_open i earlier read rest split opened
        (.inr fun ready found => before.trans (waits ready found))
    · have later : ∀ a, rest.head? = some a → stop < a.time := fun a first =>
        waits a.time (by rw [nextReady, first]; rfl)
      have all := arrived_read i stop read rest split
        (fun a member => (within a member).trans after) later
      have early := arrived_read i time read rest split within fun a first =>
        after.trans_lt (later a first)
      refine ⟨time, began, longest, all.trans early.symm, fun whole ended ready => ?_⟩
      have none : rest = [] := by simpa [split] using all.symm.trans whole
      exact waits ended (by rw [none]; exact ready)

theorem expires_open (i : Inbound) (p : Patience) (deadline now time : Nat)
    (limited : p.deadline = some deadline) (ahead : now < deadline)
    (short : deadline ≤ now + Patience.longestWait * nanosPerMilli)
    (early : time + nanosPerMilli ≤ deadline) (expires : i.Expires p now) : i.StaysOpen time := by
  obtain ⟨rest, ended, awaits, outlasts⟩ := expires
  have spent := outlasts_runs_out i p deadline now ended rest limited awaits outlasts
  have unit : 0 < nanosPerMilli := by decide
  refine spent.opened ahead time ?_
  rcases spent.due with due | ⟨since, began, longest, _⟩ <;> omega

end Inbound

end ProxyTunnel
