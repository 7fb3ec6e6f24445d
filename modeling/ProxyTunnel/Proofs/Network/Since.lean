import ProxyTunnel.Network

/-!
Times as they are counted from a start. Reads look at differences of times only, so a descriptor
delivers the same, and as fast, whenever the clock was started.
-/

set_option autoImplicit false

namespace ProxyTunnel

-- What was due before the start is due at it.
def Arrival.since (start : Nat) (a : Arrival) : Arrival := ⟨a.time - start, a.outcome⟩

def Inbound.since (start : Nat) (i : Inbound) : Inbound :=
  ⟨i.arrivals.map (·.since start), i.ending, i.endTime - start⟩

def Endpoint.since (start : Nat) (e : Endpoint) : Endpoint :=
  { e with inbound := e.inbound.since start }

def Patience.since (start : Nat) (p : Patience) : Patience :=
  { p with deadline := p.deadline.map (· - start) }

variable (start : Nat)

theorem due_since (time now : Nat) : time - start ≤ now ↔ time ≤ start + now := by omega

-- The same wait, begun at another time.
theorem Patience.await_since (p : Patience) (now : Nat) (ready : Option Nat) :
    p.await (start + now) ready =
      (((p.since start).await now (ready.map (· - start))).1,
        start + ((p.since start).await now (ready.map (· - start))).2) := by
  rcases p with ⟨_ | deadline, blocking, barred, lapses⟩
  · cases ready with
    | none => rfl
    | some time =>
        simp only [await, since, Option.map_none, Option.map_some, due_since]
        by_cases due : time ≤ start + now
        · simp only [if_pos due]
        · simp only [if_neg due]
          cases blocking with
          | false => rfl
          | true => exact Prod.ext rfl (show time = start + (time - start) by omega)
  · simp only [await, since, Option.map_some, due_since]
    by_cases expired : deadline ≤ start + now
    · simp only [if_pos expired]
    · simp only [if_neg expired]
      cases barred with
      | true => rfl
      | false =>
          have left : deadline - start - now = deadline - (start + now) := by omega
          simp only [left, Bool.false_eq_true, if_false]
          generalize waitMillis (deadline - (start + now)) * Duration.nanosPerMilli = wait
          cases ready with
          | none => exact Prod.ext rfl (Nat.add_assoc start now wait)
          | some time =>
              have within := due_since start time (now + wait)
              simp only [Option.map_some, within, ← Nat.add_assoc]
              by_cases due : time ≤ start + now + wait
              · simp only [if_pos due]
                exact Prod.ext rfl (show max (start + now) time = _ by omega)
              · simp only [if_neg due, ← Nat.add_assoc]

namespace Inbound

theorem end_ready_since (i : Inbound) : (i.since start).endReady = i.endReady.map (· - start) := by
  rcases i with ⟨_, _ | _, _⟩ <;> rfl

theorem outcomes_since (i : Inbound) (p : Patience) (now : Nat) (arrivals : List Arrival) :
    i.outcomesFrom p (start + now) arrivals =
      ((i.since start).outcomesFrom (p.since start) now (arrivals.map (·.since start))).map
        fun (outcome, time) => (outcome, start + time) := by
  induction arrivals generalizing now with
  | nil =>
      rw [List.map_nil, outcomesFrom, outcomesFrom, Patience.await_since, end_ready_since]
      rcases (p.since start).await now (i.endReady.map (· - start)) with ⟨_ | failure | _, time⟩
      · rfl
      · rfl
      · rfl
  | cons a rest ih =>
      have ready : (a.since start).time = a.time - start := rfl
      rw [List.map_cons, outcomesFrom, outcomesFrom, Patience.await_since, Option.map_some, ready]
      rcases (p.since start).await now (some (a.time - start)) with ⟨_ | failure | _, time⟩
      · exact congrArg (List.cons _) (ih time)
      · rfl
      · exact congrArg (List.cons _) (ih time)

theorem stalls_since (i : Inbound) (p : Patience) (now : Nat) :
    i.stalls p (start + now) = (i.since start).stalls (p.since start) now := by
  have endless : (p.since start).endless = p.endless := by
    rcases p with ⟨_ | deadline, blocking, barred, lapses⟩ <;> rfl
  have heads : (i.outcomes p (start + now)).map (·.1) =
      ((i.since start).outcomes (p.since start) now).map (·.1) := by
    rw [outcomes, outcomes_since, List.map_map]
    rfl
  rw [stalls, stalls, endless, heads, end_ready_since, Option.isNone_map]

theorem consume_since (i : Inbound) (count : Nat) (last : Option ReadOutcome) :
    (i.consume count last).since start = (i.since start).consume count last := by
  rw [consume, consume, since, since, List.map_drop]

theorem read_since (i : Inbound) (p : Patience) (now : Nat) :
    let read := (i.since start).readHead (p.since start) now
    (i.readHead p (start + now)).1 = read.1 ∧
      (i.readHead p (start + now)).2.1 = start + read.2.1 ∧
      (i.readHead p (start + now)).2.2.since start = read.2.2 := by
  have outcomes : i.outcomes p (start + now) =
      ((i.since start).outcomes (p.since start) now).map
        fun (outcome, time) => (outcome, start + time) := outcomes_since start i p now i.arrivals
  simp only [readHead, outcomes]
  generalize (i.since start).outcomes (p.since start) now = met
  have heads : (met.map fun (outcome, time) => (outcome, start + time)).map (·.1) =
      met.map (·.1) := by
    rw [List.map_map]
    rfl
  have last : (met.map fun (outcome, time) => (outcome, start + time)).getLast?.map (·.1) =
      met.getLast?.map (·.1) := by
    rw [List.getLast?_map, Option.map_map]
    rfl
  simp only [heads, last, List.length_map, consume_since, true_and, and_true]
  rw [← List.map_take, List.getLast?_map, Option.map_map]
  cases (met.take _).getLast? <;> rfl

end Inbound

namespace ProxyScript

theorem schedule_since (reply : List ReplyPart) (now : Nat) :
    (schedule (start + now) reply).1.map (·.since start) = (schedule now reply).1 ∧
      (schedule (start + now) reply).2 = start + (schedule now reply).2 := by
  have arrives (now : Nat) (outcome : ReadOutcome) :
      (Arrival.mk (start + now) outcome).since start = ⟨now, outcome⟩ := by
    rw [Arrival.since, Nat.add_sub_cancel_left]
  induction reply generalizing now with
  | nil => exact ⟨rfl, rfl⟩
  | cons part reply ih =>
      cases part with
      | bytes sent =>
          obtain ⟨arrivals, ended⟩ := ih now
          simp [schedule, arrivals, ended, arrives, Function.comp_def]
      | pause millis =>
          rw [schedule, schedule, Nat.add_assoc]
          exact ih _
      | failure failure =>
          obtain ⟨arrivals, ended⟩ := ih now
          simp [schedule, arrivals, ended, arrives]

theorem inbound_since (script : ProxyScript) (now : Nat) :
    (script.inbound (start + now)).since start = script.inbound now := by
  obtain ⟨arrivals, ended⟩ := schedule_since start script.reply now
  simp [inbound, Inbound.since, arrivals, ended]

end ProxyScript

namespace Endpoint

theorem attach_since (e : Endpoint) (script : ProxyScript) (now : Nat) :
    (e.attach script (start + now)).since start = (e.since start).attach script now := by
  simp [attach, since, ProxyScript.inbound_since]

theorem after_read_since (e : Endpoint) (inbound : Inbound) :
    (e.afterRead inbound).since start = (e.since start).afterRead (inbound.since start) := rfl

end Endpoint

end ProxyTunnel
