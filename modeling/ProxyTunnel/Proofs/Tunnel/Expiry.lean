import ProxyTunnel.Proofs.Network.Expiry
import ProxyTunnel.Proofs.Tunnel.Budget

/-!
How early an exchange may fail with a time-out. The wait for a reply is made in whole milliseconds
and is taken for the whole of the budget, so that almost a millisecond of it is never waited for,
and nothing beyond the longest wait.
-/

set_option autoImplicit false

namespace ProxyTunnel.Tunnel

open Duration Network

-- A time-out is told by the read itself, or the budget has run out and the reply is still open.
theorem timeout_waited (request : Request) (s : Session) (spent : Duration) (after : Session)
    (late : exchange request s = .error (.timeout spent) after) :
    ∃ linked fd e, connect s = .ok () linked ∧ linked.conn.holder = some fd ∧
      linked.net.endpoint fd = some e ∧
      (e.inbound.ReportsTimeOut (linked.net.patient e s.conn.budget) (linked.net.clock + 1) ∨
        s.conn.budget = some spent ∧ e.inbound.RunsOut (linked.net.clock + 1)
          (linked.net.clock + spent.nanos) after.net.clock) := by
  cases reached : connect s with
  | error stop linked =>
      rw [exchange, bind_error _ _ _ _ _ reached] at late
      cases late
      obtain ⟨_, same | same⟩ := connect_fault reached <;> cases same
  | ok _ linked =>
      obtain ⟨_, ⟨fd, held⟩, kept⟩ := connect_ready reached
      obtain ⟨deadline, remarks, talks⟩ := exchange_talks request s linked fd reached held
      rw [talks, kept] at late
      cases ended : (linked.net.talk fd s.conn.budget request).1 with
      | ok head =>
          rw [ended] at late
          cases late
      | error stop =>
          rw [ended] at late
          cases late
          obtain ⟨e, found, owed, reported, stop⟩ := talk_timed_out _ _ _ _ _ ended
          refine ⟨linked, fd, e, rfl, held, found, ?_⟩
          refine (e.inbound.timed_out_runs_out _ _ reported).imp_right ?_
          rintro ⟨due, limited, ran⟩
          rw [say_clock, stop]
          cases budget : s.conn.budget with
          | none => simp [patient, patience, budget] at limited
          | some limit =>
              rw [budget] at owed limited ran
              obtain rfl : linked.net.clock + limit.nanos = due := Option.some.inj limited
              obtain rfl : spent = limit := owed
              exact ⟨rfl, ran⟩

variable (s linked : Session) (request : Request) (fd : Holder) (e : Endpoint) (budget : Duration)
  (limited : s.conn.budget = some budget) (sends : Sends s linked request fd e)
include limited sends

theorem timely_parsed (time : Nat)
    (timely : e.inbound.Timely (linked.net.clock + 1) (linked.net.clock + budget.nanos) time) :
    ∃ after, Ready after (some budget) ∧ exchange request s =
      if e.inbound.parsed.termination = .readError .timedOut then .error (.timeout budget) after
      else .ok e.inbound.parsed after := by
  obtain ⟨after, ready, _, ended⟩ := exchange_sent s linked request fd e budget limited sends
  have going := e.inbound.timely_unexpired (linked.net.patient e (some budget)) _ _ rfl time timely
  have whole := e.inbound.unexpired_head _ _ _ rfl sends.room going
  rw [whole] at ended
  exact ⟨after, ready, ended⟩

-- A proxy that says nothing is waited for exactly once.
theorem silence_waited (nothing : e.inbound.arrivals = []) (silent : e.inbound.ending = .silent)
    (ahead : 1 < budget.nanos) :
    ∃ after, Ready after (some budget) ∧
      exchange request s = .error (.timeout budget) after ∧ after.net.clock =
        linked.net.clock + 1 + Patience.waitMillis (budget.nanos - 1) * nanosPerMilli := by
  obtain ⟨after, ready, stop, ended⟩ := exchange_sent s linked request fd e budget limited sends
  have soon : ¬ linked.net.clock + budget.nanos ≤ linked.net.clock + 1 := by omega
  have left : linked.net.clock + budget.nanos - (linked.net.clock + 1) = budget.nanos - 1 := by
    omega
  have waited : (linked.net.patient e (some budget)).await (linked.net.clock + 1) none =
      (.failed .timedOut, linked.net.clock + 1 +
        Patience.waitMillis (budget.nanos - 1) * nanosPerMilli) := by
    simp only [Patience.await, patient, patience, Option.map_some, sends.room, if_neg soon, left,
      Bool.false_eq_true, if_false]
  obtain ⟨late, ended_at⟩ := e.inbound.silence_read _ _ _ nothing silent waited
  exact ⟨after, ready, ended.trans (if_pos late), stop.trans ended_at⟩

omit limited sends

theorem exchange_expires :
    (∀ s spent after, exchange request s = .error (.timeout spent) after →
      ∃ linked fd e, connect s = .ok () linked ∧ linked.conn.holder = some fd ∧
        linked.net.endpoint fd = some e ∧
        (e.inbound.ReportsTimeOut (linked.net.patient e s.conn.budget) (linked.net.clock + 1) ∨
          s.conn.budget = some spent ∧ e.inbound.RunsOut (linked.net.clock + 1)
            (linked.net.clock + spent.nanos) after.net.clock)) ∧
    ∀ s linked fd e budget, s.conn.budget = some budget → Sends s linked request fd e →
      (∀ time,
        e.inbound.Timely (linked.net.clock + 1) (linked.net.clock + budget.nanos) time →
        ∃ after, Ready after (some budget) ∧ exchange request s =
          if e.inbound.parsed.termination = .readError .timedOut then .error (.timeout budget) after
          else .ok e.inbound.parsed after) ∧
      (e.inbound.arrivals = [] → e.inbound.ending = .silent → 1 < budget.nanos →
        ∃ after, Ready after (some budget) ∧
          exchange request s = .error (.timeout budget) after ∧ after.net.clock =
            linked.net.clock + 1 + Patience.waitMillis (budget.nanos - 1) * nanosPerMilli) :=
  ⟨timeout_waited request, fun s linked fd e budget limited sends =>
    ⟨timely_parsed s linked request fd e budget limited sends,
      silence_waited s linked request fd e budget limited sends⟩⟩

-- A connection in use, over which this is on its way.
def expecting (inbound : Inbound) (budget : Duration) : Session :=
  ⟨⟨⟨9050, by decide, by decide⟩, some budget, some .caller, true, none⟩,
    { clock := 0, callerNumber := 3, caller := some ⟨.stream, .none, false, inbound, ⟨[], none⟩⟩,
      engine := none, reach := .scripted [], resolver := .numeric, proxy := none,
      refusal := none, barred := false, errno := default, calls := [], remarks := [] }⟩

theorem expecting_sends (inbound : Inbound) (budget : Duration)
    (shown : (expecting inbound budget).net.overruns (some budget) = false) :
    Sends (expecting inbound budget) (expecting inbound budget) (.resolve "b") .caller
      ⟨.stream, .none, false, inbound, ⟨[], none⟩⟩ where
  reached := connect_again rfl rfl
  held := rfl
  found := rfl
  taken cause := Outbound.fails_never _ cause
  room := rfl
  shown := shown

-- All of a head, half a millisecond before the deadline.
def belated : Inbound :=
  ⟨(Utf8.encode "OK\n\n").map fun b => ⟨99500000, .byte b⟩, .silent, 99500000⟩

theorem exchange_gives_up_early :
    (∃ after, exchange (.resolve "b") (expecting belated (.ofMillis 100)) =
        .error (.timeout (.ofMillis 100)) after ∧
      after.net.clock < (Duration.ofMillis 100).nanos) ∧
    ∃ after, exchange (.resolve "b") (expecting ⟨[], .silent, 0⟩ (.ofMillis (Nat.pow 2 32))) =
        .error (.timeout (.ofMillis (Nat.pow 2 32))) after ∧
      2 * after.net.clock < (Duration.ofMillis (Nat.pow 2 32)).nanos := by
  constructor
  · obtain ⟨after, _, stop, ended⟩ :=
      exchange_sent _ _ _ _ _ _ rfl (expecting_sends belated (.ofMillis 100) (by decide))
    refine ⟨after, ended.trans (if_pos (by decide +kernel)), ?_⟩
    rw [stop]
    decide +kernel
  · obtain ⟨after, _, ended, stop⟩ := silence_waited _ _ _ _ _ (.ofMillis (Nat.pow 2 32)) rfl
      (expecting_sends ⟨[], .silent, 0⟩ (.ofMillis (Nat.pow 2 32)) (by decide)) rfl rfl
      (by decide)
    refine ⟨after, ended, ?_⟩
    rw [stop]
    decide

end ProxyTunnel.Tunnel
