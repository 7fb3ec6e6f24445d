import ProxyTunnel.Proofs.Network.Budget
import ProxyTunnel.Proofs.Tunnel.Stages
import ProxyTunnel.Proofs.Tunnel.Steps

/-!
The budget of a reply is for the whole of it: a reply that is still open when the budget has run out
is late, in however many timely pieces it came. Each exchange has a budget of its own, which starts
when its request is sent.
-/

set_option autoImplicit false

namespace ProxyTunnel

open Duration

namespace Tunnel

open Network

-- The request goes out over a connected descriptor, and its reply can be waited for: the process may
-- have descriptors, and the clock can show the deadline.
structure Sends (s linked : Session) (request : Request) (fd : Holder) (e : Endpoint) : Prop where
  reached : connect s = .ok () linked
  held : linked.conn.holder = some fd
  found : linked.net.endpoint fd = some e
  taken : ∀ cause, ¬ e.outbound.Fails request.bytes.length cause
  room : linked.net.barred = false
  shown : linked.net.overruns s.conn.budget = false

-- A session that another exchange can follow on, with all of the budget for it.
structure Ready (s : Session) (budget : Option Duration) : Prop where
  linked : connect s = .ok () s
  budget : s.conn.budget = budget

variable (s linked : Session) (request : Request) (fd : Holder) (e : Endpoint)

-- A budget whose end the clock cannot show is not started.
theorem exchange_panics (reached : connect s = .ok () linked) (held : linked.conn.holder = some fd)
    (found : linked.net.endpoint fd = some e)
    (taken : ∀ cause, ¬ e.outbound.Fails request.bytes.length cause)
    (overruns : linked.net.overruns s.conn.budget = true) :
    ∃ after, exchange request s = .error .panic after := by
  obtain ⟨_, _, kept⟩ := connect_ready reached
  obtain ⟨deadline, remarks, talks⟩ := exchange_talks request s linked fd reached held
  have sent := send_taken linked.net fd request.bytes e found taken
  obtain ⟨ended, _⟩ := talk_heard linked.net fd linked.conn.budget request e found sent
  rw [talks, ended, kept, answered, if_pos overruns]
  exact ⟨_, rfl⟩

variable (budget : Duration) (limited : s.conn.budget = some budget)
include limited

-- What an exchange did before, and the deadline that it left, has no part in the next.
theorem exchange_sent (sends : Sends s linked request fd e) :
    let heard := e.inbound.readHead (linked.net.patient e (some budget)) (linked.net.clock + 1)
    ∃ after, Ready after (some budget) ∧ after.net.clock = heard.2.1 ∧ exchange request s =
      if heard.1.termination = .readError .timedOut then .error (.timeout budget) after
      else .ok heard.1 after := by
  intro heard
  obtain ⟨used, _, kept⟩ := connect_ready sends.reached
  obtain ⟨deadline, remarks, talks⟩ := exchange_talks request s linked fd sends.reached sends.held
  have sent := send_taken linked.net fd request.bytes e sends.found sends.taken
  obtain ⟨ended, stop⟩ := talk_heard linked.net fd linked.conn.budget request e sends.found sent
  have shown := sends.shown
  rw [limited] at kept shown
  rw [kept] at talks ended stop
  rw [answered_limited linked.net e budget shown] at ended
  refine ⟨⟨{ linked.conn with deadline },
    (linked.net.talk fd (some budget) request).2.say remarks⟩,
    ⟨connect_again sends.held used, kept⟩, stop shown, ?_⟩
  rw [talks, ended]
  by_cases late : heard.1.termination = .readError .timedOut
  · rw [if_pos late, if_pos late]
    rfl
  · rw [if_neg late, if_neg late]
    rfl

theorem exchange_late (sends : Sends s linked request fd e)
    (quiet : e.inbound.StaysOpen (linked.net.clock + budget.nanos + nanosPerMilli)) :
    ∃ after, exchange request s = .error (.timeout budget) after ∧ Ready after (some budget) := by
  obtain ⟨after, ready, _, ended⟩ := exchange_sent s linked request fd e budget limited sends
  have expires := e.inbound.open_expires (linked.net.patient e (some budget))
    (linked.net.clock + budget.nanos) (linked.net.clock + 1) rfl sends.room quiet
  have late := (Inbound.head_timed_out_iff _ _ _).mpr (.inl expires)
  exact ⟨after, ended.trans (if_pos late), ready⟩

theorem exchange_timely (sends : Sends s linked request fd e) (time : Nat)
    (long : nanosPerMilli ≤ budget.nanos)
    (short : budget.nanos ≤ Patience.longestWait * nanosPerMilli)
    (early : time + nanosPerMilli ≤ linked.net.clock + budget.nanos)
    (ends : ¬ e.inbound.StaysOpen time)
    (untold : ¬ e.inbound.ReportsTimeOut (linked.net.patient e (some budget))
      (linked.net.clock + 1)) :
    ∃ head after, exchange request s = .ok head after ∧ Ready after (some budget) := by
  obtain ⟨after, ready, _, ended⟩ := exchange_sent s linked request fd e budget limited sends
  have unit : 1 < nanosPerMilli := by decide
  have going : ¬ e.inbound.Expires (linked.net.patient e (some budget)) (linked.net.clock + 1) :=
    fun expires => ends (e.inbound.expires_open _ (linked.net.clock + budget.nanos) _ time rfl
      (by omega) (by omega) early expires)
  have timely := mt (Inbound.head_timed_out_iff _ _ _).mp (not_or.mpr ⟨going, untold⟩)
  exact ⟨_, after, ended.trans (if_neg timely), ready⟩

end Tunnel

end ProxyTunnel
