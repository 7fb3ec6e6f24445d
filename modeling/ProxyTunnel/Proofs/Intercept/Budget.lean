import ProxyTunnel.Proofs.Intercept.Outcome
import ProxyTunnel.Proofs.Intercept.Resolution
import ProxyTunnel.Proofs.Tunnel.Budget

/-!
A host program that connects or looks up a name is told of a late reply: its connect times out, and
its question goes to the system. A reply that comes in many timely pieces is late all the same.
-/

set_option autoImplicit false

namespace ProxyTunnel

open Duration

namespace Intercept

open Network

variable (context : Context) (net : Network) (budget : Duration) (script : ProxyScript)
  (limited : context.budget = some budget) (proxy : net.proxy = some script)
  (quiet : (script.inbound net.clock).StaysOpen (net.clock + budget.nanos + nanosPerMilli))

include limited proxy quiet

theorem dripped_late (e : Endpoint) (stream : e.kind.isStream = true)
    (room : net.barred = false) : net.Late e context.budget := by
  rw [Late, joined_reached net e script proxy stream, limited]
  exact Inbound.open_expires _ _ _ _ rfl room quiet

-- The proxy names nothing in time, whatever it has said by then.
theorem dripped_unnamed (name : String) (host : Bytes) : ¬ Names context name net host := by
  rintro ⟨_, _, _, _, heard, _⟩
  have room : net.barred = false :=
    heard.pollable.resolve_left (by rw [limited]; exact Option.some_ne_none budget)
  exact heard.timely (dripped_late context net budget script limited proxy quiet questioner rfl room)

theorem dripped_asks (shown : net.overruns (some budget) = false) (question : Lookup)
    (sends : ∀ name, question.name? = some name →
      ¬ script.sends.Fails (Request.resolve name).bytes.length .EINTR) :
    (getaddrinfo context question net).2.questions = net.questions ++ [question] ∧
      (getaddrinfo context question net).1 = .returns (net.resolver.answer question).1 := by
  obtain ⟨ended, found, settled⟩ := getaddrinfo_plans context question net
  rcases ended with (_ | host) | _ | _
  · obtain ⟨rc, returned, questions, answered⟩ := settled
    obtain rfl := Option.some.inj answered
    exact ⟨questions, returned⟩
  · obtain ⟨⟨name, _, names⟩, _⟩ := (found.names host).mp rfl
    exact absurd names
      (dripped_unnamed context net budget script limited proxy quiet name host)
  · obtain ⟨name, _, _, _, _, _, overruns⟩ := found.panics.mp rfl
    rw [limited, shown] at overruns
    cases overruns
  · obtain ⟨name, named, _, _, reaches, fails | ⟨_, unlimited, _⟩⟩ := found.never.mp rfl
    · obtain rfl := Option.some.inj (proxy.symm.trans reaches.proxy)
      exact absurd fails (sends name named)
    · cases limited.symm.trans unlimited

omit limited proxy quiet

theorem drip_times_out (limited : context.budget = some budget) :
    (∀ s linked request fd e, Tunnel.Sends s linked request fd e → s.conn.budget = some budget →
      (e.inbound.StaysOpen (linked.net.clock + budget.nanos + nanosPerMilli) →
        ∃ after, Tunnel.exchange request s = .error (.timeout budget) after ∧
          Tunnel.Ready after (some budget)) ∧
      ∀ time, nanosPerMilli ≤ budget.nanos → budget.nanos ≤ Patience.longestWait * nanosPerMilli →
        time + nanosPerMilli ≤ linked.net.clock + budget.nanos → ¬ e.inbound.StaysOpen time →
        ¬ e.inbound.ReportsTimeOut (linked.net.patient e (some budget)) (linked.net.clock + 1) →
        ∃ head after, Tunnel.exchange request s = .ok head after ∧
          Tunnel.Ready after (some budget)) ∧
    ∀ net script, net.proxy = some script → net.overruns (some budget) = false →
      (script.inbound net.clock).StaysOpen (net.clock + budget.nanos + nanosPerMilli) →
      (∀ address, Eligible context address net → net.barred = false →
        ∃ target destination, context.target = some target ∧
          redirection net address = some destination ∧
          (0 ≤ (net.connect .caller (.ofBytes target.sockaddr)).1.rc →
            (∀ cause, ¬ script.sends.Fails (Request.connect destination.text).bytes.length cause) →
            FailsWith (connect context address net) .ETIMEDOUT)) ∧
      ∀ question, (∀ name, question.name? = some name →
          ¬ script.sends.Fails (Request.resolve name).bytes.length .EINTR) →
        (getaddrinfo context question net).2.questions = net.questions ++ [question] ∧
          (getaddrinfo context question net).1 = .returns (net.resolver.answer question).1 := by
  refine ⟨fun s linked request fd e sends same => ⟨?_, ?_⟩,
    fun net script proxy shown quiet => ⟨?_, ?_⟩⟩
  · exact Tunnel.exchange_late s linked request fd e budget same sends
  · intro time long short early ends untold
    exact Tunnel.exchange_timely s linked request fd e budget same sends time long short early ends
      untold
  · intro address eligible room
    obtain ⟨target, destination, e, active, redirected, held⟩ :=
      eligible_redirects context address net eligible
    have stream := eligible_stream context address net e eligible held
    refine ⟨target, destination, active, redirected, fun reached taken => ?_⟩
    have late := dripped_late context net budget script limited proxy quiet e.waiting stream room
    refine connect_late context address net target destination e active redirected held reached ?_
      (limited ▸ shown) late
    intro cause unsent
    rw [Unsent, joined_reached net e.waiting script proxy stream] at unsent
    exact taken cause unsent
  · exact dripped_asks context net budget script limited proxy quiet shown

def tenth : Duration := .ofMillis 100

-- A status line and a whole `Host` line at once, and the blank line a little too late.
def dripping : ProxyScript :=
  ⟨[.bytes (Utf8.encode "OK\nHost: a\n"), .pause 102, .bytes (Utf8.encode "\n")], .closes,
    ⟨[], none⟩⟩

def prompt : ProxyScript := ⟨[.bytes (Utf8.encode "OK\n\n")], .silent, ⟨[], none⟩⟩

-- A connection in use, with a deadline of long ago, to which this is being sent.
def inUse (script : ProxyScript) : Session :=
  ⟨⟨⟨1080, by decide, by decide⟩, some tenth, some .caller, true, some 5⟩,
    { facing [] with
      clock := 7
      caller := some ((Endpoint.fresh .stream .none false).attach script 7) }⟩

def brief : Context := { here with budget := some tenth }

def drip : Network := { facing [] with proxy := some dripping }

theorem tenth_shown : ¬ clockEnd ≤ 7 + tenth.nanos := by decide

theorem in_use_sends (script : ProxyScript) (open_ended : script.sends = ⟨[], none⟩) :
    Tunnel.Sends (inUse script) (inUse script) (.resolve "b") .caller
      ((Endpoint.fresh .stream .none false).attach script 7) where
  reached := Tunnel.connect_again rfl rfl
  held := rfl
  found := rfl
  taken cause := by
    rw [Endpoint.attach, open_ended]
    exact Outbound.fails_never _ cause
  room := rfl
  shown := by
    simp only [inUse, overruns, Option.any_some]
    exact decide_eq_false tenth_shown

theorem drip_times_out_again :
    (∃ after, Tunnel.exchange (.resolve "b") (inUse dripping) = .error (.timeout tenth) after) ∧
    (∃ head after, Tunnel.exchange (.resolve "b") (inUse prompt) = .ok head after) ∧
    FailsWith (connect brief there drip) .ETIMEDOUT ∧
    (getaddrinfo brief (naming "b") drip).2.questions = [naming "b"] := by
  obtain ⟨exchanges, calls⟩ := drip_times_out brief tenth rfl
  obtain ⟨connects, lookups⟩ := calls drip dripping rfl (by decide +kernel) (by decide +kernel)
  refine ⟨?_, ?_, ?_, ?_⟩
  · obtain ⟨late, _⟩ := exchanges _ _ _ _ _ (in_use_sends dripping rfl) rfl
    obtain ⟨after, ended, _⟩ := late (by decide +kernel)
    exact ⟨after, ended⟩
  · obtain ⟨_, timely⟩ := exchanges _ _ _ _ _ (in_use_sends prompt rfl) rfl
    obtain ⟨head, after, ended, _⟩ := timely 8 (by decide) (by decide) (by decide) (by decide)
      (prompt.plain_reports 7 ⟨by decide, by decide⟩ _ _)
    exact ⟨head, after, ended⟩
  · obtain ⟨target, destination, active, _, times_out⟩ :=
      connects there { facing_eligible [] with } rfl
    obtain rfl : Target.mk 3128 (by decide) (by decide) = target := Option.some.inj active
    exact times_out (by decide +kernel) (fun cause => Outbound.fails_never _ cause)
  · exact (lookups (naming "b") fun _ _ => Outbound.fails_never _ .EINTR).1

end Intercept

end ProxyTunnel
