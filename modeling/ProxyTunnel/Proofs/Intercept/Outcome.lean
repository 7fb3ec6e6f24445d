import ProxyTunnel.Proofs.Intercept.Redirection
import ProxyTunnel.Proofs.Tunnel.Stages

/-!
What a redirected `connect` returns: the first stage that fails decides, be it the native connect,
the sending of the request or the deadline of the reply. Where none fails the reply has no part in
the result.
-/

set_option autoImplicit false

namespace ProxyTunnel

namespace Network

-- The same network with another reply of the proxy.
def replying (n : Network) (reply : List ReplyPart) (ending : Ending) : Network :=
  { n with proxy := n.proxy.map fun script => { script with reply, ending } }

theorem replying_connects (n : Network) (fd : Holder) (address : SocketAddress)
    (reply : List ReplyPart) (ending : Ending) :
    ((n.replying reply ending).connect fd address).1 = (n.connect fd address).1 := by
  rw [connect_dials, connect_dials]
  cases fd <;> rfl

theorem replying_unsent (n : Network) (e : Endpoint) (script : ProxyScript)
    (reply : List ReplyPart) (ending : Ending) (request : Request) (cause : Errno)
    (proxy : n.proxy = some script) :
    (n.replying reply ending).Unsent e request cause ↔ n.Unsent e request cause := by
  have other : (n.replying reply ending).proxy = some { script with reply, ending } := by
    rw [replying, proxy]
    rfl
  simp only [Unsent, joined, proxy, other]
  cases e.kind.isStream <;> exact Iff.rfl

-- That a descriptor waits has no part in what connecting it comes to and whom it reaches.
theorem waiting_connects (n : Network) (e : Endpoint) (address : SocketAddress)
    (held : n.caller = some e) : ((n.setEndpoint .caller (some e.waiting)).connect .caller
      address).1 = (n.connect .caller address).1 := by
  have kind : ((n.setEndpoint .caller (some e.waiting)).endpoint .caller).map (·.kind) =
      (n.endpoint .caller).map (·.kind) := by
    rw [endpoint_set, endpoint, held]
    rfl
  rw [connect_dials, connect_dials]
  dsimp only
  rw [dialOutcome, dialOutcome, kind]
  rfl

end Network

namespace Intercept

open Duration Network

variable (context : Context) (address : SocketAddress) (net : Network) (target : Target)
  (destination : Destination) (e : Endpoint)

-- The stages of a redirected call are those of an exchange on its descriptor in blocking mode.
theorem connect_answers (active : context.target = some target)
    (redirected : redirection net address = some destination) (held : net.caller = some e) :
    (connect context address net).1 = answer ((net.setEndpoint .caller (some e.waiting)).ask
      .caller target context.budget (.connect destination.text)).1 := by
  obtain ⟨last, remarks, _, _, tunneled⟩ :=
    connect_asks context address net target destination e active redirected held
  rw [tunneled]

-- A redirected call fails so: it returns -1 and leaves this cause.
def FailsWith (ended : Course CallResult × Network) (cause : Errno) : Prop :=
  ended.1 = .returns ⟨-1, some cause⟩ ∧ ended.2.errno = cause

-- Whatever the exchange fails for is what the call leaves, after the flags are put back.
theorem connect_blames (active : context.target = some target)
    (redirected : redirection net address = some destination) (held : net.caller = some e)
    (fault : Fault) (failed : ((net.setEndpoint .caller (some e.waiting)).ask .caller target
      context.budget (.connect destination.text)).1 = .error (.fault fault)) :
    FailsWith (connect context address net) fault.errno := by
  obtain ⟨last, remarks, _, _, tunneled⟩ :=
    connect_asks context address net target destination e active redirected held
  rw [tunneled, failed]
  exact ⟨rfl, rfl⟩

theorem connect_refused (active : context.target = some target)
    (redirected : redirection net address = some destination) (held : net.caller = some e)
    (refused : (net.connect .caller (.ofBytes target.sockaddr)).1.rc < 0) :
    FailsWith (connect context address net)
        (net.connect .caller (.ofBytes target.sockaddr)).1.cause ∧
      (connect context address net).2.calls = net.calls ++ [.connected .caller
        (.ofBytes target.sockaddr) (some e.waiting.flags) e.closeOnExec] := by
  have same := waiting_connects net e (.ofBytes target.sockaddr) held
  have linking := connect_works (net.setEndpoint .caller (some e.waiting)) .caller
    (.ofBytes target.sockaddr)
  rw [← same] at refused ⊢
  have unreached :=
    ask_unreached _ .caller target context.budget (.connect destination.text) refused
  refine ⟨connect_blames context address net target destination e active redirected held _
    (congrArg Prod.fst unreached), ?_⟩
  obtain ⟨last, remarks, _, _, tunneled⟩ :=
    connect_asks context address net target destination e active redirected held
  rw [tunneled, unreached]
  exact linking.calls

section

variable (active : context.target = some target)
  (redirected : redirection net address = some destination) (held : net.caller = some e)
  (reached : 0 ≤ (net.connect .caller (.ofBytes target.sockaddr)).1.rc)
include active redirected held reached

theorem connect_unsent (cause : Errno)
    (unsent : net.Unsent e.waiting (.connect destination.text) cause) :
    (cause = .EINTR → (connect context address net).1 = .never) ∧
      (cause ≠ .EINTR → FailsWith (connect context address net) cause) := by
  rw [← waiting_connects net e _ held] at reached
  have failed := ask_unsent _ .caller e.waiting target context.budget _ cause rfl reached unsent
  constructor
  · intro interrupted
    rw [if_pos interrupted] at failed
    rw [connect_answers context address net target destination e active redirected held, failed]
    rfl
  · intro lasting
    rw [if_neg lasting] at failed
    exact connect_blames context address net target destination e active redirected held _ failed

variable (sent : ∀ cause, ¬ net.Unsent e.waiting (.connect destination.text) cause)
include sent

theorem connect_overruns (overruns : net.overruns context.budget = true) :
    (connect context address net).1 = .panics := by
  rw [← waiting_connects net e _ held] at reached
  rw [connect_answers context address net target destination e active redirected held,
    ask_overruns _ .caller e.waiting target context.budget _ rfl reached sent overruns]
  rfl

variable (shown : net.overruns context.budget = false)
include shown

theorem connect_hangs (hangs : net.Hangs e.waiting context.budget) :
    (connect context address net).1 = .never := by
  rw [← waiting_connects net e _ held] at reached
  rw [connect_answers context address net target destination e active redirected held,
    ask_hangs _ .caller e.waiting target context.budget _ rfl reached sent shown hangs]
  rfl

theorem connect_late (late : net.Late e.waiting context.budget) :
    FailsWith (connect context address net) .ETIMEDOUT := by
  rw [← waiting_connects net e _ held] at reached
  have ends := net.late_ends e.waiting context.budget late
  exact connect_blames context address net target destination e active redirected held _
    (ask_late _ .caller e.waiting target context.budget _ rfl reached sent shown ends (.inl late))

theorem connect_heard (ends : ¬ net.Hangs e.waiting context.budget)
    (timely : ¬ net.Late e.waiting context.budget)
    (untold : ¬ net.ToldLate e.waiting context.budget) :
    (connect context address net).1 = .returns ⟨0, none⟩ := by
  rw [← waiting_connects net e _ held] at reached
  obtain ⟨head, fine⟩ :=
    ask_heard _ .caller e.waiting target context.budget _ rfl reached sent shown ends timely untold
  rw [connect_answers context address net target destination e active redirected held, fine]
  rfl

end

theorem connect_settles (context : Context) (address : SocketAddress) (net : Network)
    (eligible : Eligible context address net) :
    ∃ target destination e, context.target = some target ∧
      redirection net address = some destination ∧ net.caller = some e ∧
      let ended := connect context address net
      let native := (net.connect .caller (.ofBytes target.sockaddr)).1
      let request := Request.connect destination.text
      (native.rc < 0 → FailsWith ended native.cause ∧
        ended.2.calls = net.calls ++ [.connected .caller (.ofBytes target.sockaddr)
          (some e.waiting.flags) e.closeOnExec]) ∧
      (0 ≤ native.rc → ∀ cause, net.Unsent e.waiting request cause →
        (cause = .EINTR → ended.1 = .never) ∧ (cause ≠ .EINTR → FailsWith ended cause)) ∧
      (0 ≤ native.rc → (∀ cause, ¬ net.Unsent e.waiting request cause) →
        (net.overruns context.budget = true → ended.1 = .panics) ∧
        (net.overruns context.budget = false →
          (net.Hangs e.waiting context.budget → ended.1 = .never) ∧
          (net.Late e.waiting context.budget → FailsWith ended .ETIMEDOUT) ∧
          (¬ net.Hangs e.waiting context.budget → ¬ net.Late e.waiting context.budget →
            ¬ net.ToldLate e.waiting context.budget → ended.1 = .returns ⟨0, none⟩))) ∧
      ∀ script, net.proxy = some script →
        (net.Hangs e.waiting context.budget ↔ context.budget = none ∧ script.ending = .silent ∧
          HeadText.Open script.outcomes) ∧
        -- Any reply that ends in time gives the same result.
        ∀ reply ending, ProxyScript.Plain { script with reply, ending } → 0 ≤ native.rc →
          (∀ cause, ¬ net.Unsent e.waiting request cause) →
          net.overruns context.budget = false →
          ¬ (net.replying reply ending).Hangs e.waiting context.budget →
          ¬ (net.replying reply ending).Late e.waiting context.budget →
          (connect context address (net.replying reply ending)).1 = .returns ⟨0, none⟩ := by
  obtain ⟨target, destination, e, active, redirected, held⟩ :=
    eligible_redirects context address net eligible
  have stream := eligible_stream context address net e eligible held
  refine ⟨target, destination, e, active, redirected, held, ?refused, ?unsent, ?sent, ?replies⟩
  case refused =>
    exact connect_refused context address net target destination e active redirected held
  case unsent =>
    exact connect_unsent context address net target destination e active redirected held
  case sent =>
    intro reached sent
    refine ⟨connect_overruns context address net target destination e active redirected held
      reached sent, fun shown => ⟨?_, ?_, ?_⟩⟩
    · exact connect_hangs context address net target destination e active redirected held reached
        sent shown
    · exact connect_late context address net target destination e active redirected held reached
        sent shown
    · exact connect_heard context address net target destination e active redirected held reached
        sent shown
  case replies =>
    intro script proxy
    refine ⟨net.hangs_iff e.waiting context.budget script proxy stream
      (StatusFlags.without_contains e.flags), ?_⟩
    intro reply ending plain reached sent shown ends timely
    refine connect_heard context address (net.replying reply ending) target destination e active
      redirected held ?_ ?_ shown ends timely ?_
    · rwa [replying_connects]
    · intro cause unsent
      rw [replying_unsent net e.waiting script reply ending _ cause proxy] at unsent
      exact sent cause unsent
    · exact plain_untold _ e.waiting context.budget _ (by rw [replying, proxy]; rfl) stream plain

theorem silent_sent (request : Request) (e : Endpoint) (stream : e.kind.isStream = true)
    (cause : Errno) : ¬ silent.Unsent e request cause := by
  rw [Unsent, silent.joined_reached e _ rfl stream]
  exact Outbound.fails_never _ cause

theorem connect_settles_silent :
    FailsWith (connect { here with budget := some (.ofMillis 100) } there silent) .ETIMEDOUT ∧
      (connect here there silent).1 = .never := by
  constructor
  · have eligible : Eligible { here with budget := some (.ofMillis 100) } there silent :=
      { facing_eligible [] with }
    obtain ⟨target, destination, e, active, redirected, held, _, _, sent, _⟩ :=
      connect_settles _ _ _ eligible
    obtain rfl : Target.mk 3128 (by decide) (by decide) = target := Option.some.inj active
    obtain rfl : Endpoint.fresh .stream .none false = e := Option.some.inj held
    obtain ⟨_, shown⟩ := sent (by decide +kernel) (silent_sent _ _ rfl)
    refine (shown (by decide)).2.1 ⟨[], _, ⟨[], rfl, ⟨by simp, ?_⟩, rfl⟩, _, rfl, ?_⟩
    · intro q part
      rw [List.prefix_nil.mp part]
      decide
    · refine .inr ⟨rfl, fun time ready => ?_⟩
      have never : none = some time := ready
      cases never
  · obtain ⟨target, destination, e, active, redirected, held, _, _, sent, replies⟩ :=
      connect_settles here there silent { facing_eligible [] with }
    obtain rfl : Target.mk 3128 (by decide) (by decide) = target := Option.some.inj active
    obtain rfl : Endpoint.fresh .stream .none false = e := Option.some.inj held
    obtain ⟨_, shown⟩ := sent (by decide +kernel) (silent_sent _ _ rfl)
    exact (shown rfl).1 ((replies _ rfl).1.mpr ⟨rfl, rfl, by decide⟩)

-- A call that never returns, and one that panics, though the descriptor is connected, the request
-- is sent and no deadline has expired.
theorem redirected_connect_lost :
    (Eligible here there silent ∧ (connect here there silent).1 = .never) ∧
      Eligible boundless there (facing (Utf8.encode "HTTP/1.1 200 OK\r\n\r\n")) ∧
        (connect boundless there (facing (Utf8.encode "HTTP/1.1 200 OK\r\n\r\n"))).1 =
          .panics :=
  ⟨⟨{ facing_eligible [] with }, by decide +kernel⟩, { facing_eligible _ with },
    by decide +kernel⟩

end Intercept

end ProxyTunnel
