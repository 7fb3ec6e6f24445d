import ProxyTunnel.Proofs.Intercept.Redirection
import ProxyTunnel.Proofs.Intercept.Release
import ProxyTunnel.Proofs.Network.Follows

/-!
Intercepted calls after a past. What a call returns, the native calls that are made for it and the
time it takes do not depend on what was done before, and no socket is left open.
-/

set_option autoImplicit false

namespace ProxyTunnel.Intercept

open Network

section

variable (past n m : Network) (context : Context)

theorem redirection_follows (address : SocketAddress) (follows : Follows past n m) :
    redirection n address = redirection m address := by
  rw [redirection, redirection, follows.caller]
  cases Destination.ofAddress? address <;> cases n.caller <;> rfl

theorem passes_follows (address : SocketAddress) (follows : Follows past n m) :
    (passThrough n address).1 = (passThrough m address).1 ∧
      Follows past (passThrough n address).2 (passThrough m address).2 := by
  obtain ⟨outcome, dialled⟩ := Network.connect_follows past n m .caller address follows
  rw [passes_connect, passes_connect, outcome]
  exact ⟨rfl, dialled⟩

theorem blamed_follows (ended : Except Stop Head) (follows : Follows past n m) :
    Follows past (blamed n ended) (blamed m ended) := by
  rcases ended with (fault | _ | _) | head
  · exact leave_follows past n m fault.errno follows
  · exact follows
  · exact follows
  · exact follows

theorem flags_after_since {α : Type} (flags : StatusFlags) (last : Endpoint) (ended : Except Stop α)
    (start : Nat) : Tunnel.flagsAfter flags (last.since start) ended =
      (Tunnel.flagsAfter flags last ended).since start := by
  rcases ended with (fault | _ | _) | a <;> rfl

-- A deadline that one clock can show and the other cannot would make a difference.
theorem connect_follows (address : SocketAddress) (follows : Follows past n m)
    (shown : n.overruns context.budget = false) :
    (connect context address n).1 = (connect context address m).1 ∧
      Follows past (connect context address n).2 (connect context address m).2 := by
  have same := redirection_follows past n m address follows
  by_cases eligible : Eligible context address n
  · obtain ⟨target, destination, e, active, redirected, held⟩ :=
      eligible_redirects context address n eligible
    have kept : m.caller = some (e.since past.clock) := by rw [follows.caller, held]; rfl
    obtain ⟨last, said, left, _, first⟩ :=
      connect_asks context address n target destination e active redirected held
    obtain ⟨next, told, found, _, second⟩ :=
      connect_asks context address m target destination _ active (same.symm.trans redirected) kept
    have waiting := set_endpoint_follows past n m .caller (some e.waiting) follows
    obtain ⟨ended, asked⟩ := ask_follows past _ _ .caller target context.budget
      (.connect destination.text) waiting shown
    have lasts : next = last.since past.clock := by
      have callers := asked.caller
      rw [left] at callers
      exact Option.some.inj (found.symm.trans callers)
    have flags : (e.since past.clock).flags = e.flags := rfl
    have wait : (e.since past.clock).waiting = e.waiting.since past.clock := rfl
    rw [Option.map_some, ← wait] at ended asked
    rw [first, second, lasts, ← ended, flags, flags_after_since]
    refine ⟨rfl, say_follows past _ _ said told (blamed_follows past _ _ _ ?_)⟩
    exact set_endpoint_follows past _ _ .caller (some (Tunnel.flagsAfter e.flags last _)) asked
  · have other : ¬ Eligible context address m := by
      rw [eligible_iff] at eligible ⊢
      rwa [← same]
    obtain ⟨said, first⟩ := connect_passes context address n eligible
    obtain ⟨told, second⟩ := connect_passes context address m other
    obtain ⟨result, passed⟩ := passes_follows past n m address follows
    rw [first, second]
    exact ⟨congrArg Course.returns result, say_follows past _ _ said told passed⟩

end

section

variable (context : Context) (net : Network)

end

end ProxyTunnel.Intercept
