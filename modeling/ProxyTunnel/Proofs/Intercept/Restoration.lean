import ProxyTunnel.Proofs.Intercept.Redirection

/-!
The status flags of the caller's descriptor: an intercepted `connect` gives them back as it found
them. While a redirected call works on the descriptor the non-blocking flag is clear and no other
flag is changed; a call that goes through never touches them.
-/

set_option autoImplicit false

namespace ProxyTunnel

-- These flags make calls wait and are otherwise the same as those.
def StatusFlags.Waits (seen flags : StatusFlags) : Prop :=
  seen.contains .nonblock = false ∧ seen.union .nonblock = flags.union .nonblock

theorem StatusFlags.without_waits (flags : StatusFlags) :
    (flags.without .nonblock).Waits flags := by
  refine ⟨without_contains flags, ?_⟩
  have bits : ((flags.without nonblock).union nonblock).bits = (flags.union nonblock).bits := by
    apply BitVec.eq_of_getLsbD_eq
    intro i within
    rw [union, union, BitVec.getLsbD_or, BitVec.getLsbD_or, without_bit flags i within,
      nonblock_bit, BitVec.getLsbD_twoPow]
    by_cases same : i = 11
    · simp [same]
    · simp [same]
  exact congrArg StatusFlags.mk bits

-- The descriptor that a call connects, sends on or reads from, and the status flags it finds there.
def NativeCall.finds : NativeCall → Option (Holder × Option StatusFlags)
  | .connected fd _ flags _ => some (fd, flags)
  | .sent fd _ flags | .received fd flags => some (fd, some flags)
  | .opened _ | .closed _ | .lookedUp _ _ | .named _ => none

namespace Intercept

theorem talk_finds (fd : Holder) (flags : Option StatusFlags) (call : NativeCall)
    (talk : Network.Talk fd flags call) : call.finds = some (fd, flags) := by
  obtain ⟨seen, rfl, rfl | ⟨bytes, rfl⟩⟩ := talk <;> rfl

-- A call that ends leaves the descriptor with the flags that it was called with.
theorem ended_restored (ended : Except Stop Head) (e last : Endpoint) (net : Network)
    (ends : answer ended ≠ .never) :
    (blamed (net.setEndpoint .caller (some (Tunnel.flagsAfter e.flags last ended))) ended).caller.map
      (·.flags) = some e.flags := by
  rcases ended with (fault | _ | _) | head
  · rfl
  · rfl
  · exact absurd rfl ends
  · rfl

theorem connect_restores (context : Context) (address : SocketAddress) (net : Network) :
    let (course, after) := connect context address net
    (course ≠ .never → after.caller.map (·.flags) = net.caller.map (·.flags)) ∧
      ∃ made, after.calls = net.calls ++ made ∧
        (Eligible context address net → ∃ target e seen, context.target = some target ∧
          net.caller = some e ∧ seen.Waits e.flags ∧
          made.head? = some (.connected .caller (.ofBytes target.sockaddr) (some seen)
            e.closeOnExec) ∧
          ∀ call ∈ made, call.finds = some (.caller, some seen)) ∧
        (¬ Eligible context address net → course ≠ .never ∧
          made = [.connected .caller address (net.caller.map (·.flags))
            ((net.caller.map (·.closeOnExec)).getD false)]) := by
  by_cases eligible : Eligible context address net
  · obtain ⟨target, destination, e, active, redirected, held⟩ :=
      eligible_redirects context address net eligible
    obtain ⟨talk, calls, talking, _⟩ :=
      connect_makes context address net target destination e active redirected held
    obtain ⟨last, remarks, _, _, tunneled⟩ :=
      connect_asks context address net target destination e active redirected held
    rw [tunneled] at calls ⊢
    rw [held]
    refine ⟨ended_restored _ e last _, _, calls, fun _ => ?_, absurd eligible⟩
    refine ⟨target, e, e.waiting.flags, active, rfl, StatusFlags.without_waits e.flags, rfl, ?_⟩
    refine List.forall_mem_cons.mpr ⟨rfl, fun call member => ?_⟩
    exact talk_finds .caller _ call (talking call member)
  · obtain ⟨remarks, passed⟩ := connect_passes context address net eligible
    have worked := Network.connect_works net .caller address
    rw [passed, passes_connect]
    exact ⟨fun _ => worked.flags, _, worked.calls, (absurd · eligible), fun _ => ⟨nofun, rfl⟩⟩

end Intercept

end ProxyTunnel
