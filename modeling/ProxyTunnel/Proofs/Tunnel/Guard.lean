import ProxyTunnel.Proofs.Tunnel.Exchange

/-!
Work with a descriptor in blocking mode: for its whole length the non-blocking flag is clear and all
other flags are as they were, and afterwards the flags are the ones found before.
-/

set_option autoImplicit false

namespace ProxyTunnel

namespace StatusFlags

theorem nonblock_bit : nonblock.bits = BitVec.twoPow 32 11 := rfl

theorem contains_nonblock (flags : StatusFlags) :
    flags.contains nonblock = flags.bits.getLsbD 11 := by
  rw [contains, nonblock_bit, BitVec.and_twoPow]
  cases flags.bits.getLsbD 11 <;> rfl

theorem without_bit (flags : StatusFlags) (i : Nat) (within : i < 32) :
    (flags.without nonblock).bits.getLsbD i = (flags.bits.getLsbD i && decide (i ≠ 11)) := by
  rw [without, nonblock_bit]
  simp [within]

theorem without_contains (flags : StatusFlags) :
    (flags.without nonblock).contains nonblock = false := by
  rw [contains_nonblock, without_bit flags 11 (by decide)]
  simp

theorem without_absent (flags : StatusFlags) (absent : flags.contains nonblock = false) :
    flags.without nonblock = flags := by
  rw [contains_nonblock] at absent
  have bits : (flags.without nonblock).bits = flags.bits := by
    apply BitVec.eq_of_getLsbD_eq
    intro i within
    rw [without_bit flags i within]
    by_cases same : i = 11
    · rw [same, absent, Bool.false_and]
    · simp [same]
  cases flags
  exact congrArg StatusFlags.mk bits

end StatusFlags

-- A descriptor while it is kept in blocking mode.
def Endpoint.waiting (e : Endpoint) : Endpoint := { e with flags := e.flags.without .nonblock }

namespace BlockingGuard

open StatusFlags

theorem guard_acquires (n : Network) (fd : Holder) (e : Endpoint) (held : n.endpoint fd = some e) :
    ∃ remarks, acquire n fd =
      (.ok ⟨fd, e.flags⟩, (n.setEndpoint fd (some e.waiting)).say remarks) := by
  simp only [acquire, Network.getFlags, Network.setFlags, held]
  by_cases set : e.flags.contains nonblock = true
  · rw [if_pos set]
    exact ⟨_, rfl⟩
  · have same : e.waiting = e := by
      rw [Endpoint.waiting, without_absent e.flags (Bool.eq_false_iff.mpr set)]
    rw [if_neg set, same, Network.set_endpoint_same n fd e held]
    exact ⟨[], by simp [Network.say]⟩

theorem guard_releases (n : Network) (fd : Holder) (e : Endpoint) (saved : StatusFlags)
    (held : n.endpoint fd = some e) (cleared : e.flags = saved.without nonblock) :
    release ⟨fd, saved⟩ n = n.setEndpoint fd (some { e with flags := saved }) := by
  simp only [release, Network.setFlags, held]
  by_cases set : saved.contains nonblock = true
  · rw [if_pos set]
  · have same : ({ e with flags := saved } : Endpoint) = e := by
      rw [without_absent saved (Bool.eq_false_iff.mpr set)] at cleared
      rw [← cleared]
    rw [if_neg set, same, Network.set_endpoint_same n fd e held]

end BlockingGuard

namespace Tunnel

open BlockingGuard

theorem force_run (conn : Connection) (n : Network) (fd : Holder) (e : Endpoint)
    (held : conn.holder = some fd) (opened : n.endpoint fd = some e) : ∃ remarks,
      forceBlocking ⟨conn, n⟩ =
        .ok ⟨fd, e.flags⟩ ⟨conn, (n.setEndpoint fd (some e.waiting)).say remarks⟩ := by
  obtain ⟨remarks, acquired⟩ := guard_acquires n fd e opened
  refine ⟨remarks, ?_⟩
  rw [forceBlocking, bind_ok _ _ _ _ fd (acquire_held _ fd held)]
  exact native_ok _ _ _ _ _ acquired

-- The network once a guard's work has ended so: the guard is released, unless the work never ends.
def releasedAfter {α : Type} (guard : BlockingGuard) (n : Network) : Except Stop α → Network
  | .error .never => n
  | _ => guard.release n

theorem blocking_run {α : Type} (step : Tunnel α) (guard : BlockingGuard) (s t u : Session)
    (ended : Except Stop α) (forced : forceBlocking s = .ok guard t)
    (ran : step t = result u ended) :
    blocking step s = result { u with net := releasedAfter guard u.net ended } ended := by
  simp only [blocking, forced, ran]
  rcases ended with (fault | _ | _) | a <;> rfl

-- A descriptor with the flags that it is left with: its own ones, unless the work never ends.
def flagsAfter {α : Type} (flags : StatusFlags) (last : Endpoint) : Except Stop α → Endpoint
  | .error .never => last
  | _ => { last with flags }

theorem blocking_asks (request : Request) (conn : Connection) (n : Network) (fd : Holder)
    (e : Endpoint) (held : conn.holder = some fd) (unused : conn.connected = false)
    (opened : n.endpoint fd = some e) :
    let asked := (n.setEndpoint fd (some e.waiting)).ask fd conn.target conn.budget request
    ∃ after last remarks, after.holder = some fd ∧ asked.2.endpoint fd = some last ∧
      last.flags = e.waiting.flags ∧ blocking (exchange request) ⟨conn, n⟩ =
        result ⟨after,
            (asked.2.setEndpoint fd (some (flagsAfter e.flags last asked.1))).say remarks⟩
          asked.1 := by
  intro asked
  obtain ⟨said, forced⟩ := force_run conn n fd e held opened
  obtain ⟨after, remarks, kept, exchanged⟩ :=
    exchange_asks request conn ((n.setEndpoint fd (some e.waiting)).say said) fd held unused
  simp only [Network.ask_say, Network.say_append] at exchanged
  obtain ⟨last, left, flags⟩ := Network.ask_leaves (n.setEndpoint fd (some e.waiting)) fd e.waiting
    conn.target conn.budget request (Network.endpoint_set n fd _)
  refine ⟨after, last, said ++ remarks, kept, left, flags, ?_⟩
  have restored : release ⟨fd, e.flags⟩ (asked.2.say (said ++ remarks)) =
      (asked.2.setEndpoint fd (some { last with flags := e.flags })).say (said ++ remarks) := by
    rw [guard_releases _ fd last e.flags (by rw [Network.endpoint_say]; exact left) flags,
      Network.set_endpoint_say]
  have unmoved : asked.2.setEndpoint fd (some last) = asked.2 :=
    Network.set_endpoint_same asked.2 fd last left
  rw [blocking_run _ _ _ _ _ _ forced exchanged]
  change result { net := releasedAfter _ (asked.2.say _) asked.1, .. } asked.1 = _
  rcases asked.1 with (fault | _ | _) | head
  · simp only [releasedAfter, flagsAfter, restored]
  · simp only [releasedAfter, flagsAfter, restored]
  · simp only [releasedAfter, flagsAfter, unmoved]
  · simp only [releasedAfter, flagsAfter, restored]

end Tunnel

end ProxyTunnel
