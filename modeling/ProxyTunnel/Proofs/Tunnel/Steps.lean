import ProxyTunnel.Proofs.Tunnel.Exchange

/-!
What acquiring and connecting come to on any connection, new or in use: each way in which they can
end, with the session that is left.
-/

set_option autoImplicit false

namespace ProxyTunnel.Tunnel

variable (s : Session)

-- A session that has just opened a socket of its own.
def opened : Session := ⟨{ s.conn with holder := some .engine }, s.net.openSocket.2⟩

-- A session that may have no socket.
def refused (cause : Errno) : Session := ⟨s.conn, s.net.leave cause⟩

theorem acquire_cases :
    (∃ fd, s.conn.holder = some fd ∧ acquire s = .ok fd s) ∨
    (∃ cause, s.conn.holder = none ∧ s.net.refusal = some cause ∧
      acquire s = .error (.socket cause) (refused s cause)) ∨
    (s.conn.holder = none ∧ s.net.refusal = none ∧ acquire s = .ok .engine (opened s)) := by
  cases held : s.conn.holder with
  | some fd => exact .inl ⟨fd, rfl, acquire_held s fd held⟩
  | none =>
      cases full : s.net.refusal with
      | some cause =>
          have failed : s.net.openSocket = (.error cause, s.net.leave cause) := by
            simp [Network.openSocket, full, Network.fail]
          exact .inr (.inl ⟨cause, rfl, rfl, acquire_fails s cause _ held failed⟩)
      | none =>
          have fine : s.net.openSocket = (.ok (), s.net.openSocket.2) := by
            simp [Network.openSocket, full]
          exact .inr (.inr ⟨rfl, rfl, acquire_opens s _ held fine⟩)

variable {s} {t : Session} {fd : Holder}

theorem acquired_from (acquired : acquire s = .ok fd t) : s.conn.holder = some fd ∧ t = s ∨
    s.conn.holder = none ∧ s.net.refusal = none ∧ fd = .engine ∧ t = opened s := by
  rcases acquire_cases s with ⟨held, same, done⟩ | ⟨_, _, _, done⟩ | ⟨free, room, done⟩
  · rw [done] at acquired
    cases acquired
    exact .inl ⟨same, rfl⟩
  · rw [done] at acquired
    cases acquired
  · rw [done] at acquired
    cases acquired
    exact .inr ⟨free, room, rfl, rfl⟩

theorem unacquired {stop : Stop} (failed : acquire s = .error stop t) :
    ∃ cause, s.net.refusal = some cause ∧ stop = .socket cause ∧ t = refused s cause := by
  rcases acquire_cases s with ⟨_, _, done⟩ | ⟨cause, _, full, done⟩ | ⟨_, _, done⟩
  · rw [done] at failed
    cases failed
  · rw [done] at failed
    cases failed
    exact ⟨cause, full, rfl, rfl⟩
  · rw [done] at failed
    cases failed

theorem acquire_holds (acquired : acquire s = .ok fd t) : t.conn.holder = some fd := by
  rcases acquired_from acquired with ⟨held, rfl⟩ | ⟨_, _, rfl, rfl⟩
  · exact held
  · rfl

theorem acquire_budget (acquired : acquire s = .ok fd t) : t.conn.budget = s.conn.budget := by
  rcases acquired_from acquired with ⟨_, rfl⟩ | ⟨_, _, _, rfl⟩ <;> rfl

-- Once there is a descriptor, acquiring it has no part in connecting it.
theorem connect_acquired (acquired : acquire s = .ok fd t) : connect s = connect t := by
  have again := acquire_held t fd (acquire_holds acquired)
  exact bind_same _ _ s t (acquired.trans again.symm)

theorem connect_unacquired (stop : Stop) (failed : acquire s = .error stop t) :
    connect s = .error stop t :=
  bind_error _ _ s t stop failed

theorem connect_again (held : s.conn.holder = some fd) (used : s.conn.connected = true) :
    connect s = .ok () s := by
  rw [connect, bind_ok _ _ s s fd (acquire_held s fd held), bind_ok _ _ s s s (get_run s), if_pos used]
  rfl

variable (s)

-- A descriptor cannot be had, it is connected already, or a native connect on it decides.
theorem connect_cases :
    (∃ cause, s.net.refusal = some cause ∧
        connect s = .error (.socket cause) (refused s cause)) ∨
    ∃ fd t, acquire s = .ok fd t ∧ t.conn.holder = some fd ∧
      (t.conn.connected = true ∧ connect s = .ok () t ∨
        t.conn.connected = false ∧ ∃ outcome net remarks,
          t.net.connect fd (.ofBytes t.conn.target.sockaddr) = (outcome, net) ∧
          (outcome.rc < 0 ∧
              connect s = .error (.proxyUnreachable outcome.cause) ⟨t.conn, net.say remarks⟩ ∨
            0 ≤ outcome.rc ∧ connect s = .ok () ⟨{ t.conn with connected := true }, net⟩)) := by
  cases acquired : acquire s with
  | error stop t =>
      obtain ⟨cause, full, rfl, rfl⟩ := unacquired acquired
      exact .inl ⟨cause, full, connect_unacquired _ acquired⟩
  | ok fd t =>
      have held := acquire_holds acquired
      refine .inr ⟨fd, t, rfl, held, ?_⟩
      rw [connect_acquired acquired]
      cases used : t.conn.connected with
      | true => exact .inl ⟨rfl, connect_again held used⟩
      | false =>
          rcases dialled : t.net.connect fd (.ofBytes t.conn.target.sockaddr) with ⟨outcome, net⟩
          obtain ⟨remarks, step⟩ := connect_held t fd held used outcome net dialled
          refine .inr ⟨rfl, outcome, net, remarks, rfl, ?_⟩
          by_cases refused : outcome.rc < 0
          · exact .inl ⟨refused, step.trans (if_pos refused)⟩
          · exact .inr ⟨Int.not_lt.mp refused, step.trans (if_neg refused)⟩

variable {s}

theorem connect_ready (reached : connect s = .ok () t) :
    t.conn.connected = true ∧ (∃ fd, t.conn.holder = some fd) ∧
      t.conn.budget = s.conn.budget := by
  rcases connect_cases s with ⟨_, _, failed⟩ | ⟨fd, u, acquired, held, ⟨used, done⟩ |
    ⟨_, outcome, net, _, _, ⟨_, failed⟩ | ⟨_, done⟩⟩⟩
  · rw [failed] at reached
    cases reached
  · rw [done] at reached
    cases reached
    exact ⟨used, ⟨fd, held⟩, acquire_budget acquired⟩
  · rw [failed] at reached
    cases reached
  · rw [done] at reached
    cases reached
    have kept := acquire_budget acquired
    exact ⟨rfl, ⟨fd, held⟩, kept⟩

theorem connect_fault {stop : Stop} (failed : connect s = .error stop t) :
    ∃ cause, stop = .socket cause ∨ stop = .proxyUnreachable cause := by
  rcases connect_cases s with ⟨cause, _, done⟩ | ⟨_, _, _, _, ⟨_, done⟩ |
    ⟨_, outcome, _, _, _, ⟨_, done⟩ | ⟨_, done⟩⟩⟩
  · rw [done] at failed
    cases failed
    exact ⟨cause, .inl rfl⟩
  · rw [done] at failed
    cases failed
  · rw [done] at failed
    cases failed
    exact ⟨_, .inr rfl⟩
  · rw [done] at failed
    cases failed

end ProxyTunnel.Tunnel
