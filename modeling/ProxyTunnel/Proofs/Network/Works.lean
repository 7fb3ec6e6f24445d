import ProxyTunnel.Network

/-!
What native calls on one descriptor do to the network around it: they are recorded, and they touch
nothing but what the far end of that descriptor takes and delivers.
-/

set_option autoImplicit false

namespace ProxyTunnel.Network

-- What connecting a descriptor comes to.
def dialOutcome (n : Network) (fd : Holder) (address : SocketAddress) : ConnectOutcome :=
  (n.reach.dial ((n.endpoint fd).map (·.kind)) address).1

-- The record of connecting a descriptor as it is now.
def connectCall (n : Network) (fd : Holder) (address : SocketAddress) : NativeCall :=
  .connected fd address ((n.endpoint fd).map (·.flags))
    (((n.endpoint fd).map (·.closeOnExec)).getD false)

-- The network once a connect is recorded and before a proxy sits at the far end.
def dialled (n : Network) (fd : Holder) (address : SocketAddress) : Network :=
  { n.record (n.connectCall fd address) with
    reach := (n.reach.dial ((n.endpoint fd).map (·.kind)) address).2 }

theorem connect_dials (n : Network) (fd : Holder) (address : SocketAddress) :
    n.connect fd address = (n.dialOutcome fd address,
      if (n.dialOutcome fd address).rc < 0 then
        (n.dialled fd address).leave (n.dialOutcome fd address).cause
      else (n.dialled fd address).attachProxy fd) := by
  by_cases refused : (n.dialOutcome fd address).rc < 0
  · rw [if_pos refused]
    exact if_pos refused
  · rw [if_neg refused]
    exact if_neg refused

@[simp] theorem endpoint_set (n : Network) (fd : Holder) (e : Option Endpoint) :
    (n.setEndpoint fd e).endpoint fd = e := by
  cases fd <;> rfl

theorem endpoint_set_other (n : Network) (fd other : Holder) (e : Option Endpoint)
    (apart : other ≠ fd) : (n.setEndpoint fd e).endpoint other = n.endpoint other := by
  cases fd <;> cases other <;> first | rfl | contradiction

theorem set_endpoint_same (n : Network) (fd : Holder) (e : Endpoint)
    (held : n.endpoint fd = some e) : n.setEndpoint fd (some e) = n := by
  cases n
  cases fd <;> cases held <;> rfl

theorem open_socket (n : Network) (room : n.refusal = none) : n.openSocket =
    (.ok (), { n with engine := some (.fresh .stream .none true) }.record (.opened true)) := by
  simp [openSocket, room]

-- `m` is what `n` becomes by work on the descriptor that makes these calls.
structure Works (fd : Holder) (made : List NativeCall) (n m : Network) : Prop where
  calls : m.calls = n.calls ++ made
  flags : (m.endpoint fd).map (·.flags) = (n.endpoint fd).map (·.flags)
  others : ∀ other, other ≠ fd → m.endpoint other = n.endpoint other
  number : m.callerNumber = n.callerNumber
  resolver : m.resolver = n.resolver
  refusal : m.refusal = n.refusal
  barred : m.barred = n.barred

theorem works_refl (n : Network) (fd : Holder) : Works fd [] n n :=
  ⟨(List.append_nil _).symm, rfl, fun _ _ => rfl, rfl, rfl, rfl, rfl⟩

theorem works_trans (n m k : Network) (fd : Holder) (first second : List NativeCall)
    (before : Works fd first n m) (after : Works fd second m k) :
    Works fd (first ++ second) n k where
  calls := by rw [after.calls, before.calls, List.append_assoc]
  flags := after.flags.trans before.flags
  others other apart := (after.others other apart).trans (before.others other apart)
  number := after.number.trans before.number
  resolver := after.resolver.trans before.resolver
  refusal := after.refusal.trans before.refusal
  barred := after.barred.trans before.barred

-- The clock, what connects come to, the proxy that waits, what calls have left and what is said are
-- not the descriptor's.
theorem surroundings_works (n : Network) (fd : Holder) (clock : Nat) (reach : Reach)
    (proxy : Option ProxyScript) (errno : Errno) (remarks : List Remark) :
    Works fd [] n { n with clock, reach, proxy, errno, remarks } where
  calls := (List.append_nil _).symm
  flags := by cases fd <;> rfl
  others other _ := by cases other <;> rfl
  number := rfl
  resolver := rfl
  refusal := rfl
  barred := rfl

theorem record_works (n : Network) (fd : Holder) (call : NativeCall) :
    Works fd [call] n (n.record call) where
  calls := rfl
  flags := by cases fd <;> rfl
  others other _ := by cases other <;> rfl
  number := rfl
  resolver := rfl
  refusal := rfl
  barred := rfl

theorem set_endpoint_works (n : Network) (fd : Holder) (e next : Endpoint)
    (held : n.endpoint fd = some e) (flags : next.flags = e.flags) :
    Works fd [] n (n.setEndpoint fd (some next)) where
  calls := by cases fd <;> exact (List.append_nil _).symm
  flags := by rw [endpoint_set, held, Option.map_some, Option.map_some, flags]
  others other apart := endpoint_set_other n fd other _ apart
  number := by cases fd <;> rfl
  resolver := by cases fd <;> rfl
  refusal := by cases fd <;> rfl
  barred := by cases fd <;> rfl

theorem leave_works (n : Network) (fd : Holder) (cause : Errno) : Works fd [] n (n.leave cause) :=
  surroundings_works n fd _ _ _ cause _

theorem attach_proxy_works (n : Network) (fd : Holder) : Works fd [] n (n.attachProxy fd) := by
  unfold attachProxy
  split
  · rename_i script e _ held
    split
    · have attached := set_endpoint_works n fd e (e.attach script n.clock) held rfl
      exact works_trans _ _ _ fd [] [] attached (surroundings_works _ fd _ _ none _ _)
    · exact works_refl n fd
  · exact works_refl n fd

theorem connect_works (n : Network) (fd : Holder) (address : SocketAddress) :
    Works fd [n.connectCall fd address] n (n.connect fd address).2 := by
  have dialled : Works fd [n.connectCall fd address] n (n.dialled fd address) :=
    works_trans _ _ _ fd _ [] (record_works n fd _) (surroundings_works _ fd _ _ _ _ _)
  rw [connect_dials]
  dsimp only
  split
  · exact works_trans _ _ _ fd _ [] dialled (leave_works _ fd _)
  · exact works_trans _ _ _ fd _ [] dialled (attach_proxy_works _ fd)

-- A send or a read on the descriptor, whose flags are known.
def Talk (fd : Holder) (flags : Option StatusFlags) (call : NativeCall) : Prop :=
  ∃ seen, flags = some seen ∧ (call = .received fd seen ∨ ∃ bytes, call = .sent fd bytes seen)

-- What sending comes to: nothing if it is interrupted for ever, else whether it failed.
def sendResult (t : Transmission) : Option (Except Errno Unit) :=
  match t.failure with
  | none => some (.ok ())
  | some .EINTR => none
  | some cause => some (.error cause)

theorem sent_all (t : Transmission) : sendResult t = some (.ok ()) ↔ t.failure = none := by
  rw [sendResult]
  split <;> simp_all

theorem sent_failed (t : Transmission) (cause : Errno) :
    sendResult t = some (.error cause) ↔ t.failure = some cause ∧ cause ≠ .EINTR := by
  rw [sendResult]
  split
  · simp_all
  · rename_i interrupted
    simp_all
  · rename_i other lasting failed
    rw [failed]
    constructor
    · rintro ⟨⟩
      exact ⟨rfl, lasting⟩
    · rintro ⟨⟨⟩, _⟩
      rfl

theorem sent_never (t : Transmission) : sendResult t = none ↔ t.failure = some .EINTR := by
  rw [sendResult]
  split <;> simp_all

-- The network after a transmission on a descriptor that was open.
def transmitted (n : Network) (fd : Holder) (e : Endpoint) (t : Transmission) : Network :=
  let e := { e with outbound := { e.outbound with outcomes := t.rest } }
  let n := (n.setEndpoint fd (some e)).record (.sent fd t.taken e.flags)
  t.failure.elim n n.leave

theorem send_held (n : Network) (fd : Holder) (bytes : Bytes) (e : Endpoint)
    (held : n.endpoint fd = some e) :
    n.sendAll fd bytes =
      (sendResult (transmit e.outbound.standing e.outbound.outcomes bytes),
        n.transmitted fd e (transmit e.outbound.standing e.outbound.outcomes bytes)) := by
  simp only [sendAll, held, sendResult, transmitted]
  cases (transmit e.outbound.standing e.outbound.outcomes bytes).failure with
  | none => rfl
  | some cause => split <;> simp_all

theorem send_works (n : Network) (fd : Holder) (bytes : Bytes) : ∃ made,
    Works fd made n (n.sendAll fd bytes).2 ∧
      ∀ call ∈ made, Talk fd ((n.endpoint fd).map (·.flags)) call := by
  cases held : n.endpoint fd with
  | none =>
      refine ⟨[], ?_, by simp⟩
      simp only [sendAll, held]
      split
      · exact works_refl n fd
      · exact leave_works n fd _
  | some e =>
      let t := transmit e.outbound.standing e.outbound.outcomes bytes
      let next : Endpoint := { e with outbound := { e.outbound with outcomes := t.rest } }
      have kept := set_endpoint_works n fd e next held rfl
      have sent := works_trans _ _ _ fd _ _ kept (record_works _ fd (.sent fd t.taken e.flags))
      refine ⟨[.sent fd t.taken e.flags], ?_, by simp [Talk]⟩
      rw [send_held n fd bytes e held]
      change Works fd _ n (n.transmitted fd e t)
      rw [transmitted]
      cases t.failure with
      | none => exact sent
      | some cause => exact works_trans _ _ _ fd _ [] sent (leave_works _ fd cause)

theorem read_works (n : Network) (fd : Holder) (deadline : Option Nat) : ∃ made,
    Works fd made n (n.readHead fd deadline).2 ∧
      ∀ call ∈ made, Talk fd ((n.endpoint fd).map (·.flags)) call := by
  unfold readHead
  cases held : n.endpoint fd with
  | none => exact ⟨[], works_refl n fd, by simp⟩
  | some e =>
      let next := e.afterRead (e.inbound.readHead (n.patience e deadline) n.clock).2.2
      have kept := set_endpoint_works n fd e next held rfl
      have read := works_trans _ _ _ fd _ _ kept (record_works _ fd (.received fd e.flags))
      refine ⟨[.received fd e.flags], ?_, by simp [Talk]⟩
      exact works_trans _ _ _ fd _ [] read (surroundings_works _ fd _ _ _ _ _)

-- A descriptor that a connect has gone through on, with the proxy that it may have reached.
def joined (n : Network) (e : Endpoint) : Endpoint :=
  match n.proxy with
  | some script => if e.kind.isStream then e.attach script n.clock else e
  | none => e

theorem joined_reached (n : Network) (e : Endpoint) (script : ProxyScript)
    (proxy : n.proxy = some script) (stream : e.kind.isStream = true) :
    n.joined e = e.attach script n.clock := by
  simp only [joined, proxy, stream, if_true]

theorem connect_joins (n : Network) (fd : Holder) (address : SocketAddress) (e : Endpoint)
    (held : n.endpoint fd = some e) (reached : 0 ≤ (n.connect fd address).1.rc) :
    (n.connect fd address).2.endpoint fd = some (n.joined e) ∧
      (n.connect fd address).2.clock = n.clock := by
  rw [connect_dials] at reached ⊢
  have endpoint : (n.dialled fd address).endpoint fd = some e := by rw [← held]; cases fd <;> rfl
  have waiting : (n.dialled fd address).proxy = n.proxy := rfl
  have clock : (n.dialled fd address).clock = n.clock := rfl
  simp only [if_neg (Int.not_lt.mpr reached), attachProxy, endpoint, waiting, joined, clock]
  cases n.proxy with
  | none => exact ⟨endpoint, rfl⟩
  | some script =>
      dsimp only
      split
      · cases fd <;> exact ⟨rfl, rfl⟩
      · exact ⟨endpoint, rfl⟩

-- A connect that goes through puts the proxy at the far end.
theorem connect_attaches (n : Network) (fd : Holder) (address : SocketAddress) (e : Endpoint)
    (script : ProxyScript) (held : n.endpoint fd = some e) (proxy : n.proxy = some script)
    (stream : e.kind.isStream = true) (reached : 0 ≤ (n.connect fd address).1.rc) :
    (n.connect fd address).2.endpoint fd = some (e.attach script n.clock) ∧
      (n.connect fd address).2.clock = n.clock := by
  rw [← joined_reached n e script proxy stream]
  exact connect_joins n fd address e held reached

theorem connect_clock (n : Network) (fd : Holder) (address : SocketAddress) :
    (n.connect fd address).2.clock = n.clock := by
  have dialled : (n.dialled fd address).clock = n.clock := rfl
  rw [connect_dials, ← dialled]
  dsimp only
  split
  · rfl
  · unfold attachProxy
    split
    · split
      · cases fd <;> rfl
      · rfl
    · rfl

theorem send_clock (n : Network) (fd : Holder) (bytes : Bytes) :
    (n.sendAll fd bytes).2.clock = n.clock := by
  cases held : n.endpoint fd with
  | none =>
      simp only [sendAll, held]
      split <;> rfl
  | some e =>
      rw [send_held n fd bytes e held, transmitted]
      cases (transmit e.outbound.standing e.outbound.outcomes bytes).failure <;>
        cases fd <;> rfl

-- A connect that fails leaves its cause.
theorem connect_leaves (n : Network) (fd : Holder) (address : SocketAddress)
    (refused : (n.connect fd address).1.rc < 0) :
    (n.connect fd address).2.errno = (n.connect fd address).1.cause := by
  rw [connect_dials] at refused ⊢
  dsimp only at refused ⊢
  rw [if_pos refused]
  rfl

theorem send_keeps (n : Network) (fd : Holder) (bytes : Bytes) (e : Endpoint)
    (held : n.endpoint fd = some e) : ∃ outbound,
      (n.sendAll fd bytes).2.endpoint fd = some { e with outbound } ∧
        (n.sendAll fd bytes).2.clock = n.clock := by
  rw [send_held n fd bytes e held, transmitted]
  generalize transmit e.outbound.standing e.outbound.outcomes bytes = t
  refine ⟨{ e.outbound with outcomes := t.rest }, ?_⟩
  cases t.failure <;> cases fd <;> exact ⟨rfl, rfl⟩

theorem read_held (n : Network) (fd : Holder) (deadline : Option Nat) (e : Endpoint)
    (held : n.endpoint fd = some e) :
    (n.readHead fd deadline).1 =
        (if e.inbound.stalls (n.patience e deadline) n.clock then none
          else some (e.inbound.readHead (n.patience e deadline) n.clock).1) ∧
      (n.readHead fd deadline).2.endpoint fd =
        some (e.afterRead (e.inbound.readHead (n.patience e deadline) n.clock).2.2) ∧
      (n.readHead fd deadline).2.clock =
        (e.inbound.readHead (n.patience e deadline) n.clock).2.1 := by
  simp only [readHead, held, true_and, and_true]
  cases fd <;> rfl

end ProxyTunnel.Network
