import ProxyTunnel.Proofs.Network.Sending
import ProxyTunnel.Proofs.Network.Works

/-!
What a record of native calls tells: which sockets were opened, which bytes were sent, and what each
attempt to connect came to. An attempt is answered by the kind of the descriptor, which nothing
changes, and by the attempts before it.
-/

set_option autoImplicit false

namespace ProxyTunnel

namespace NativeCall

-- Whether the socket that a call opens is closed on exec.
def opened? : NativeCall → Option Bool
  | .opened closeOnExec => some closeOnExec
  | _ => none

def sentBytes : NativeCall → Bytes
  | .sent _ bytes _ => bytes
  | _ => []

-- The kind of descriptor and the address of an attempt to connect. A socket of the tunnel's own is
-- not connected yet.
def attempt? (callerKind : Option EndpointKind) :
    NativeCall → Option (Option EndpointKind × SocketAddress)
  | .connected .caller address _ _ => some (callerKind, address)
  | .connected .engine address _ _ => some (some .stream, address)
  | _ => none

end NativeCall

-- What attempts to connect come to one after another, and what later ones will.
def Reach.dials : Reach → List (Option EndpointKind × SocketAddress) → List ConnectOutcome × Reach
  | r, [] => ([], r)
  | r, (kind, address) :: rest =>
      let (outcome, r) := r.dial kind address
      let (outcomes, r) := r.dials rest
      (outcome :: outcomes, r)

theorem Reach.dials_append (r : Reach) (first second : List (Option EndpointKind × SocketAddress)) :
    r.dials (first ++ second) = ((r.dials first).1 ++ ((r.dials first).2.dials second).1,
      ((r.dials first).2.dials second).2) := by
  induction first generalizing r with
  | nil => rfl
  | cons attempt first ih => simp [dials, ih]

theorem Reach.dials_length (r : Reach) (attempts : List (Option EndpointKind × SocketAddress)) :
    (r.dials attempts).1.length = attempts.length := by
  induction attempts generalizing r with
  | nil => rfl
  | cons attempt attempts ih => simp [dials, ih]

namespace Network

def sockets (made : List NativeCall) : List Bool := made.filterMap (·.opened?)

def sent (made : List NativeCall) : Bytes := made.flatMap (·.sentBytes)

theorem received_sent (n m : Network) (made : List NativeCall)
    (calls : m.calls = n.calls ++ made) : m.received = n.received ++ sent made := by
  have whole (n : Network) : n.received = sent n.calls := by
    rw [received, sent, List.flatMap_def]
    rfl
  rw [whole, whole, calls, sent, List.flatMap_append]
  rfl

def attempts (n : Network) (made : List NativeCall) :
    List (Option EndpointKind × SocketAddress) :=
  made.filterMap (·.attempt? (n.caller.map (·.kind)))

-- What the attempts to connect among these calls came to.
def outcomes (n : Network) (made : List NativeCall) : List ConnectOutcome :=
  (n.reach.dials (n.attempts made)).1

-- There is an outcome for every attempt, and for nothing else.
theorem outcomes_nil (n : Network) (made : List NativeCall) : n.outcomes made = [] ↔
    ∀ fd address flags closeOnExec, .connected fd address flags closeOnExec ∉ made := by
  rw [← List.length_eq_zero_iff, outcomes, Reach.dials_length, List.length_eq_zero_iff, attempts,
    List.filterMap_eq_nil_iff]
  constructor
  · intro none fd address flags closeOnExec member
    have absent := none _ member
    cases fd <;> cases absent
  · intro none call member
    cases call with
    | connected fd address flags closeOnExec =>
        exact absurd member (none fd address flags closeOnExec)
    | opened | sent | received | closed | lookedUp | named => rfl

-- Descriptors are of the same kinds, and attempts to connect are answered the same.
structure Alike (n m : Network) : Prop where
  reach : m.reach = n.reach
  kinds : ∀ fd, (m.endpoint fd).map (·.kind) = (n.endpoint fd).map (·.kind)

theorem alike_refl (n : Network) : Alike n n := ⟨rfl, fun _ => rfl⟩

theorem alike_trans (n m k : Network) (before : Alike n m) (after : Alike m k) : Alike n k :=
  ⟨after.reach.trans before.reach, fun fd => (after.kinds fd).trans (before.kinds fd)⟩

theorem surroundings_alike (n : Network) (clock : Nat) (proxy : Option ProxyScript)
    (errno : Errno) (calls : List NativeCall) (remarks : List Remark) :
    Alike n { n with clock, proxy, errno, calls, remarks } :=
  ⟨rfl, fun fd => by cases fd <;> rfl⟩

theorem set_endpoint_alike (n : Network) (fd : Holder) (e next : Endpoint)
    (held : n.endpoint fd = some e) (kind : next.kind = e.kind) :
    Alike n (n.setEndpoint fd (some next)) where
  reach := by cases fd <;> rfl
  kinds other := by
    by_cases same : other = fd
    · rw [same, endpoint_set, held, Option.map_some, Option.map_some, kind]
    · rw [endpoint_set_other n fd other _ same]

theorem attach_proxy_alike (n : Network) (fd : Holder) : Alike n (n.attachProxy fd) := by
  unfold attachProxy
  split
  · rename_i script e _ held
    split
    · have attached := set_endpoint_alike n fd e (e.attach script n.clock) held rfl
      exact alike_trans _ _ _ attached (surroundings_alike _ _ none _ _ _)
    · exact alike_refl n
  · exact alike_refl n

theorem send_alike (n : Network) (fd : Holder) (bytes : Bytes) :
    Alike n (n.sendAll fd bytes).2 := by
  cases held : n.endpoint fd with
  | none =>
      simp only [sendAll, held]
      split
      · exact alike_refl n
      · exact surroundings_alike n _ _ _ _ _
  | some e =>
      let t := transmit e.outbound.standing e.outbound.outcomes bytes
      let next : Endpoint := { e with outbound := { e.outbound with outcomes := t.rest } }
      have kept := set_endpoint_alike n fd e next held rfl
      rw [send_held n fd bytes e held, transmitted]
      cases (transmit e.outbound.standing e.outbound.outcomes bytes).failure <;>
        exact alike_trans _ _ _ kept (surroundings_alike _ _ _ _ _ _)

theorem read_alike (n : Network) (fd : Holder) (deadline : Option Nat) :
    Alike n (n.readHead fd deadline).2 := by
  unfold readHead
  cases held : n.endpoint fd with
  | none => exact alike_refl n
  | some e =>
      let next := e.afterRead (e.inbound.readHead (n.patience e deadline) n.clock).2.2
      have kept := set_endpoint_alike n fd e next held rfl
      exact alike_trans _ _ _ kept (surroundings_alike _ _ _ _ _ _)

theorem connect_alike (n : Network) (fd : Holder) (address : SocketAddress) :
    Alike (n.dialled fd address) (n.connect fd address).2 := by
  rw [connect_dials]
  dsimp only
  split
  · exact surroundings_alike _ _ _ _ _ _
  · exact attach_proxy_alike _ fd

-- Work that is no call on the network.
structure Still (n m : Network) : Prop extends Alike n m where
  calls : m.calls = n.calls

theorem still_refl (n : Network) : Still n n := ⟨alike_refl n, rfl⟩

theorem still_say (n m : Network) (remarks : List Remark) (still : Still n m) :
    Still n (m.say remarks) :=
  ⟨alike_trans _ _ _ still.toAlike (surroundings_alike m _ _ _ _ _), still.calls⟩

theorem still_leave (n : Network) (cause : Errno) : Still n (n.leave cause) :=
  ⟨surroundings_alike n _ _ cause _ _, rfl⟩

theorem set_flags_still (n : Network) (fd : Holder) (flags : StatusFlags) :
    Still n (n.setFlags fd flags).2 := by
  unfold setFlags
  cases held : n.endpoint fd with
  | none => exact still_leave n .EBADF
  | some e =>
      refine ⟨set_endpoint_alike n fd e { e with flags } held rfl, ?_⟩
      cases fd <;> rfl

-- A connect is the one attempt among its calls.
theorem connect_attempts (n : Network) (fd : Holder) (address : SocketAddress)
    (fresh : fd = .engine → n.engine.map (·.kind) = some .stream) :
    n.attempts [n.connectCall fd address] = [((n.endpoint fd).map (·.kind), address)] := by
  cases fd with
  | caller => rfl
  | engine =>
      have kind : (n.endpoint .engine).map (·.kind) = some .stream := fresh rfl
      rw [kind]
      rfl

theorem transmitted_received (n : Network) (fd : Holder) (e : Endpoint) (t : Transmission) :
    (n.transmitted fd e t).received = n.received ++ t.taken := by
  have calls : (n.transmitted fd e t).calls = n.calls ++ [.sent fd t.taken e.flags] := by
    rw [transmitted]
    cases t.failure <;> cases fd <;> rfl
  rw [received_sent n _ _ calls]
  simp [sent, NativeCall.sentBytes]

-- How a descriptor answers sends. One that is not open refuses them all.
def outbound (n : Network) (fd : Holder) : Outbound :=
  ((n.endpoint fd).map (·.outbound)).getD ⟨[], some .EBADF⟩

theorem send_transmits (n : Network) (fd : Holder) (bytes : Bytes) :
    let o := n.outbound fd
    let t := transmit o.standing o.outcomes bytes
    (n.sendAll fd bytes).1 = sendResult t ∧
      (n.sendAll fd bytes).2.received = n.received ++ t.taken ∧
      (n.sendAll fd bytes).2.outbound fd = ⟨t.rest, o.standing⟩ := by
  cases held : n.endpoint fd with
  | none =>
      have left : (n.leave .EBADF).endpoint fd = none := by rw [← held]; cases fd <;> rfl
      cases bytes with
      | nil => simp [sendAll, outbound, transmit, sendResult, held]
      | cons b bytes =>
          have refused : n.sendAll fd (b :: bytes) = (some (.error .EBADF), n.leave .EBADF) := by
            simp only [sendAll, held, reduceCtorEq, if_false]
          rw [refused]
          simp only [outbound, held, left]
          exact ⟨rfl, (List.append_nil _).symm, rfl⟩
  | some e =>
      rw [send_held n fd bytes e held]
      have same : n.outbound fd = e.outbound := by rw [outbound, held]; rfl
      rw [same]
      dsimp only
      refine ⟨rfl, transmitted_received n fd e _, ?_⟩
      rw [outbound, transmitted]
      generalize transmit e.outbound.standing e.outbound.outcomes bytes = t
      cases t.failure <;> cases fd <;> rfl

-- The first part of the bytes is sent, which is all of them unless sending fails.
theorem send_received (n : Network) (fd : Holder) (bytes : Bytes) : ∃ taken left,
    (n.sendAll fd bytes).2.received = n.received ++ taken ∧ taken ++ left = bytes ∧
      ((n.sendAll fd bytes).1 = some (.ok ()) ↔ left = []) := by
  let o := n.outbound fd
  obtain ⟨left, split, whole⟩ := transmit_takes o.standing o.outcomes bytes
  obtain ⟨ending, received, _⟩ := send_transmits n fd bytes
  refine ⟨_, left, received, split, ?_⟩
  rw [ending, ← whole]
  exact sent_all _

theorem read_received (n : Network) (fd : Holder) (deadline : Option Nat) :
    (n.readHead fd deadline).2.received = n.received := by
  unfold readHead
  cases held : n.endpoint fd with
  | none => rfl
  | some e =>
      rw [received_sent n _ [.received fd e.flags] (by cases fd <;> rfl)]
      simp [sent, NativeCall.sentBytes]

end Network

end ProxyTunnel
