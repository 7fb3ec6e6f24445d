import ProxyTunnel.Proofs.Network.Since
import ProxyTunnel.Proofs.Tunnel.Exchange

/-!
Two networks that differ only in what happened before: on one the clock has run and calls have been
made, on the other nothing has happened yet. Work on them has the same results and keeps them so.
-/

set_option autoImplicit false

namespace ProxyTunnel.Network

-- `n` is `m` after a past. What has been said, and what the last call that failed has left, is not
-- compared.
structure Follows (past n m : Network) : Prop where
  clock : n.clock = past.clock + m.clock
  number : n.callerNumber = m.callerNumber
  caller : m.caller = n.caller.map (·.since past.clock)
  engine : m.engine = n.engine.map (·.since past.clock)
  reach : n.reach = m.reach
  resolver : n.resolver = m.resolver
  proxy : n.proxy = m.proxy
  refusal : n.refusal = m.refusal
  barred : n.barred = m.barred
  calls : n.calls = past.calls ++ m.calls

variable (past n m : Network)

theorem follows_endpoint (fd : Holder) (follows : Follows past n m) :
    m.endpoint fd = (n.endpoint fd).map (·.since past.clock) := by
  cases fd with
  | caller => exact follows.caller
  | engine => exact follows.engine

theorem say_follows (said told : List Remark) (follows : Follows past n m) :
    Follows past (n.say said) (m.say told) := { follows with }

theorem record_follows (call : NativeCall) (follows : Follows past n m) :
    Follows past (n.record call) (m.record call) :=
  { follows with calls := by rw [record, record, follows.calls, List.append_assoc] }

theorem set_endpoint_follows (fd : Holder) (e : Option Endpoint) (follows : Follows past n m) :
    Follows past (n.setEndpoint fd e) (m.setEndpoint fd (e.map (·.since past.clock))) := by
  cases fd with
  | caller => exact { follows with caller := rfl }
  | engine => exact { follows with engine := rfl }

theorem tick_follows (follows : Follows past n m) : Follows past n.tick m.tick :=
  { follows with clock := by rw [tick, tick, follows.clock, Nat.add_assoc] }

-- What a descriptor is, apart from what is on its way to it.
theorem follows_outside {α : Type} (fd : Holder) (follows : Follows past n m) (look : Endpoint → α)
    (outside : ∀ e, look (e.since past.clock) = look e) :
    (m.endpoint fd).map look = (n.endpoint fd).map look := by
  rw [follows_endpoint past n m fd follows, Option.map_map]
  exact congrArg (fun seen => (n.endpoint fd).map seen) (funext outside)

theorem leave_follows (cause : Errno) (follows : Follows past n m) :
    Follows past (n.leave cause) (m.leave cause) := { follows with }

theorem attach_proxy_follows (fd : Holder) (follows : Follows past n m) :
    Follows past (n.attachProxy fd) (m.attachProxy fd) := by
  have held := follows_endpoint past n m fd follows
  rw [attachProxy, attachProxy, held, ← follows.proxy]
  cases n.proxy with
  | none => exact follows
  | some script =>
      cases n.endpoint fd with
      | none => exact follows
      | some e =>
          have kind : (e.since past.clock).kind = e.kind := rfl
          simp only [Option.map_some, kind]
          split
          · have set := set_endpoint_follows past n m fd (some (e.attach script n.clock)) follows
            rw [Option.map_some, follows.clock, Endpoint.attach_since] at set
            rw [follows.clock]
            exact { set with proxy := rfl }
          · exact follows

theorem connect_follows (fd : Holder) (address : SocketAddress) (follows : Follows past n m) :
    (n.connect fd address).1 = (m.connect fd address).1 ∧
      Follows past (n.connect fd address).2 (m.connect fd address).2 := by
  have kind := follows_outside past n m fd follows (·.kind) fun _ => rfl
  have call : m.connectCall fd address = n.connectCall fd address := by
    rw [connectCall, connectCall, follows_outside past n m fd follows (·.flags) fun _ => rfl,
      follows_outside past n m fd follows (·.closeOnExec) fun _ => rfl]
  have outcome : n.dialOutcome fd address = m.dialOutcome fd address := by
    rw [dialOutcome, dialOutcome, kind, follows.reach]
  have dialled : Follows past (n.dialled fd address) (m.dialled fd address) := by
    have recorded := record_follows past n m (n.connectCall fd address) follows
    rw [dialled, Network.dialled, call, kind, follows.reach]
    exact { recorded with reach := rfl }
  rw [connect_dials, connect_dials, ← outcome]
  refine ⟨rfl, ?_⟩
  dsimp only
  split
  · exact leave_follows past _ _ _ dialled
  · exact attach_proxy_follows past _ _ fd dialled

theorem send_follows (fd : Holder) (bytes : Bytes) (follows : Follows past n m) :
    (n.sendAll fd bytes).1 = (m.sendAll fd bytes).1 ∧
      Follows past (n.sendAll fd bytes).2 (m.sendAll fd bytes).2 := by
  have held := follows_endpoint past n m fd follows
  cases opened : n.endpoint fd with
  | none =>
      rw [opened] at held
      simp only [sendAll, opened, held, Option.map_none]
      split
      · exact ⟨rfl, follows⟩
      · exact ⟨rfl, leave_follows past n m _ follows⟩
  | some e =>
      rw [opened, Option.map_some] at held
      have outbound : (e.since past.clock).outbound = e.outbound := rfl
      rw [send_held n fd bytes e opened, send_held m fd bytes _ held, outbound]
      generalize transmit e.outbound.standing e.outbound.outcomes bytes = t
      have kept := set_endpoint_follows past n m fd
        (some { e with outbound := { e.outbound with outcomes := t.rest } }) follows
      have sent := record_follows past _ _ (.sent fd t.taken e.flags) kept
      refine ⟨rfl, ?_⟩
      rw [transmitted, transmitted]
      cases t.failure with
      | none => exact sent
      | some cause => exact leave_follows past _ _ cause sent

theorem read_follows (fd : Holder) (deadline : Option Nat) (follows : Follows past n m) :
    let later := deadline.map (past.clock + ·)
    (n.readHead fd later).1 = (m.readHead fd deadline).1 ∧
      Follows past (n.readHead fd later).2 (m.readHead fd deadline).2 := by
  intro later
  have held := follows_endpoint past n m fd follows
  rw [readHead, readHead, held]
  cases n.endpoint fd with
  | none => exact ⟨rfl, follows⟩
  | some e =>
      let p := n.patience e (deadline.map (past.clock + ·))
      have patience : p.since past.clock = m.patience (e.since past.clock) deadline := by
        have back : (fun time => time - past.clock) ∘ (past.clock + ·) = id :=
          funext fun time => Nat.add_sub_cancel_left past.clock time
        simp only [p, Network.patience, Patience.since, follows.barred, Option.map_map, back,
          Option.map_id_fun]
        rfl
      obtain ⟨head, clock, inbound⟩ := Inbound.read_since past.clock e.inbound p m.clock
      have stalls := Inbound.stalls_since past.clock e.inbound p m.clock
      rw [patience] at head clock inbound stalls
      rw [← follows.clock] at head clock inbound stalls
      have set := set_endpoint_follows past n m fd
        (some (e.afterRead (e.inbound.readHead p n.clock).2.2)) follows
      rw [Option.map_some, Endpoint.after_read_since, inbound] at set
      have read := record_follows past _ _ (.received fd e.flags) set
      refine ⟨?_, { read with clock }⟩
      change (if e.inbound.stalls p n.clock then none
          else some (e.inbound.readHead p n.clock).1) =
        if (e.inbound.since past.clock).stalls _ m.clock then none else some _
      rw [stalls, head]
      rfl

theorem overruns_follows (budget : Option Duration) (follows : Follows past n m)
    (shown : n.overruns budget = false) : m.overruns budget = false := by
  have clock := follows.clock
  cases budget with
  | none => rfl
  | some b =>
      simp only [overruns, Option.any_some, decide_eq_false_iff_not] at shown ⊢
      omega

-- Both clocks can show the end of the time that the reply may take.
theorem talk_follows (fd : Holder) (budget : Option Duration) (request : Request)
    (follows : Follows past n m) (shown : n.overruns budget = false) :
    (n.talk fd budget request).1 = (m.talk fd budget request).1 ∧
      Follows past (n.talk fd budget request).2 (m.talk fd budget request).2 := by
  obtain ⟨sent, told⟩ := send_follows past n m fd request.bytes follows
  have later : (n.sendAll fd request.bytes).2.overruns budget = false := by
    rw [overruns, send_clock]
    exact shown
  rw [talk, talk]
  generalize n.sendAll fd request.bytes = first at sent told later
  generalize m.sendAll fd request.bytes = second at sent told
  rcases first with ⟨ended, n⟩
  rcases second with ⟨_, m⟩
  cases sent
  rcases ended with _ | cause | sent
  · exact ⟨rfl, told⟩
  · exact ⟨rfl, told⟩
  · have deadline : budget.map (n.clock + ·.nanos) =
        (budget.map (m.clock + ·.nanos)).map (past.clock + ·) := by
      rw [Option.map_map, told.clock]
      exact congrArg (budget.map ·) (funext fun b => Nat.add_assoc _ _ _)
    obtain ⟨head, read⟩ := read_follows past n.tick m.tick fd (budget.map (m.clock + ·.nanos))
      (tick_follows past n m told)
    have earlier := overruns_follows past n m budget told later
    dsimp only at later ⊢
    rw [later, earlier, if_neg Bool.false_ne_true, if_neg Bool.false_ne_true, deadline]
    generalize n.tick.readHead fd ((budget.map (m.clock + ·.nanos)).map (past.clock + ·)) = first
      at head read ⊢
    generalize m.tick.readHead fd (budget.map (m.clock + ·.nanos)) = second at head read ⊢
    rcases first with ⟨heard, n⟩
    rcases second with ⟨_, m⟩
    cases head
    cases heard with
    | none => exact ⟨rfl, read⟩
    | some head =>
        dsimp only
        split
        · exact ⟨rfl, read⟩
        · exact ⟨rfl, read⟩

theorem ask_follows (fd : Holder) (target : Target) (budget : Option Duration) (request : Request)
    (follows : Follows past n m) (shown : n.overruns budget = false) :
    (n.ask fd target budget request).1 = (m.ask fd target budget request).1 ∧
      Follows past (n.ask fd target budget request).2 (m.ask fd target budget request).2 := by
  obtain ⟨outcome, linked⟩ := connect_follows past n m fd (.ofBytes target.sockaddr) follows
  have later : (n.connect fd (.ofBytes target.sockaddr)).2.overruns budget = false := by
    rw [overruns, connect_clock]
    exact shown
  rw [ask, ask]
  generalize n.connect fd (.ofBytes target.sockaddr) = first at outcome linked later
  generalize m.connect fd (.ofBytes target.sockaddr) = second at outcome linked
  rcases first with ⟨ended, n⟩
  rcases second with ⟨_, m⟩
  cases outcome
  dsimp only
  split
  · exact ⟨rfl, linked⟩
  · exact talk_follows past n m fd budget request linked later

end ProxyTunnel.Network
