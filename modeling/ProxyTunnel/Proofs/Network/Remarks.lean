import ProxyTunnel.Proofs.Network.Works

/-!
What has been said about a network has no part in what happens to it: every native call does the
same whatever was said before, and adds nothing to it.
-/

set_option autoImplicit false

namespace ProxyTunnel.Network

@[simp] theorem endpoint_say (n : Network) (remarks : List Remark) (fd : Holder) :
    (n.say remarks).endpoint fd = n.endpoint fd := by
  cases fd <;> rfl

theorem say_append (n : Network) (first second : List Remark) :
    (n.say first).say second = n.say (first ++ second) := by
  simp [say]

theorem say_nothing (n : Network) : n.say [] = n := by simp [say]

theorem say_clock (n : Network) (remarks : List Remark) : (n.say remarks).clock = n.clock := rfl

theorem set_endpoint_say (n : Network) (remarks : List Remark) (fd : Holder)
    (e : Option Endpoint) :
    (n.say remarks).setEndpoint fd e = (n.setEndpoint fd e).say remarks := by
  cases fd <;> rfl

theorem attach_proxy_say (n : Network) (remarks : List Remark) (fd : Holder) :
    (n.say remarks).attachProxy fd = (n.attachProxy fd).say remarks := by
  have proxy : (n.say remarks).proxy = n.proxy := rfl
  simp only [attachProxy, endpoint_say, proxy, say_clock, set_endpoint_say]
  split
  · split <;> rfl
  · rfl

theorem connect_say (n : Network) (remarks : List Remark) (fd : Holder)
    (address : SocketAddress) : (n.say remarks).connect fd address =
      ((n.connect fd address).1, (n.connect fd address).2.say remarks) := by
  have outcome : (n.say remarks).dialOutcome fd address = n.dialOutcome fd address := by
    cases fd <;> rfl
  have dialled : (n.say remarks).dialled fd address = (n.dialled fd address).say remarks := by
    cases fd <;> rfl
  rw [connect_dials, connect_dials, outcome, dialled, attach_proxy_say]
  split <;> rfl

theorem send_say (n : Network) (remarks : List Remark) (fd : Holder) (bytes : Bytes) :
    (n.say remarks).sendAll fd bytes =
      ((n.sendAll fd bytes).1, (n.sendAll fd bytes).2.say remarks) := by
  cases held : n.endpoint fd with
  | none =>
      simp only [sendAll, endpoint_say, held]
      split <;> rfl
  | some e =>
      rw [send_held n fd bytes e held, send_held _ fd bytes e ((endpoint_say n remarks fd).trans held)]
      simp only [transmitted, set_endpoint_say]
      cases (transmit e.outbound.standing e.outbound.outcomes bytes).failure <;> rfl

theorem read_say (n : Network) (remarks : List Remark) (fd : Holder) (deadline : Option Nat) :
    (n.say remarks).readHead fd deadline =
      ((n.readHead fd deadline).1, (n.readHead fd deadline).2.say remarks) := by
  simp only [readHead, endpoint_say]
  cases n.endpoint fd with
  | none => rfl
  | some e =>
      simp only [set_endpoint_say]
      rfl

theorem open_say (n : Network) (remarks : List Remark) :
    (n.say remarks).openSocket = (n.openSocket.1, n.openSocket.2.say remarks) := by
  have refusal : (n.say remarks).refusal = n.refusal := rfl
  rw [openSocket, openSocket, refusal]
  cases n.refusal <;> rfl

theorem close_say (n : Network) (remarks : List Remark) (fd : Holder) :
    (n.say remarks).close fd = (n.close fd).say remarks := by
  cases fd <;> rfl

theorem lookup_say (n : Network) (remarks : List Remark) (question : Lookup) :
    (n.say remarks).lookup question =
      ((n.lookup question).1, (n.lookup question).2.say remarks) := rfl

end ProxyTunnel.Network
