import ProxyTunnel.Intercept.Context
import ProxyTunnel.Intercept.Course
import ProxyTunnel.Tunnel.Connection

/-!
Interception of `connect`. A call that wants a stream to an IPv4 address is redirected: its own
descriptor is connected to the proxy, which is asked for the stream. Every other call goes through.
-/

set_option autoImplicit false

namespace ProxyTunnel

structure Destination where
  a : UInt8
  b : UInt8
  c : UInt8
  d : UInt8
  port : Nat
deriving DecidableEq, Repr

def Destination.text (t : Destination) : String :=
  s!"{t.a.toNat}.{t.b.toNat}.{t.c.toNat}.{t.d.toNat}:{t.port}"

-- The destination that a socket address holds, if it is an IPv4 address: family 2 with the low byte
-- first, the port with the high byte first, and the four bytes of the address.
def Destination.ofAddress? (address : SocketAddress) : Option Destination :=
  match address.bytes with
  | none => none
  | some bytes =>
      let byte (i : Nat) : UInt8 := bytes.getD i 0
      if address.length < 16 then none
      else if byte 0 = 2 ∧ byte 1 = 0 then
        some ⟨byte 4, byte 5, byte 6, byte 7, 256 * (byte 2).toNat + (byte 3).toNat⟩
      else none

-- What a call returns, and the cause that its caller finds if that is negative.
structure CallResult where
  rc : Int
  cause : Option Errno
deriving DecidableEq, Repr

-- What the caller of a call sees that returns a code and leaves its network so.
def CallResult.seen (net : Network) (rc : Int) : CallResult :=
  ⟨rc, if rc < 0 then some net.errno else none⟩

namespace Intercept

-- Where a call on the host program's descriptor is redirected to, if it is.
def redirection (net : Network) (address : SocketAddress) : Option Destination :=
  match Destination.ofAddress? address, net.caller with
  | some destination, some e => if e.kind.isStream then some destination else none
  | _, _ => none

def passThrough (net : Network) (address : SocketAddress) : CallResult × Network :=
  let (outcome, net) := net.connect .caller address
  (.seen net outcome.rc, net)

-- Asks the proxy, over the host program's descriptor, for a stream to the destination.
def tunnelTo (target : Target) (budget : Option Duration) (destination : Destination)
    (net : Network) : Except Stop Head × Network :=
  (Tunnel.blocking (Tunnel.exchange (.connect destination.text))).runOn
    (.borrowed target budget) net

def connect (context : Context) (address : SocketAddress) (net : Network) :
    Course CallResult × Network :=
  match context.target with
  | none => Course.ofReturn (passThrough net address)
  | some target =>
      let fd := net.fdName .caller
      let net := net.remark .debug .connect s!"connect({fd},...)..."
      match redirection net address with
      | none => Course.ofReturn (passThrough net address)
      | some destination =>
          match tunnelTo target context.budget destination net with
          | (.ok _, net) =>
              let net := net.remark .debug .connect
                s!"fd {fd} tunneled to {destination.text} via {target.text}"
              (.returns (.seen net 0), net)
          | (.error (.fault fault), net) =>
              let net := net.remark .debug .connect
                s!"Tunnel to {destination.text} on fd {fd} failed: {fault.message}"
              let net := net.leave fault.errno
              (.returns (.seen net (-1)), net)
          | (.error .panic, net) => (.panics, net)
          | (.error .never, net) => (.never, net)

end Intercept

end ProxyTunnel
