import ProxyTunnel.Network.Inbound
import ProxyTunnel.Network.Outbound
import ProxyTunnel.Network.StatusFlags

/-!
An open descriptor, and the script of the proxy that may come to sit at its far end.
-/

set_option autoImplicit false

namespace ProxyTunnel

inductive EndpointKind where
  -- One end of a pair of stream sockets, at whose other end nobody reads or writes.
  | paired
  -- A stream socket that is not connected.
  | stream
  | datagram
  | udp
  | seqpacket
  | file
deriving DecidableEq, Repr

def EndpointKind.isStream : EndpointKind → Bool
  | .paired | .stream => true
  | _ => false

-- A part of a proxy's reply: bytes, a pause before the rest, or a failure of one read of it.
inductive ReplyPart where
  | bytes (bytes : Bytes)
  | pause (millis : Nat)
  | failure (failure : ReadFailure)
deriving DecidableEq, Repr

structure ProxyScript where
  reply : List ReplyPart
  ending : Ending
  sends : Outbound
deriving DecidableEq, Repr

namespace ProxyScript

-- The arrivals of a reply that starts at a time, and the time at which it is over.
def schedule : Nat → List ReplyPart → List Arrival × Nat
  | now, [] => ([], now)
  | now, .bytes bytes :: rest =>
      let (arrivals, ended) := schedule now rest
      (bytes.map (fun b => ⟨now, .byte b⟩) ++ arrivals, ended)
  | now, .pause millis :: rest => schedule (now + millis * Duration.nanosPerMilli) rest
  | now, .failure failure :: rest =>
      let (arrivals, ended) := schedule now rest
      (⟨now, .failed failure⟩ :: arrivals, ended)

-- What a proxy that is connected to at a time has to deliver, whatever it is sent.
def inbound (s : ProxyScript) (now : Nat) : Inbound :=
  let (arrivals, ended) := schedule now s.reply
  ⟨arrivals, s.ending, ended⟩

end ProxyScript

structure Endpoint where
  kind : EndpointKind
  flags : StatusFlags
  closeOnExec : Bool
  inbound : Inbound
  outbound : Outbound
deriving DecidableEq, Repr

namespace Endpoint

-- What reading gives on a descriptor to which no proxy is connected.
def idleInbound : EndpointKind → Inbound
  | .paired | .datagram | .udp => ⟨[], .silent, 0⟩
  | .stream => ⟨[], .refuses .notConnected, 0⟩
  | .seqpacket | .file => ⟨[], .closes, 0⟩

-- Why sending fails on a descriptor to which no proxy is connected. The first datagram finds that
-- nobody is there, and with that the descriptor is no longer connected.
def idleOutbound : EndpointKind → Outbound
  | .paired => ⟨[], none⟩
  | .stream | .seqpacket => ⟨[], some .EPIPE⟩
  | .udp => ⟨[], some .EDESTADDRREQ⟩
  | .datagram => ⟨[.refused .ECONNREFUSED], some .ENOTCONN⟩
  | .file => ⟨[], some .ENOTSOCK⟩

def fresh (kind : EndpointKind) (flags : StatusFlags) (closeOnExec : Bool) : Endpoint :=
  ⟨kind, flags, closeOnExec, idleInbound kind, idleOutbound kind⟩

-- The descriptor once a proxy sits at its far end; its flags stay.
def attach (e : Endpoint) (script : ProxyScript) (now : Nat) : Endpoint :=
  { e with inbound := script.inbound now, outbound := script.sends }

-- The descriptor after a read. Once a read has met the reset of the far end, nobody takes what is
-- sent.
def afterRead (e : Endpoint) (inbound : Inbound) : Endpoint :=
  let reset := e.inbound.ending = .resets ∧ inbound.ending ≠ .resets
  { e with inbound, outbound := if reset then ⟨[], some .EPIPE⟩ else e.outbound }

end Endpoint

end ProxyTunnel
