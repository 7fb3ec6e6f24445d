import ProxyTunnel.Errno
import ProxyTunnel.Network.StatusFlags
import ProxyTunnel.Text.Utf8

/-!
What host programs ask of the network, and what they are answered.
-/

set_option autoImplicit false

namespace ProxyTunnel

inductive Holder where
  -- The descriptor that the host program passed in.
  | caller
  -- The socket that the tunnel opened for itself.
  | engine
deriving DecidableEq, Repr

-- A socket address as a caller passes it: the bytes it points to, if it points anywhere, and a
-- length. Bytes within the length that are not given count as zero.
structure SocketAddress where
  bytes : Option Bytes
  length : Nat
deriving DecidableEq, Repr

def SocketAddress.visible (a : SocketAddress) : Option Bytes := a.bytes.map (·.take a.length)

def SocketAddress.ofBytes (bytes : Bytes) : SocketAddress := ⟨some bytes, bytes.length⟩

-- What a native connect returns, and the cause that it leaves if that is negative.
structure ConnectOutcome where
  rc : Int
  cause : Errno
deriving DecidableEq, Repr, Inhabited

structure Hints where
  flags : Int
  family : Int
  socktype : Int
  protocol : Int
deriving DecidableEq, Repr

structure Lookup where
  node : Option Bytes
  service : Option Bytes
  hints : Option Hints
deriving DecidableEq, Repr

-- A question to `getnameinfo`: an address, the sizes of the two buffers and the flags. A buffer of
-- size zero is absent.
structure NameQuery where
  address : SocketAddress
  hostSize : Nat
  serviceSize : Nat
  flags : Int
deriving DecidableEq, Repr

structure NameAnswer where
  rc : Int
  host : Bytes
  service : Bytes
deriving DecidableEq, Repr

-- A native call, as it is recorded; where a descriptor is used, with the status flags that it has
-- at that moment.
inductive NativeCall where
  | opened (closeOnExec : Bool)
  | connected (fd : Holder) (address : SocketAddress) (flags : Option StatusFlags)
      (closeOnExec : Bool)
  | sent (fd : Holder) (bytes : Bytes) (flags : StatusFlags)
  | received (fd : Holder) (flags : StatusFlags)
  | closed (fd : Holder)
  | lookedUp (question : Lookup) (proxySocketOpen : Bool)
  | named (question : NameQuery)
deriving DecidableEq, Repr

end ProxyTunnel
