import ProxyTunnel.Network.Call

/-!
Internet addresses of both versions, and the socket addresses that hold them with a port.
-/

set_option autoImplicit false

namespace ProxyTunnel

-- An internet address. In version 6 a scope, unless it is 0, says on which link it is meant.
inductive IpAddress where
  | v4 (value : BitVec 32)
  | v6 (value : BitVec 128) (scope : BitVec 32)
deriving DecidableEq, Repr

def bytesOfNat (width n : Nat) : Bytes :=
  match width with
  | 0 => []
  | w + 1 => bytesOfNat w (n / 256) ++ [UInt8.ofNat n]

def natOfBytes (bytes : Bytes) : Nat := bytes.foldl (fun n b => 256 * n + b.toNat) 0

namespace IpAddress

def family : IpAddress → Nat
  | v4 _ => 2
  | v6 _ _ => 10

def bytes : IpAddress → Bytes
  | v4 value => bytesOfNat 4 value.toNat
  | v6 value _ => bytesOfNat 16 value.toNat

def loopback4 : IpAddress := .v4 0x7F000001#32

def loopback6 : IpAddress := .v6 1#128 0#32

def isLoopback : IpAddress → Bool
  | v4 value => value.toNat / Nat.pow 2 24 = 127
  | v6 value _ => value = 1#128

-- The socket address of an address and a port: the family with its low byte first, the port with
-- its high byte first, and the address; in version 6 between a flow label, which is 0, and the
-- scope with its low byte first.
def socketAddress (a : IpAddress) (port : Nat) : SocketAddress :=
  let head : Bytes := [UInt8.ofNat a.family, 0] ++ bytesOfNat 2 port
  .ofBytes <|
    match a with
    | v4 _ => head ++ a.bytes ++ List.replicate 8 0
    | v6 _ scope => head ++ List.replicate 4 0 ++ a.bytes ++ (bytesOfNat 4 scope.toNat).reverse

def ofSocketAddress? (address : SocketAddress) : Option (IpAddress × Nat) :=
  match address.bytes with
  | none => none
  | some given =>
      let visible := given ++ List.replicate (address.length - given.length) 0
      let part (start size : Nat) : Nat := natOfBytes ((visible.drop start).take size)
      let scope := natOfBytes ((visible.drop 24).take 4).reverse
      if visible.take 2 = [2, 0] ∧ 16 ≤ address.length then
        some (.v4 (BitVec.ofNat 32 (part 4 4)), part 2 2)
      else if visible.take 2 = [10, 0] ∧ 24 ≤ address.length then
        some (.v6 (BitVec.ofNat 128 (part 8 16)) (BitVec.ofNat 32 scope), part 2 2)
      else none

end IpAddress

end ProxyTunnel
