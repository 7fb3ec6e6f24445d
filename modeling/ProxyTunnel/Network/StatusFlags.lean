/-!
Status flags of an open descriptor, as the bit mask that the operating system keeps.
-/

set_option autoImplicit false

namespace ProxyTunnel

structure StatusFlags where
  bits : BitVec 32
deriving DecidableEq, Repr, Inhabited

namespace StatusFlags

def none : StatusFlags := ⟨0⟩

def append : StatusFlags := ⟨0x400⟩

def nonblock : StatusFlags := ⟨0x800⟩

def union (a b : StatusFlags) : StatusFlags := ⟨a.bits ||| b.bits⟩

def contains (a b : StatusFlags) : Bool := a.bits &&& b.bits == b.bits

def without (a b : StatusFlags) : StatusFlags := ⟨a.bits &&& ~~~b.bits⟩

end StatusFlags

end ProxyTunnel
