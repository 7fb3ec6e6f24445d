import ProxyTunnel.Duration
import ProxyTunnel.Proxy.Target

/-!
What interception depends on: the proxy, if there is one, and the time its responses may take.
-/

set_option autoImplicit false

namespace ProxyTunnel

-- The settings of interception, fixed for the life of a process.
structure Context where
  target : Option Target
  budget : Option Duration
deriving DecidableEq, Repr

namespace Context

def inactive : Context := ⟨none, none⟩

def isActive (c : Context) : Bool := c.target.isSome

-- The context for a proxy URL, which is inactive unless the URL names a proxy.
def ofUrl (url : Option String) (budget : Option Duration) : Context :=
  ⟨url.bind Target.parse?, budget⟩

end Context

end ProxyTunnel
