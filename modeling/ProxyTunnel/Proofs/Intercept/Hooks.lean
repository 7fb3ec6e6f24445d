import ProxyTunnel.Intercept.HostProgram

/-!
The hooks of a program and the context that they share. It is made from the environment at the first
event that needs one and at which making it does not panic. Every call before that is the real call,
and every call from then on is intercepted in this context.
-/

set_option autoImplicit false

namespace ProxyTunnel

namespace HostProgram

def Event.needs : Event → Bool
  | .setVariable _ _ | .unsetVariable _ => false
  | .load | .connect _ _ | .getaddrinfo _ _ | .getnameinfo _ _ _ => true

-- What a hook answers where the call is intercepted: the result of the intercepted call or, where
-- that panics, of the real call after it.
def Hooked {α : Type} (seen : α → Network → Answer) (intercepted : Course α × Network)
    (real : Network → α × Network) (answer : Answer) : Prop :=
  (∀ result, intercepted.1 = .returns result → answer = seen result intercepted.2) ∧
  (intercepted.1 = .panics → answer = seen (real intercepted.2).1 (real intercepted.2).2) ∧
  (intercepted.1 = .never → answer = .never intercepted.2)

section

variable (c : Configuration)

-- Each of these events finds what stands with it, if it needs a context.
def Keeps : HostProgram → List (Event × Option Startup) → Prop
  | _, [] => True
  | h, (event, startup) :: events =>
      (event.needs = true → h.current c = startup) ∧ Keeps (h.next c event) events

-- The events of a life in two parts, each with the context that it finds.
def parts (before after : List Event) (made : Option Startup) : List (Event × Option Startup) :=
  before.map (·, none) ++ after.map (·, made)

end

end HostProgram

end ProxyTunnel
