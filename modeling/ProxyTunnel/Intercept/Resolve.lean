import ProxyTunnel.Intercept.Context
import ProxyTunnel.Intercept.Course
import ProxyTunnel.Tunnel.Connection

/-!
Interception of name resolution. The proxy may know a substitute for a name, which is then looked up
instead; whatever goes wrong, the name itself is looked up. The reverse direction goes through.
-/

set_option autoImplicit false

namespace ProxyTunnel.Intercept

-- The substitute that a response head names: the value of its `Host` line. A text with a NUL cannot
-- be looked up.
def substituteIn (head : Head) : Option Bytes :=
  match head.get? "Host" with
  | none => none
  | some host => if 0 ∈ Utf8.encode host then none else some (Utf8.encode host)

def substitute (context : Context) (name : String) (net : Network) :
    Course (Option Bytes) × Network :=
  match context.target with
  | none => (.returns none, net)
  | some target =>
      match (Tunnel.exchange (.resolve name)).runOn (.owned target context.budget) net with
      | (.ok head, net) => (.returns (substituteIn head), net)
      | (.error (.fault fault), net) =>
          (.returns none, net.remark .debug .resolve s!"RESOLVE {name} failed: {fault.message}")
      | (.error .panic, net) => (.panics, net)
      | (.error .never, net) => (.never, net)

def serviceText (service : Option Bytes) : String := (service.map Utf8.lossy).getD "(null)"

-- Looks up the substitute of a name, and the name itself if there is none or it leads nowhere.
def lookupNamed (context : Context) (question : Lookup) (node : Bytes) (net : Network) :
    Course Int × Network :=
  let shown := Text.quoteName node
  let service := serviceText question.service
  let net :=
    net.remark .debug .resolve s!"getaddrinfo({shown},{Text.quote service})..."
  let (found, net) :=
    match Utf8.decode? node with
    | none => (Course.returns none, net)
    | some name => substitute context name net
  match found with
  | .returns none => Course.ofReturn (net.lookup question)
  | .returns (some host) =>
      let net := net.remark .debug .resolve s!"{shown} -> '{Utf8.lossy host}:{service}'"
      let (rc, net) := net.lookup { question with node := some host }
      if rc = 0 then (.returns 0, net)
      else
        let failed := s!"Resolving substitute {Text.quoteName host} failed ({rc}), using original name"
        Course.ofReturn ((net.remark .debug .resolve failed).lookup question)
  | .panics => (.panics, net)
  | .never => (.never, net)

def getaddrinfo (context : Context) (question : Lookup) (net : Network) : Course Int × Network :=
  match context.isActive, question.node with
  | true, some node => lookupNamed context question node net
  | _, _ => Course.ofReturn (net.lookup question)

-- The intercepted `getnameinfo`, which goes through in every context.
def getnameinfo (_context : Context) (system : NameAnswer) (question : NameQuery) (net : Network) :
    NameAnswer × Network :=
  net.nameInfo system question

end ProxyTunnel.Intercept
