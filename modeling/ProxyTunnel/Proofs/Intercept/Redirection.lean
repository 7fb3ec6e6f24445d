import ProxyTunnel.Intercept.Connect
import ProxyTunnel.Proofs.Tunnel.Guard

/-!
What becomes of an intercepted `connect`: which calls are redirected, and that either way one native
connect is made, on the descriptor of the caller, to the proxy or just as it was asked for.
-/

set_option autoImplicit false

namespace ProxyTunnel

-- The number of the address family: two bytes, the low one first.
def SocketAddress.family (a : SocketAddress) : Option Nat :=
  a.bytes.map fun bytes => (bytes.getD 0 0).toNat + 256 * (bytes.getD 1 0).toNat

namespace Intercept

-- The calls that are redirected: there is a proxy, and a stream to an IPv4 address is asked for.
structure Eligible (context : Context) (address : SocketAddress) (net : Network) : Prop where
  active : context.target ≠ none
  given : address.bytes ≠ none
  long : 16 ≤ address.length
  inet : address.family = some 2
  stream : ∃ e, net.caller = some e ∧ (e.kind = .paired ∨ e.kind = .stream)

theorem family_inet (bytes : Bytes) : ((bytes.getD 0 0).toNat + 256 * (bytes.getD 1 0).toNat = 2) ↔
    (bytes.getD 0 0 = 2 ∧ bytes.getD 1 0 = 0) := by
  generalize bytes.getD 0 0 = low
  generalize bytes.getD 1 0 = high
  have bound := low.toNat_lt
  constructor
  · intro two
    exact ⟨UInt8.toNat_inj.mp (by simp; omega), UInt8.toNat_inj.mp (by simp; omega)⟩
  · rintro ⟨rfl, rfl⟩
    rfl

theorem is_stream_iff (kind : EndpointKind) :
    kind.isStream = true ↔ (kind = .paired ∨ kind = .stream) := by
  cases kind <;> simp [EndpointKind.isStream]

theorem destination_iff (address : SocketAddress) : (Destination.ofAddress? address).isSome = true ↔
    (address.bytes ≠ none ∧ 16 ≤ address.length ∧ address.family = some 2) := by
  rcases address with ⟨bytes, length⟩
  cases bytes with
  | none => simp [Destination.ofAddress?]
  | some bytes =>
      have inet := family_inet bytes
      simp only [Destination.ofAddress?, SocketAddress.family, Option.map_some, Option.some.injEq,
        inet]
      by_cases long : 16 ≤ length
      · rw [if_neg (Nat.not_lt.mpr long)]
        by_cases two : bytes.getD 0 0 = 2 ∧ bytes.getD 1 0 = 0
        · rw [if_pos two]
          exact ⟨fun _ => ⟨by simp, long, two⟩, fun _ => rfl⟩
        · rw [if_neg two]
          exact ⟨(by cases ·), fun held => absurd held.2.2 two⟩
      · rw [if_pos (Nat.not_le.mp long)]
        exact ⟨(by cases ·), fun held => absurd held.2.1 long⟩

theorem redirection_iff (address : SocketAddress) (net : Network) :
    (redirection net address).isSome = true ↔
      ((Destination.ofAddress? address).isSome = true ∧
        ∃ e, net.caller = some e ∧ (e.kind = .paired ∨ e.kind = .stream)) := by
  unfold redirection
  cases Destination.ofAddress? address with
  | none => simp
  | some destination =>
      cases net.caller with
      | none => simp
      | some e =>
          simp only [← is_stream_iff]
          by_cases stream : e.kind.isStream = true <;> simp [stream]

theorem eligible_iff (context : Context) (address : SocketAddress) (net : Network) :
    Eligible context address net ↔
      (context.target ≠ none ∧ (redirection net address).isSome = true) := by
  rw [redirection_iff, destination_iff]
  constructor
  · intro eligible
    exact ⟨eligible.active, ⟨eligible.given, eligible.long, eligible.inet⟩, eligible.stream⟩
  · rintro ⟨active, ⟨given, long, inet⟩, stream⟩
    exact ⟨active, given, long, inet, stream⟩

-- Where the call goes that is redirected, and to which destination.
theorem eligible_redirects (context : Context) (address : SocketAddress) (net : Network)
    (eligible : Eligible context address net) : ∃ target destination e,
      context.target = some target ∧ redirection net address = some destination ∧
        net.caller = some e := by
  obtain ⟨active, redirected⟩ := (eligible_iff context address net).mp eligible
  obtain ⟨target, active⟩ := Option.ne_none_iff_exists'.mp active
  obtain ⟨destination, redirected⟩ := Option.isSome_iff_exists.mp redirected
  obtain ⟨e, held, _⟩ := eligible.stream
  exact ⟨target, destination, e, active, redirected, held⟩

theorem eligible_stream (context : Context) (address : SocketAddress) (net : Network) (e : Endpoint)
    (eligible : Eligible context address net) (held : net.caller = some e) :
    e.waiting.kind.isStream = true := by
  obtain ⟨same, found, kind⟩ := eligible.stream
  rw [held] at found
  cases found
  exact (is_stream_iff e.kind).mpr kind

-- A caller with a stream socket, and a proxy that sends these bytes and closes.
def facing (reply : Bytes) : Network :=
  { clock := 0, callerNumber := 3, caller := some (.fresh .stream .none false), engine := none,
    reach := .scripted [], resolver := .numeric,
    proxy := some ⟨[.bytes reply], .closes, ⟨[], none⟩⟩, refusal := none, barred := false,
    errno := default, calls := [], remarks := [] }

def here : Context := ⟨some ⟨3128, by decide, by decide⟩, none⟩

def there : SocketAddress := IpAddress.loopback4.socketAddress 80

-- A proxy that takes the request and keeps silent.
def silent : Network := { facing [] with proxy := some ⟨[], .silent, ⟨[], none⟩⟩ }

-- A budget whose end no clock shows.
def boundless : Context :=
  { here with budget := some ⟨Nat.pow 2 64 * Duration.nanosPerSecond⟩ }

theorem facing_eligible (reply : Bytes) : Eligible here there (facing reply) where
  active := by decide
  given := by decide
  long := by decide
  inet := by decide
  stream := ⟨_, rfl, .inr rfl⟩

theorem tunnel_to_asks (target : Target) (budget : Option Duration) (destination : Destination)
    (net : Network) (e : Endpoint) (held : net.caller = some e) :
    let asked := (net.setEndpoint .caller (some e.waiting)).ask .caller target budget
      (.connect destination.text)
    ∃ last remarks, asked.2.caller = some last ∧ last.flags = e.waiting.flags ∧
      tunnelTo target budget destination net = (asked.1, (asked.2.setEndpoint .caller
        (some (Tunnel.flagsAfter e.flags last asked.1))).say remarks) := by
  intro asked
  obtain ⟨after, last, remarks, borrowed, left, flags, ran⟩ := Tunnel.blocking_asks
    (.connect destination.text) (.borrowed target budget) net .caller e rfl rfl held
  refine ⟨last, remarks, left, flags, ?_⟩
  have kept : after.owns = false := by rw [Connection.owns, borrowed]; rfl
  rw [tunnelTo, Tunnel.run_on_result _ _ _ _ _ ran]
  exact congrArg (Prod.mk _) (Tunnel.left_kept _ _ kept)

-- What a redirected call comes to.
def answer : Except Stop Head → Course CallResult
  | .ok _ => .returns ⟨0, none⟩
  | .error (.fault fault) => .returns ⟨-1, some fault.errno⟩
  | .error .panic => .panics
  | .error .never => .never

-- The network with what a redirected call leaves as the cause of its failure.
def blamed (net : Network) : Except Stop Head → Network
  | .error (.fault fault) => net.leave fault.errno
  | _ => net

theorem blamed_works (fd : Holder) (net : Network) (ended : Except Stop Head) :
    Network.Works fd [] net (blamed net ended) := by
  rcases ended with (fault | _ | _) | head
  · exact Network.leave_works net fd _
  · exact Network.works_refl net fd
  · exact Network.works_refl net fd
  · exact Network.works_refl net fd

theorem connect_tunnels (context : Context) (address : SocketAddress) (net : Network)
    (target : Target) (destination : Destination) (active : context.target = some target)
    (redirected : redirection net address = some destination) : ∃ said remarks,
      let tunneled := tunnelTo target context.budget destination (net.say said)
      connect context address net =
        (answer tunneled.1, (blamed tunneled.2 tunneled.1).say remarks) := by
  refine ⟨[⟨.debug, .connect, s!"connect({net.fdName .caller},...)..."⟩], ?_⟩
  have same : redirection (net.remark .debug .connect s!"connect({net.fdName .caller},...)...")
      address = some destination := redirected
  simp only [connect, active, same]
  rw [Network.remark]
  rcases tunnelTo target context.budget destination _ with ⟨(fault | _ | _) | head, after⟩
  · exact ⟨_, rfl⟩
  · exact ⟨[], by rw [Network.say_nothing]; rfl⟩
  · exact ⟨[], by rw [Network.say_nothing]; rfl⟩
  · exact ⟨_, rfl⟩

theorem blamed_say (net : Network) (ended : Except Stop Head) (remarks : List Remark) :
    blamed (net.say remarks) ended = (blamed net ended).say remarks := by
  rcases ended with (fault | _ | _) | head <;> rfl

-- A redirected call is an exchange on the descriptor of the caller in blocking mode, after which
-- the descriptor has its flags back.
theorem connect_asks (context : Context) (address : SocketAddress) (net : Network)
    (target : Target) (destination : Destination) (e : Endpoint)
    (active : context.target = some target)
    (redirected : redirection net address = some destination) (held : net.caller = some e) :
    let asked := (net.setEndpoint .caller (some e.waiting)).ask .caller target context.budget
      (.connect destination.text)
    ∃ last remarks, asked.2.caller = some last ∧ last.flags = e.waiting.flags ∧
      connect context address net = (answer asked.1, (blamed (asked.2.setEndpoint .caller
        (some (Tunnel.flagsAfter e.flags last asked.1))) asked.1).say remarks) := by
  intro asked
  obtain ⟨said, remarks, tunneled⟩ :=
    connect_tunnels context address net target destination active redirected
  obtain ⟨last, more, left, flags, exchanged⟩ :=
    tunnel_to_asks target context.budget destination (net.say said) e held
  rw [Network.set_endpoint_say, Network.ask_say] at left exchanged
  dsimp only at tunneled
  rw [exchanged, Network.set_endpoint_say, Network.say_append] at tunneled
  dsimp only at tunneled
  rw [blamed_say, Network.say_append] at tunneled
  exact ⟨last, _, left, flags, tunneled⟩

-- The calls that a redirected one makes: it connects the caller's descriptor to the proxy, and then
-- sends and reads on it.
theorem connect_makes (context : Context) (address : SocketAddress) (net : Network)
    (target : Target) (destination : Destination) (e : Endpoint)
    (active : context.target = some target)
    (redirected : redirection net address = some destination) (held : net.caller = some e) :
    let after := (connect context address net).2
    ∃ talk, after.calls = net.calls ++ .connected .caller (.ofBytes target.sockaddr)
        (some e.waiting.flags) e.closeOnExec :: talk ∧
      (∀ call ∈ talk, Network.Talk .caller (some e.waiting.flags) call) ∧
      after.engine = net.engine := by
  intro after
  obtain ⟨last, remarks, _, _, tunneled⟩ :=
    connect_asks context address net target destination e active redirected held
  obtain ⟨talk, worked, talking⟩ := Network.ask_works (net.setEndpoint .caller (some e.waiting))
    .caller target context.budget (.connect destination.text)
  generalize (net.setEndpoint .caller (some e.waiting)).ask .caller target context.budget
    (.connect destination.text) = asked at tunneled worked
  have settled := blamed_works .caller (asked.2.setEndpoint .caller
    (some (Tunnel.flagsAfter e.flags last asked.1))) asked.1
  have calls := settled.calls
  rw [List.append_nil] at calls
  have same : after = _ := congrArg Prod.snd tunneled
  rw [same]
  exact ⟨talk, calls.trans worked.calls, talking,
    (settled.others .engine (by simp)).trans (worked.others .engine (by simp))⟩

-- A call that goes through tells what the native connect came to.
theorem passes_connect (net : Network) (address : SocketAddress) :
    let native := (net.connect .caller address).1
    passThrough net address =
      (⟨native.rc, if native.rc < 0 then some native.cause else none⟩,
        (net.connect .caller address).2) := by
  intro native
  have passed : passThrough net address =
      (.seen (net.connect .caller address).2 native.rc, (net.connect .caller address).2) := rfl
  rw [passed, CallResult.seen]
  by_cases refused : native.rc < 0
  · rw [if_pos refused, if_pos refused, Network.connect_leaves net .caller address refused]
  · rw [if_neg refused, if_neg refused]

theorem passes_say (net : Network) (address : SocketAddress) (said : List Remark) :
    passThrough (net.say said) address =
      ((passThrough net address).1, (passThrough net address).2.say said) := by
  rw [passes_connect, passes_connect, Network.connect_say]

theorem connect_passes (context : Context) (address : SocketAddress) (net : Network)
    (other : ¬ Eligible context address net) : ∃ remarks, connect context address net =
      (.returns (passThrough net address).1, (passThrough net address).2.say remarks) := by
  cases active : context.target with
  | none => exact ⟨[], by simp [connect, active, Network.say, Course.ofReturn]⟩
  | some target =>
      have unmoved : redirection net address = none := by
        rw [eligible_iff, active] at other
        simpa using other
      refine ⟨[⟨.debug, .connect, s!"connect({net.fdName .caller},...)..."⟩], ?_⟩
      have same : redirection (net.remark .debug .connect s!"connect({net.fdName .caller},...)...")
          address = none := unmoved
      simp only [connect, active, same]
      exact congrArg Course.ofReturn (passes_say net address _)

theorem target_address (target : Target) : target.sockaddr.length = 16 ∧
    IpAddress.ofSocketAddress? (.ofBytes target.sockaddr) = some (.loopback4, target.port) := by
  refine ⟨rfl, ?_⟩
  have port : natOfBytes [UInt8.ofNat (target.port / 256), UInt8.ofNat target.port] =
      target.port := by
    have bound := target.port_lt
    simp [natOfBytes]
    omega
  have address : BitVec.ofNat 32 (natOfBytes [127, 0, 0, 1]) = 0x7F000001#32 := rfl
  simp [IpAddress.ofSocketAddress?, SocketAddress.ofBytes, Target.sockaddr, port, address,
    IpAddress.loopback4]

theorem connect_once (context : Context) (address : SocketAddress) (net : Network) :
    let (result, after) := connect context address net
    ∃ call talk, after.calls = net.calls ++ call :: talk ∧
      (∀ other ∈ talk, (∃ flags, other = .received .caller flags) ∨
        ∃ bytes flags, other = .sent .caller bytes flags) ∧
      after.engine = net.engine ∧
      (Eligible context address net ↔
        (context.target ≠ none ∧ (redirection net address).isSome = true)) ∧
      (Eligible context address net → ∃ target flags closeOnExec, context.target = some target ∧
        call = .connected .caller (.ofBytes target.sockaddr) flags closeOnExec ∧
        target.sockaddr.length = 16 ∧
        IpAddress.ofSocketAddress? (.ofBytes target.sockaddr) =
          some (.loopback4, target.port)) ∧
      (¬ Eligible context address net → talk = [] ∧
        call = .connected .caller address (net.caller.map (·.flags))
          ((net.caller.map (·.closeOnExec)).getD false) ∧
        (∃ seen, result = .returns seen ∧ seen.rc = (net.connect .caller address).1.rc ∧
          seen.cause = (if (net.connect .caller address).1.rc < 0 then
            some (net.connect .caller address).1.cause else none)) ∧
        after.caller.map (·.flags) = net.caller.map (·.flags)) := by
  by_cases eligible : Eligible context address net
  · obtain ⟨target, destination, e, active, redirected, held⟩ :=
      eligible_redirects context address net eligible
    obtain ⟨talk, calls, talking, engine⟩ :=
      connect_makes context address net target destination e active redirected held
    refine ⟨_, talk, calls, ?_, engine, eligible_iff context address net, ?_, absurd eligible⟩
    · intro other member
      obtain ⟨seen, _, rfl | ⟨bytes, rfl⟩⟩ := talking other member
      · exact .inl ⟨seen, rfl⟩
      · exact .inr ⟨bytes, seen, rfl⟩
    · intro _
      exact ⟨target, _, _, active, rfl, target_address target⟩
  · obtain ⟨remarks, passed⟩ := connect_passes context address net eligible
    have worked := Network.connect_works net .caller address
    rw [passed, passes_connect]
    refine ⟨_, [], worked.calls, by simp, worked.others .engine (by simp),
      eligible_iff context address net,
      (absurd · eligible), ?_⟩
    intro _
    exact ⟨rfl, rfl, ⟨_, rfl, rfl, rfl⟩, worked.flags⟩

end Intercept

end ProxyTunnel
