import ProxyTunnel.Proofs.Intercept.Redirection
import ProxyTunnel.Proofs.Intercept.Resolution
import ProxyTunnel.Proofs.Request.Lines
import ProxyTunnel.Proofs.Network.Attempts
import ProxyTunnel.Proofs.Tunnel.Stages

/-!
What the proxy receives when a name is looked up: one request that asks for the name, as far as it
is taken. Nothing is checked or escaped in the name, and the frame of the request is of fixed size.
-/

set_option autoImplicit false

namespace ProxyTunnel

namespace Tunnel

open Network

-- All that is received of a request is received while it is sent.
theorem talk_received (n : Network) (fd : Holder) (budget : Option Duration) (request : Request) :
    (n.talk fd budget request).2.received = (n.sendAll fd request.bytes).2.received := by
  rw [talk]
  rcases n.sendAll fd request.bytes with ⟨_ | cause | _, told⟩
  · rfl
  · rfl
  · dsimp only
    have heard := read_received told.tick fd (budget.map (told.clock + ·.nanos))
    split
    · rfl
    · generalize told.tick.readHead fd (budget.map (told.clock + ·.nanos)) = read at heard ⊢
      rcases read with ⟨_ | head, after⟩
      · exact heard
      · dsimp only
        split <;> exact heard

-- The descriptor is connected to the proxy, and the request is taken whole.
structure Sent (n : Network) (fd : Holder) (target : Target) (request : Request) : Prop where
  reached : 0 ≤ (n.connect fd (.ofBytes target.sockaddr)).1.rc
  taken : ((n.connect fd (.ofBytes target.sockaddr)).2.sendAll fd request.bytes).1 =
    some (.ok ())

theorem ask_receives (n : Network) (fd : Holder) (target : Target) (budget : Option Duration)
    (request : Request) : ∃ bytes,
      (n.ask fd target budget request).2.received = n.received ++ bytes ∧
        bytes <+: request.bytes ∧ (Sent n fd target request → bytes = request.bytes) := by
  have dialled : (n.connect fd (.ofBytes target.sockaddr)).2.received = n.received := by
    have worked := connect_works n fd (.ofBytes target.sockaddr)
    rw [received_sent n _ _ worked.calls]
    simp [Network.sent, connectCall, NativeCall.sentBytes]
  by_cases refused : (n.connect fd (.ofBytes target.sockaddr)).1.rc < 0
  · rw [ask_unreached n fd target budget request refused]
    refine ⟨[], by rw [dialled, List.append_nil], List.nil_prefix, fun sent => ?_⟩
    exact absurd sent.reached (Int.not_le.mpr refused)
  · obtain ⟨taken, left, received, split, whole⟩ :=
      send_received (n.connect fd (.ofBytes target.sockaddr)).2 fd request.bytes
    rw [ask_reached n fd target budget request (Int.not_lt.mp refused), talk_received, received,
      dialled]
    refine ⟨taken, rfl, ⟨left, split⟩, fun sent => ?_⟩
    rw [← split, whole.mp sent.taken, List.append_nil]

end Tunnel

namespace Intercept

open Tunnel

-- The proxy is asked for the name in a question, and the request goes through.
structure Asks (context : Context) (question : Lookup) (net : Network) (name : String) : Prop where
  named : question.node.bind Utf8.decode? = some name
  room : net.refusal = none
  sent : ∃ target, context.target = some target ∧
    Sent net.openSocket.2 .engine target (.resolve name)

variable (context : Context) (net : Network)

theorem substitute_receives (name : String) : ∃ bytes,
    (substitute context name net).2.received = net.received ++ bytes ∧
      bytes <+: (Request.resolve name).bytes ∧
      ∀ target, context.target = some target → net.refusal = none →
        Sent net.openSocket.2 .engine target (.resolve name) →
        bytes = (Request.resolve name).bytes := by
  cases active : context.target with
  | none => exact ⟨[], by simp [substitute, active], List.nil_prefix, by simp⟩
  | some target =>
      cases room : net.refusal with
      | some cause =>
          obtain ⟨remarks, refused⟩ := substitute_refused context name net target cause active room
          rw [refused]
          exact ⟨[], (List.append_nil _).symm, List.nil_prefix, by simp⟩
      | none =>
          obtain ⟨remarks, asked⟩ := substitute_asks context name net target active room
          obtain ⟨bytes, received, part, whole⟩ := ask_receives net.openSocket.2 .engine target
            context.budget (.resolve name)
          have opened : net.openSocket.2.received = net.received := by
            rw [Network.open_socket net room, Network.received_sent net _ [.opened true] rfl]
            simp [Network.sent, NativeCall.sentBytes]
          have closed (n : Network) (ended : Except Stop Head) :
              ((visited n ended).say remarks).received = n.received := by
            rcases ended with (fault | _ | _) | head <;>
              simp [visited, Network.received, Network.close, Network.say, Network.record,
                Network.setEndpoint]
          rw [asked, closed, ← opened]
          refine ⟨bytes, received, part, ?_⟩
          rintro _ same _ sent
          cases same
          exact whole sent

theorem settle_receives (found : Course (Option Bytes)) (question : Lookup)
    (complaint : List Remark) :
    (settle found question net complaint).2.received = net.received := by
  have looked (n : Network) (question : Lookup) : (n.lookup question).2.received = n.received := by
    rw [Network.received_sent n _ [.lookedUp question n.engine.isSome] rfl]
    simp [Network.sent, NativeCall.sentBytes]
  rcases found with (_ | host) | _ | _
  · exact looked net question
  · have first := looked net { question with node := some host }
    rw [settle]
    generalize net.lookup { question with node := some host } = answered at first ⊢
    rcases answered with ⟨rc, after⟩
    by_cases fine : rc = 0
    · simp only [if_pos fine]
      exact first
    · simp only [if_neg fine]
      exact (looked (after.say complaint) question).trans first
  · rfl
  · rfl

theorem lookup_receives (question : Lookup) : ∃ bytes,
    (getaddrinfo context question net).2.received = net.received ++ bytes ∧
      (bytes = [] ∨ ∃ name, question.node.bind Utf8.decode? = some name ∧
        bytes <+: (Request.resolve name).bytes) ∧
      ∀ name, Asks context question net name → bytes = (Request.resolve name).bytes := by
  rcases getaddrinfo_settles context question net with
    ⟨unasked, passed⟩ | ⟨node, said, shown, complaint, given, _, settled⟩
  · rw [passed, settle_receives]
    refine ⟨[], (List.append_nil _).symm, .inl rfl, fun name asks => ?_⟩
    rcases unasked with unnamed | inactive
    · have named := asks.named
      rw [unnamed] at named
      cases named
    · obtain ⟨target, active, _⟩ := asks.sent
      cases inactive.symm.trans active
  · rw [settled, settle_receives]
    cases decoded : Utf8.decode? node with
    | none =>
        refine ⟨[], by simp [search, decoded]; rfl, .inl rfl, fun name asks => ?_⟩
        have named := asks.named
        rw [given, Option.bind_some, decoded] at named
        cases named
    | some name =>
        obtain ⟨bytes, received, part, whole⟩ :=
          substitute_receives context (net.say said) name
        refine ⟨bytes, ?_, .inr ⟨name, by rw [given, Option.bind_some, decoded], part⟩, ?_⟩
        · simp only [search, decoded]
          exact received
        · intro other asks
          have named := asks.named
          rw [given, Option.bind_some, decoded] at named
          cases named
          obtain ⟨_, same, sent⟩ := asks.sent
          refine whole _ same asks.room ?_
          rw [Network.open_say]
          exact ⟨by rw [Network.connect_say]; exact sent.reached,
            by rw [Network.connect_say, Network.send_say]; exact sent.taken⟩

theorem lookup_requests (context : Context) (question : Lookup) (net : Network) : ∃ asked,
    (getaddrinfo context question net).2.received = net.received ++ asked ∧
      (asked = [] ∨ ∃ name, question.node.bind Utf8.decode? = some name ∧
        asked <+: (Request.resolve name).text) ∧
      ∀ name, Asks context question net name →
        asked = (Request.resolve name).text.take 1023 ∧
          ('\n' ∉ name.toList →
            (Request.AsksFor name asked ↔ (Utf8.encode name).length ≤ 993)) := by
  obtain ⟨asked, received, part, whole⟩ := lookup_receives context net question
  refine ⟨asked, received, part.imp_right ?_, ?_⟩
  · rintro ⟨name, named, part⟩
    rw [Request.resolve_bytes] at part
    exact ⟨name, named, part.trans (List.take_prefix _ _)⟩
  · intro name asks
    rw [whole name asks]
    exact ⟨Request.resolve_bytes name, Request.bytes_ask_iff name⟩

-- A proxy that takes everything is asked for any name.
theorem facing_asks (name : String) : Asks here (naming name) (facing []) name where
  named := Utf8.decode_encode name
  room := rfl
  sent := by
    refine ⟨_, rfl, by decide +kernel, ?_⟩
    have reached : 0 ≤ ((facing []).openSocket.2.connect .engine
        (.ofBytes (Target.mk 3128 (by decide) (by decide)).sockaddr)).1.rc := by decide +kernel
    obtain ⟨attached, _⟩ := Network.connect_attaches (facing []).openSocket.2 .engine _ _ _ rfl rfl
      rfl reached
    exact Network.send_taken _ _ _ _ attached fun cause => Outbound.fails_never _ cause

theorem lookup_requests_plain : ∃ asked,
    (getaddrinfo here (naming "b.example") (facing [])).2.received = asked ∧
      Request.AsksFor "b.example" asked := by
  obtain ⟨asked, received, _, asks⟩ := lookup_requests here (naming "b.example") (facing [])
  obtain ⟨_, complete⟩ := asks "b.example" (facing_asks _)
  exact ⟨asked, received, (complete (by decide)).mpr (by decide)⟩

theorem facing_receives (name : String) :
    (getaddrinfo here (naming name) (facing [])).2.received = (Request.resolve name).bytes := by
  obtain ⟨asked, received, _, whole⟩ := lookup_receives here (facing []) (naming name)
  rw [received, whole name (facing_asks name)]
  rfl

-- A name of so many letters.
def letters (count : Nat) : String := String.ofList (List.replicate count 'a')

theorem letters_length (count : Nat) : (Utf8.encode (letters count)).length = count := by
  have one : (String.utf8EncodeChar 'a').length = 1 := by decide
  rw [Utf8.encode_chars, letters, String.toList_ofList, List.length_flatMap, List.map_replicate,
    one, List.sum_replicate_nat, Nat.mul_one]

theorem letters_single (count : Nat) : '\n' ∉ (letters count).toList := by
  rw [letters, String.toList_ofList]
  intro member
  have same := List.eq_of_mem_replicate member
  revert same
  decide

-- The first name brings a header line of its own, the second leaves no room for the blank line.
theorem names_spoil_requests :
    (Asks here (naming "a\r\nX: b") (facing []) "a\r\nX: b" ∧
      ¬ Request.AsksFor "a\r\nX: b"
        (getaddrinfo here (naming "a\r\nX: b") (facing [])).2.received) ∧
    (Asks here (naming (letters 994)) (facing []) (letters 994) ∧
      ¬ Request.AsksFor (letters 994)
        (getaddrinfo here (naming (letters 994)) (facing [])).2.received) := by
  refine ⟨⟨facing_asks _, ?smuggled⟩, ⟨facing_asks _, ?cut⟩⟩
  case smuggled =>
    rw [facing_receives]
    intro asks
    have lines := asks.lines
    revert lines
    decide +kernel
  case cut =>
    rw [facing_receives, Request.bytes_ask_iff _ (letters_single 994), letters_length]
    decide

end Intercept

end ProxyTunnel
