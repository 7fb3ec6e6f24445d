import ProxyTunnel.Proofs.Intercept.Asking
import ProxyTunnel.Proofs.Intercept.Outcome
import ProxyTunnel.Proofs.Request.ReadBack
import ProxyTunnel.Proofs.Text.Digits

/-!
What the proxy receives when a connect is redirected: one request for the port and the host that the
address names, in decimal. The request is never cut off, and nothing but those six bytes of the
address has a part in it.
-/

set_option autoImplicit false

namespace ProxyTunnel

namespace Destination

-- The text for an address: its four bytes with dots between them and its port after a colon, each
-- as the one numeral that it has.
def Names (bytes : Bytes) (text : String) : Prop :=
  ∃ a b c d port,
    text.toList = a ++ '.' :: (b ++ '.' :: (c ++ '.' :: (d ++ ':' :: port))) ∧
    Decimal.Numeral (bytes.getD 4 0).toNat a ∧ Decimal.Numeral (bytes.getD 5 0).toNat b ∧
    Decimal.Numeral (bytes.getD 6 0).toNat c ∧ Decimal.Numeral (bytes.getD 7 0).toNat d ∧
    Decimal.Numeral (256 * (bytes.getD 2 0).toNat + (bytes.getD 3 0).toNat) port

-- The destination that the bytes of an address hold.
def held (bytes : Bytes) : Destination where
  a := bytes.getD 4 0
  b := bytes.getD 5 0
  c := bytes.getD 6 0
  d := bytes.getD 7 0
  port := 256 * (bytes.getD 2 0).toNat + (bytes.getD 3 0).toNat

theorem text_chars (t : Destination) : t.text.toList = (toString t.a.toNat).toList ++
    '.' :: ((toString t.b.toNat).toList ++ '.' :: ((toString t.c.toNat).toList ++
      '.' :: ((toString t.d.toNat).toList ++ ':' :: (toString t.port).toList))) := by
  have dot : (toString ".").toList = ['.'] := rfl
  have colon : (toString ":").toList = [':'] := rfl
  simp [text, dot, colon]

theorem names_iff (bytes : Bytes) (text : String) :
    Names bytes text ↔ text = (held bytes).text := by
  constructor
  · rintro ⟨a, b, c, d, port, spelled, first, second, third, fourth, last⟩
    rw [← String.toList_inj, spelled, text_chars, Decimal.numeral_written _ a first,
      Decimal.numeral_written _ b second, Decimal.numeral_written _ c third,
      Decimal.numeral_written _ d fourth, Decimal.numeral_written _ port last]
    rfl
  · rintro rfl
    exact ⟨_, _, _, _, _, text_chars (held bytes), Decimal.written_numeral _,
      Decimal.written_numeral _, Decimal.written_numeral _, Decimal.written_numeral _,
      Decimal.written_numeral _⟩

theorem held_address (address : SocketAddress) (destination : Destination)
    (found : ofAddress? address = some destination) :
    ∃ bytes, address.bytes = some bytes ∧ destination = held bytes := by
  rw [ofAddress?] at found
  split at found
  · cases found
  · next bytes given =>
      refine ⟨bytes, given, ?_⟩
      dsimp only at found
      split at found
      · cases found
      · exact (Option.some.inj (Option.ite_none_right_eq_some.mp found).2).symm

-- Two texts of which neither has the mark are told apart from what follows it.
theorem cut_same (mark : Char) (a b rest rest' : List Char) (first : mark ∉ a) (second : mark ∉ b)
    (same : a ++ mark :: rest = b ++ mark :: rest') : a = b ∧ rest = rest' := by
  have front (cs rest : List Char) (absent : mark ∉ cs) :
      (cs ++ mark :: rest).takeWhile (· ≠ mark) = cs := by
    rw [List.takeWhile_append_of_pos, List.takeWhile_cons_of_neg (by simp), List.append_nil]
    intro c member
    exact decide_eq_true fun equal => absent (equal ▸ member)
  have heads : a = b := by rw [← front a rest first, same, front b rest' second]
  subst heads
  exact ⟨rfl, (List.cons.inj (List.append_cancel_left same)).2⟩

theorem numeral_apart (n : Nat) (digits : List Char) (numeral : Decimal.Numeral n digits) (c : Char)
    (outside : ¬ ('0' ≤ c ∧ c ≤ '9')) : c ∉ digits :=
  fun member => outside (numeral.ascii c member)

theorem numeral_byte (x y : UInt8) (digits : List Char) (first : Decimal.Numeral x.toNat digits)
    (second : Decimal.Numeral y.toNat digits) : x = y :=
  UInt8.toNat_inj.mp (Decimal.counts_same digits _ _ first.toCounts second.toCounts)

-- The port and the host of an address are all that its text tells, and it tells them.
theorem names_same (bytes bytes' : Bytes) (text text' : String) (names : Names bytes text)
    (names' : Names bytes' text') :
    text = text' ↔ ∀ i, 2 ≤ i → i < 8 → bytes.getD i 0 = bytes'.getD i 0 := by
  constructor
  · rintro rfl
    obtain ⟨a, b, c, d, port, spelled, byteA, byteB, byteC, byteD, portA⟩ := names
    obtain ⟨a', b', c', d', port', spelled', byteA', byteB', byteC', byteD', portA'⟩ := names'
    have dotless (n : Nat) (digits : List Char) (numeral : Decimal.Numeral n digits) :
        '.' ∉ digits := numeral_apart n digits numeral '.' (by decide)
    have unmarked (n : Nat) (digits : List Char) (numeral : Decimal.Numeral n digits) :
        ':' ∉ digits := numeral_apart n digits numeral ':' (by decide)
    rw [spelled] at spelled'
    obtain ⟨rfl, afterA⟩ := cut_same '.' _ _ _ _ (dotless _ a byteA) (dotless _ a' byteA') spelled'
    obtain ⟨rfl, afterB⟩ := cut_same '.' _ _ _ _ (dotless _ b byteB) (dotless _ b' byteB') afterA
    obtain ⟨rfl, afterC⟩ := cut_same '.' _ _ _ _ (dotless _ c byteC) (dotless _ c' byteC') afterB
    obtain ⟨rfl, rfl⟩ := cut_same ':' _ _ _ _ (unmarked _ d byteD) (unmarked _ d' byteD') afterC
    have ports := Decimal.counts_same port _ _ portA.toCounts portA'.toCounts
    have low := (bytes.getD 3 0).toNat_lt
    have low' := (bytes'.getD 3 0).toNat_lt
    intro i from2 below
    obtain rfl | rfl | rfl | rfl | rfl | rfl : i = 2 ∨ i = 3 ∨ i = 4 ∨ i = 5 ∨ i = 6 ∨ i = 7 := by
      omega
    · exact UInt8.toNat_inj.mp (by omega)
    · exact UInt8.toNat_inj.mp (by omega)
    · exact numeral_byte _ _ a byteA byteA'
    · exact numeral_byte _ _ b byteB byteB'
    · exact numeral_byte _ _ c byteC byteC'
    · exact numeral_byte _ _ d byteD byteD'
  · intro same
    have holds : held bytes = held bytes' := by
      rw [held, held, same 2 (by decide) (by decide), same 3 (by decide) (by decide),
        same 4 (by decide) (by decide), same 5 (by decide) (by decide),
        same 6 (by decide) (by decide), same 7 (by decide) (by decide)]
    rw [(names_iff bytes text).mp names, holds, (names_iff bytes' text').mp names']

theorem numeral_short (n size : Nat) (digits : List Char) (numeral : Decimal.Numeral n digits)
    (filled : 0 < size) (small : n < 10 ^ size) : digits.length ≤ size := by
  rw [Decimal.numeral_unique n digits numeral]
  exact (Nat.length_toDigits_le_iff (by decide) filled).mpr small

theorem names_short (bytes : Bytes) (text : String) (names : Names bytes text) :
    text.toList.length ≤ 21 := by
  obtain ⟨a, b, c, d, port, spelled, byteA, byteB, byteC, byteD, portA⟩ := names
  have byte (x : UInt8) (digits : List Char) (numeral : Decimal.Numeral x.toNat digits) :
      digits.length ≤ 3 :=
    numeral_short _ 3 digits numeral (by decide) (Nat.lt_trans x.toNat_lt (by decide))
  have high := (bytes.getD 2 0).toNat_lt
  have low := (bytes.getD 3 0).toNat_lt
  have shortA := byte _ a byteA
  have shortB := byte _ b byteB
  have shortC := byte _ c byteC
  have shortD := byte _ d byteD
  have shortPort := numeral_short _ 5 port portA (by decide) (by omega)
  rw [spelled]
  simp only [List.length_append, List.length_cons]
  omega

theorem names_single (bytes : Bytes) (text : String) (names : Names bytes text) :
    Request.OneLine text := by
  obtain ⟨a, b, c, d, port, spelled, byteA, byteB, byteC, byteD, portA⟩ := names
  have absent (c : Char) (outside : ¬ ('0' ≤ c ∧ c ≤ '9')) (other : c ≠ '.' ∧ c ≠ ':') :
      c ∉ text.toList := by
    simp only [spelled, List.mem_append, List.mem_cons, not_or]
    exact ⟨numeral_apart _ _ byteA c outside, other.1, numeral_apart _ _ byteB c outside, other.1,
      numeral_apart _ _ byteC c outside, other.1, numeral_apart _ _ byteD c outside, other.2,
      numeral_apart _ _ portA c outside⟩
  exact ⟨absent '\r' (by decide) (by decide), absent '\n' (by decide) (by decide)⟩

end Destination

theorem Utf8.encode_length (text : String) : (encode text).length ≤ 4 * text.toList.length := by
  rw [encode_chars]
  induction text.toList with
  | nil => exact Nat.le_refl 0
  | cons c cs ih =>
      have size : (String.utf8EncodeChar c).length ≤ 4 :=
        String.length_utf8EncodeChar c ▸ c.utf8Size_le_four
      rw [List.flatMap_cons, List.length_append, List.length_cons]
      omega

namespace Request

-- A request for a stream to the host and port that a text names.
def asking (text : String) : Bytes :=
  Utf8.encode ("CONNECT " ++ text ++ " HTTP/1.1\r\nHost: " ++ text ++ "\r\n\r\n")

theorem connect_text (text : String) : (connect text).text = asking text := by
  have verb : Utf8.encode "CONNECT " = Utf8.encode "CONNECT" ++ Utf8.encode " " := by decide
  simp [Request.text, pieces, connect, asking, Utf8.encode_append, verb]

theorem connect_clean (bytes : Bytes) (text : String) (names : Destination.Names bytes text) :
    (connect text).Clean where
  verb := by
    change OneLine "CONNECT"
    exact ⟨by decide, by decide⟩
  path := Destination.names_single bytes text names
  host := Destination.names_single bytes text names
  whole := by
    have short := Destination.names_short bytes text names
    have size := Utf8.encode_length text
    have ends : (Utf8.encode "CONNECT ").length = 8 ∧
        (Utf8.encode " HTTP/1.1\r\nHost: ").length = 17 ∧
        (Utf8.encode "\r\n\r\n").length = 4 := by decide
    obtain ⟨first, middle, last⟩ := ends
    refine Bool.eq_false_iff.mpr (mt (truncated_iff _).mp ?_)
    rw [connect_text, asking]
    simp only [Utf8.encode_append, List.length_append]
    omega

theorem asking_bytes (bytes : Bytes) (text : String) (names : Destination.Names bytes text) :
    (connect text).bytes = asking text :=
  (bytes_whole _ (connect_clean bytes text names).whole).1.trans (connect_text text)

theorem asking_same (bytes bytes' : Bytes) (text text' : String)
    (names : Destination.Names bytes text) (names' : Destination.Names bytes' text') :
    asking text = asking text' ↔ text = text' := by
  constructor
  · intro same
    rw [← asking_bytes bytes text names, ← asking_bytes bytes' text' names'] at same
    exact (bytes_tell _ _ (connect_clean bytes text names) (connect_clean bytes' text' names')
      same).1
  · rintro rfl
    rfl

end Request

namespace Intercept

open Network Tunnel

theorem redirection_holds (net : Network) (address : SocketAddress) (destination : Destination)
    (redirected : redirection net address = some destination) :
    ∃ bytes, address.bytes = some bytes ∧ Destination.Names bytes destination.text := by
  rw [redirection] at redirected
  split at redirected
  · next found e read called =>
      obtain ⟨bytes, given, holds⟩ := Destination.held_address address found read
      have same := Option.some.inj (Option.ite_none_right_eq_some.mp redirected).2
      exact ⟨bytes, given, (Destination.names_iff bytes _).mpr (by rw [← same, holds])⟩
  · cases redirected

theorem set_endpoint_received (net : Network) (fd : Holder) (e : Option Endpoint) :
    (net.setEndpoint fd e).received = net.received := by
  cases fd <;> rfl

theorem blamed_received (net : Network) (ended : Except Stop Head) :
    (blamed net ended).received = net.received := by
  rcases ended with (fault | _ | _) | head <;> rfl

-- Where nothing keeps the request from being sent, it is taken whole.
theorem waiting_sent (net : Network) (target : Target) (request : Request) (e : Endpoint)
    (called : net.caller = some e)
    (reached : 0 ≤ (net.connect .caller (.ofBytes target.sockaddr)).1.rc)
    (sends : ∀ cause, ¬ net.Unsent e.waiting request cause) :
    Sent (net.setEndpoint .caller (some e.waiting)) .caller target request := by
  rw [← waiting_connects net e _ called] at reached
  obtain ⟨held, _⟩ := connect_joins (net.setEndpoint .caller (some e.waiting)) .caller
    (.ofBytes target.sockaddr) e.waiting rfl reached
  exact ⟨reached, send_taken _ .caller request.bytes _ held sends⟩

theorem connect_receives (context : Context) (address : SocketAddress) (net : Network)
    (target : Target) (destination : Destination) (e : Endpoint)
    (active : context.target = some target)
    (redirected : redirection net address = some destination) (called : net.caller = some e) :
    ∃ asked, (connect context address net).2.received = net.received ++ asked ∧
      asked <+: (Request.connect destination.text).bytes ∧
      (0 ≤ (net.connect .caller (.ofBytes target.sockaddr)).1.rc →
        (∀ cause, ¬ net.Unsent e.waiting (.connect destination.text) cause) →
        asked = (Request.connect destination.text).bytes) := by
  obtain ⟨last, remarks, _, _, tunneled⟩ :=
    connect_asks context address net target destination e active redirected called
  obtain ⟨asked, received, part, whole⟩ := ask_receives
    (net.setEndpoint .caller (some e.waiting)) .caller target context.budget
    (.connect destination.text)
  rw [set_endpoint_received] at received
  refine ⟨asked, ?_, part, fun reached sends =>
    whole (waiting_sent net target _ e called reached sends)⟩
  rw [tunneled]
  exact (blamed_received _ _).trans ((set_endpoint_received _ _ _).trans received)

theorem connect_requests (context : Context) (address : SocketAddress) (net : Network)
    (eligible : Eligible context address net) : ∃ target e bytes text asked,
      context.target = some target ∧ net.caller = some e ∧ address.bytes = some bytes ∧
      Destination.Names bytes text ∧ (Request.connect text).truncated = false ∧
      (connect context address net).2.received = net.received ++ asked ∧
      asked <+: Request.asking text ∧
      (0 ≤ (net.connect .caller (.ofBytes target.sockaddr)).1.rc →
        (∀ cause, ¬ net.Unsent e.waiting (.connect text) cause) →
        asked = Request.asking text) ∧
      ∀ bytes' text', Destination.Names bytes' text' →
        (Request.asking text = Request.asking text' ↔
          ∀ i, 2 ≤ i → i < 8 → bytes.getD i 0 = bytes'.getD i 0) := by
  obtain ⟨target, destination, e, active, redirected, called⟩ :=
    eligible_redirects context address net eligible
  obtain ⟨bytes, given, names⟩ := redirection_holds net address destination redirected
  obtain ⟨asked, received, part, whole⟩ :=
    connect_receives context address net target destination e active redirected called
  rw [Request.asking_bytes bytes _ names] at part whole
  refine ⟨target, e, bytes, destination.text, asked, active, called, given, names,
    (Request.connect_clean bytes _ names).whole, received, part, whole, ?_⟩
  intro bytes' text' names'
  exact (Request.asking_same bytes bytes' _ text' names names').trans
    (Destination.names_same bytes bytes' _ text' names names')

-- A connect to port 80 of the loopback address.
theorem connect_requests_loopback :
    Eligible here there (facing []) ∧ (connect here there (facing [])).2.received =
      Utf8.encode
        "CONNECT 127.0.0.1:80 HTTP/1.1\r\nHost: 127.0.0.1:80\r\n\r\n" := by
  refine ⟨facing_eligible [], ?_⟩
  obtain ⟨target, e, bytes, text, asked, active, called, given, names, _, received, _, whole, _⟩ :=
    connect_requests here there (facing []) (facing_eligible [])
  obtain rfl : Target.mk 3128 (by decide) (by decide) = target := Option.some.inj active
  obtain rfl : Endpoint.fresh .stream .none false = e := Option.some.inj called
  obtain rfl := Option.some.inj given
  obtain rfl := (Destination.names_iff _ text).mp names
  rw [received, whole (by decide +kernel) fun cause => Outbound.fails_never _ cause]
  decide +kernel

end Intercept

end ProxyTunnel
