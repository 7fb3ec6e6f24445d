import ProxyTunnel.Network.IpAddress.Text

/-!
Name resolution without names: the questions that can be answered from addresses and ports in
numbers, and the codes with which all others are refused.
-/

set_option autoImplicit false

namespace ProxyTunnel.Numeric

inductive Refusal where
  | noName
  | badFamily
  | badService
  -- The address is not of the family that was asked for.
  | otherFamily
deriving DecidableEq, Repr

def Refusal.code : Refusal → Int
  | noName => -2
  | badFamily => -6
  | badService => -8
  | otherFamily => -9

-- The flags for a question in numbers only, and the socket type of a stream.
def hints (family : Int) : Hints := ⟨0x404, family, 1, 0⟩

def isBlank (c : Char) : Bool := c = ' ' || (9 ≤ c.toNat && c.toNat ≤ 13)

-- The number of a service that is written in digits, with a sign or without. Numbers are kept in 64
-- bits, the greatest standing for all above.
def serviceNumber? (text : String) : Option (BitVec 64) :=
  let greatest := Nat.pow 2 64 - 1
  let kept (n : Nat) : BitVec 64 := BitVec.ofNat 64 (min n greatest)
  match text.toList.dropWhile isBlank with
  | '-' :: digits =>
      (IpAddress.number? 10 digits).map fun n => if n ≤ greatest then -(kept n) else kept n
  | '+' :: digits => (IpAddress.number? 10 digits).map kept
  | digits => (IpAddress.number? 10 digits).map kept

-- The port of a service; none stands for port 0. Of a number the low 16 bits are taken, unless its
-- low 32 bits are negative.
def port (service : Option Bytes) : Except Refusal Nat :=
  match service with
  | none | some [] => .ok 0
  | some bytes =>
      match (Utf8.decode? bytes).bind serviceNumber? with
      | none => .error .noName
      | some n => if (n.setWidth 32).toInt < 0 then .error .badService else .ok (n.toNat % 65536)

-- The version 4 address inside a version 6 address, if it stands for one.
def mapped? (value : BitVec 128) : Option (BitVec 32) :=
  if value.toNat / Nat.pow 2 32 = 65535 then some (value.setWidth 32) else none

def withScope (address : IpAddress) (scope : Option String) : Except Refusal (List IpAddress) :=
  match scope with
  | none => .ok [address]
  | some text =>
      match address.scope? text, address with
      | none, _ => .error .noName
      | some scope, .v6 value _ => .ok [.v6 value scope]
      | some _, .v4 value => .ok [.v4 value]

-- The addresses of a node in a family, where family 0 is any. Without a node this machine itself is
-- meant.
def addresses (node : Option Bytes) (family : Int) : Except Refusal (List IpAddress) :=
  match node with
  | none =>
      .ok ((if family = 2 then [] else [IpAddress.loopback6])
        ++ if family = 10 then [] else [IpAddress.loopback4])
  | some bytes =>
      let (literal, scope) := IpAddress.splitScope ((Utf8.decode? bytes).getD "")
      match IpAddress.read? literal, scope with
      | none, _ | some (.v4 _), some _ => .error .noName
      | some (.v4 value), none => if family = 10 then .error .otherFamily else .ok [.v4 value]
      | some (.v6 value _), _ =>
          if family = 2 then
            match mapped? value with
            | some value => withScope (.v4 value) scope
            | none => .error .otherFamily
          else withScope (.v6 value 0) scope

def given (name : Option Bytes) : Option Bytes := name.filter (· ≠ [42])

def lookup (question : Lookup) : Except Refusal (List (IpAddress × Nat)) :=
  let family : Int := (question.hints.map (·.family)).getD 0
  match given question.node, given question.service with
  | none, none => .error .noName
  | node, service =>
      if family ≠ 0 ∧ family ≠ 2 ∧ family ≠ 10 then .error .badFamily
      else
        match port service with
        | .error refusal => .error refusal
        | .ok port =>
            match addresses node family with
            | .error refusal => .error refusal
            | .ok found => .ok (found.map (·, port))

def code (question : Lookup) : Int :=
  match lookup question with
  | .error refusal => refusal.code
  | .ok _ => 0

def nameOf (address : SocketAddress) : NameAnswer :=
  match IpAddress.ofSocketAddress? address with
  | none => ⟨Refusal.badFamily.code, [], []⟩
  | some (address, port) => ⟨0, Utf8.encode address.text, Utf8.encode (toString port)⟩

end ProxyTunnel.Numeric
