/-!
Diagnostic lines: each has a level, the component that speaks, and a text.
-/

set_option autoImplicit false

namespace ProxyTunnel

inductive Level where
  | trace | debug | info | warn | error
deriving DecidableEq, Repr

namespace Level

def rank : Level → Nat
  | trace => 0
  | debug => 1
  | info => 2
  | warn => 3
  | error => 4

def name : Level → String
  | trace => "TRACE"
  | debug => "DEBUG"
  | info => "INFO"
  | warn => "WARN"
  | error => "ERROR"

end Level

inductive Component where
  | target | transport | connect | resolve | context | library | process | commandLine
deriving DecidableEq, Repr

def Component.path : Component → String
  | target => "tunnelhook_engine::tunnel::target"
  | transport => "tunnelhook_engine::tunnel::transport"
  | connect => "tunnelhook_engine::interception::connect"
  | resolve => "tunnelhook_engine::interception::resolve"
  | context => "tunnelhook_engine::interception::context"
  | library => "tunnelhook_engine::launcher::preload"
  | process => "tunnelhook_engine::launcher::process"
  | commandLine => "tunnelhook"

structure Remark where
  level : Level
  speaker : Component
  text : String
deriving DecidableEq, Repr

def Remark.field : String := "message"

def Remark.render (r : Remark) : String := r.level.name ++ " " ++ r.text

-- The hexadecimal text of a control character by which a terminal could be steered: bell,
-- backspace, form feed, escape, delete and the second set of controls.
def steering? (c : Char) : Option String :=
  let hex := String.ofList (Nat.toDigits 16 c.toNat)
  if c = '\x07' ∨ c = '\x08' ∨ c = '\x0c' then some ("\\x0" ++ hex)
  else if c = '\x1b' ∨ c = '\x7f' then some ("\\x" ++ hex)
  else if 0x80 ≤ c.toNat ∧ c.toNat ≤ 0x9F then some ("\\u\x7b" ++ hex ++ "\x7d")
  else none

def tame (text : String) : String :=
  String.join (text.toList.map fun c => (steering? c).getD c.toString)

def Remark.renderAligned (r : Remark) : String :=
  String.ofList (List.replicate (5 - r.level.name.length) ' ') ++ r.level.name ++ " " ++ tame r.text

end ProxyTunnel
