import ProxyTunnel.Environment
import ProxyTunnel.Settings

/-!
The command line of the launcher: options, then `--`, then the command to run.
-/

set_option autoImplicit false

namespace ProxyTunnel

structure Options where
  proxy : String
  debug : Bool
  -- How long a response may take, in milliseconds; 0 sets no limit.
  timeoutMillis : Option Nat
  library : Option Bytes
  command : List String
deriving DecidableEq, Repr

namespace Options

inductive Reading where
  | run (options : Options)
  | version
  | misuse
deriving DecidableEq, Repr

structure Draft where
  proxy : Option String
  debug : Bool
  timeoutMillis : Option Nat
  library : Option Bytes

def Draft.empty : Draft := ⟨none, false, none, none⟩

def splitOption (argument : Bytes) : Bytes × Option Bytes :=
  let name := argument.takeWhile (· ≠ 61)
  match argument.drop name.length with
  | [] => (name, none)
  | _ :: value => (name, some value)

def looksLikeOption (argument : Bytes) : Bool := argument.head? = some 45 && argument ≠ [45]

def Draft.setValue (d : Draft) (name : String) (value : Bytes) : Option Draft :=
  match name with
  | "--proxy" =>
      match d.proxy, Utf8.decode? value with
      | none, some url => some { d with proxy := some url }
      | _, _ => none
  | "--timeout-ms" =>
      match d.timeoutMillis, (Utf8.decode? value).bind (Decimal.readSigned? ·.toList) with
      | none, some n => if n ≤ Settings.maxMillis then some { d with timeoutMillis := n } else none
      | _, _ => none
  | "--library" =>
      match d.library, value with
      | none, _ :: _ => some { d with library := some value }
      | _, _ => none
  | _ => none

def Draft.finish (d : Draft) (env : Environment) (command : List Bytes) : Reading :=
  let proxy : Option String :=
    match d.proxy with
    | some url => some url
    | none => env.getText? Settings.proxyVariable
  match proxy, command.mapM Utf8.decode? with
  | some proxy, some (program :: arguments) =>
      .run ⟨proxy, d.debug, d.timeoutMillis, d.library, program :: arguments⟩
  | _, _ => .misuse

def valued : List String := ["--proxy", "--timeout-ms", "--library"]

-- Reads arguments in order; the first that cannot be understood spoils the whole, and a question
-- for the version is answered at once.
def readFrom (env : Environment) (d : Draft) : List Bytes → Reading
  | [] => .misuse
  | [45, 45] :: command => d.finish env command
  | [argument] => readLast argument
  | argument :: next :: rest =>
      let (name, value) := splitOption argument
      match startsWithVersion argument, Utf8.decode? name, value with
      | true, _, _ => .version
      | false, some name, some value =>
          match d.setValue name value with
          | some d => readFrom env d (next :: rest)
          | none => .misuse
      | false, some "--version", none => .version
      | false, some "--debug", none =>
          if d.debug then .misuse else readFrom env { d with debug := true } (next :: rest)
      | false, some name, none =>
          if valued.contains name && !looksLikeOption next then
            match d.setValue name next with
            | some d => readFrom env d rest
            | none => .misuse
          else .misuse
      | false, none, _ => .misuse
where
  -- Whether an argument is a row of short options of which the first asks for the version.
  startsWithVersion (argument : Bytes) : Bool := [45, 86].isPrefixOf argument
  -- The last argument can only ask for the version, for a command is missing.
  readLast (argument : Bytes) : Reading :=
    if startsWithVersion argument || argument = Utf8.encode "--version" then .version else .misuse

-- Reads a command line. The proxy may also come from the environment.
def read (env : Environment) (arguments : List Bytes) : Reading :=
  readFrom env Draft.empty arguments

end Options

end ProxyTunnel
