import ProxyTunnel.Launch.CommandLine

/-!
The launcher as a program: it passes its arguments and the variables that concern it to
`CommandLine.main`, on a system whose only files are its programs, and shows what comes back.
-/

set_option autoImplicit false

namespace ProxyTunnel

def Main.relevant : List String :=
  ["PATH", Injection.linkerVariable, Library.environmentName, Settings.proxyVariable,
    Settings.filterVariable]

def Main.environment : IO Environment :=
  Main.relevant.filterMapM fun name => do
    let value ← IO.getEnv name
    return value.map fun value => (Utf8.encode name, Utf8.encode value)

def Main.usage : String :=
  "Usage: tunnelhook --proxy <PROXY> [--debug] [--timeout-ms <MS>] [--library <PATH>] "
    ++ "-- <COMMAND>..."

def Main.present (shown : Transcript) : IO UInt32 := do
  let output ← IO.getStdout
  output.write ⟨shown.stdout.toArray⟩
  output.flush
  let errors ← IO.getStderr
  errors.write ⟨shown.stderr.toArray⟩
  errors.flush
  return UInt32.ofNat shown.code

end ProxyTunnel

open ProxyTunnel in
def main (arguments : List String) : IO UInt32 := do
  let env ← Main.environment
  match CommandLine.main (arguments.map Utf8.encode) .system env none with
  | none =>
      IO.eprintln Main.usage
      return 2
  | some shown => Main.present shown
