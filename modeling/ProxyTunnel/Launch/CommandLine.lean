import ProxyTunnel.Diagnostics.Filter
import ProxyTunnel.Launch.Injection
import ProxyTunnel.Launch.Library
import ProxyTunnel.Launch.Options
import ProxyTunnel.Launch.Process

/-!
The launcher as a whole: from its arguments and environment to the exit code and everything that
appears on standard output and standard error.
-/

set_option autoImplicit false

namespace ProxyTunnel

structure Transcript where
  code : Nat
  stdout : Bytes
  stderr : Bytes
deriving Repr

namespace CommandLine

def version : String := "0.1.0"

def name : String := "tunnelhook"

def injection (o : Options) : Injection :=
  ⟨o.proxy, o.debug, (o.timeoutMillis.filter (0 < ·)).map Duration.ofMillis⟩

def ofLines (lines : List String) : String := String.join (lines.map (· ++ "\n"))

def report (attempt : String) (fault : Fault) : String :=
  ofLines (["Error: " ++ attempt, "", "Caused by:"]
    ++ (fault.message.splitOn "\n").map ("    " ++ ·))

def uselessProxy (o : Options) : List Remark :=
  if (injection o).isActive then []
  else
    [⟨.warn, .commandLine, "Proxy URL " ++ Text.quote o.proxy
      ++ " is not a local http://localhost:<port> URL; the shim will stay inactive"⟩]

def plainWarning (o : Options) : List String :=
  if (injection o).isActive || o.debug then []
  else
    ["tunnelhook: warning: proxy URL " ++ Text.quote o.proxy
      ++ " is not usable, connections will not be tunneled"]

def launch (o : Options) (tree : FileTree) (env : Environment) (reporter : Reporter)
    (before : String) (library : Bytes) : Transcript :=
  let existing := env.getText? Injection.linkerVariable
  match LaunchSpec.ofCommand o.command ((injection o).childVariables library existing) with
  | .error fault => ⟨1, [], Utf8.encode (before ++ ofLines ["Error: " ++ fault.message])⟩
  | .ok spec =>
      let before := before ++ ofLines (reporter.shown
        [⟨.info, .commandLine, s!"Running {spec.program} with {Text.quotePath library} preloaded"⟩,
          spec.spawnRemark])
      match spec.run tree env with
      | .error fault =>
          ⟨1, [], Utf8.encode (before ++ report s!"Failed to run {spec.program}" fault)⟩
      | .ok outcome =>
          let code := outcome.status.exitCode
          let after : Remark :=
            ⟨.debug, .commandLine, s!"{spec.program} exited with code {code}"⟩
          ⟨code, outcome.stdout,
            Utf8.encode before ++ outcome.stderr
              ++ Utf8.encode (ofLines (reporter.shown (LaunchSpec.runRemarks outcome ++ [after])))⟩

-- Runs the launcher with options. `directory` is where the launcher itself lies.
def run (o : Options) (tree : FileTree) (env : Environment) (directory : Option Bytes) :
    Transcript :=
  let filter := env.getText? Settings.filterVariable
  let reporter := (Reporter.silent.install o.debug filter).2
  let hints : Library.Hints := ⟨o.library, env.get? Library.environmentName, directory⟩
  let found := Library.locate tree hints
  let before := ofLines <|
    reporter.shown ([⟨.debug, .commandLine, s!"Starting {name} v{version}"⟩]
        ++ Target.remarks o.proxy ++ uselessProxy o)
      ++ plainWarning o ++ reporter.shown (Library.remarks hints found)
  match found with
  | .error fault =>
      ⟨1, [], Utf8.encode (before ++ report "Cannot locate the preload library" fault)⟩
  | .ok library => launch o tree env reporter before library

def main (arguments : List Bytes) (tree : FileTree) (env : Environment)
    (directory : Option Bytes) : Option Transcript :=
  match Options.read env arguments with
  | .misuse => none
  | .version => some ⟨0, Utf8.encode s!"{name} {version}\n", []⟩
  | .run options => some (run options tree env directory)

end CommandLine

end ProxyTunnel
