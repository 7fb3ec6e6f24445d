import ProxyTunnel.Child.Execution
import ProxyTunnel.Diagnostics
import ProxyTunnel.Launch.Spec

/-!
Running a child to its end: it is started with extra variables, an interrupt is passed on to it as a
request to terminate, and its exit code is reported as a shell would.
-/

set_option autoImplicit false

namespace ProxyTunnel

namespace LaunchSpec

def texts (spec : LaunchSpec) (env : Environment) : List Bytes :=
  (spec.program :: spec.arguments).map Utf8.encode ++ (spec.childEnvironment env).rendered

def find (spec : LaunchSpec) (tree : FileTree) (env : Environment) : Except Fault Found :=
  let failed (cause : SpawnProblem) : Except Fault Found :=
    .error (.process (.cannotSpawn spec.program cause))
  if spec.hasNul then failed .nulByte
  else
    match Search.find tree (spec.childEnvironment env) (Utf8.encode spec.program) with
    | .ok found => if Found.takes (spec.texts env) then .ok found else failed .tooLong
    | .error fault => failed (Search.problemOf fault)

def spawnRemark (spec : LaunchSpec) : Remark :=
  ⟨.debug, .process, s!"Spawning {spec.program} {Text.quoteAll spec.arguments}"⟩

-- What is said while the child runs: interrupts that are passed on, and how it ended. The number of
-- the child is not shown.
def runRemarks (outcome : Outcome) : List Remark :=
  List.replicate outcome.interrupts
      (⟨.info, .process, "Forwarding interrupt to PID N"⟩ : Remark)
    ++ [⟨.debug, .process, "Child exited: " ++ outcome.status.text⟩]

def run (spec : LaunchSpec) (tree : FileTree) (env : Environment) : Except Fault Outcome :=
  match spec.find tree env with
  | .error fault => .error fault
  | .ok found =>
      .ok (found.run tree (spec.childEnvironment env) (Utf8.encode spec.program)
        (spec.arguments.map Utf8.encode) .terminate)

def runSignalled (spec : LaunchSpec) (tree : FileTree) (env : Environment) (s : Signal) :
    Except Fault Outcome :=
  match spec.find tree env with
  | .error fault => .error fault
  | .ok found =>
      .ok (found.runSignalled tree (spec.childEnvironment env) (Utf8.encode spec.program)
        (spec.arguments.map Utf8.encode) s)

end LaunchSpec

def maxPid : Nat := Nat.pow 2 31 - 1

def forwardSignal (isRunning : Nat → Bool) (pid : Nat) (s : Signal) : Except Fault Unit :=
  if maxPid < pid then .error (.process (.pidOutOfRange pid))
  else if isRunning pid then .ok ()
  else .error (.process (.cannotSignal s.name pid .ESRCH))

end ProxyTunnel
