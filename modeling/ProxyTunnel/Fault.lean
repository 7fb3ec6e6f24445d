import ProxyTunnel.Duration
import ProxyTunnel.Errno
import ProxyTunnel.Text.Quoted

/-!
What can go wrong in the tunnel and in the launcher: each cause, its message, and the error number
that a host program sees for it. Work may also panic, or never come to an end.
-/

set_option autoImplicit false

namespace ProxyTunnel

inductive SettingsProblem where
  | described (text : String)
  -- A table or an array stands where a text is required.
  | notText (shape : String) (name : String)
  -- A name that is no path; `reason` is what the path grammar reports.
  | badPath (reason : String)
deriving DecidableEq, Repr

def SettingsProblem.message : SettingsProblem → String
  | described text => text
  | notText shape name =>
      "invalid type: " ++ shape ++ ", expected a string for key `" ++ name ++ "`"
  | badPath reason => reason

inductive SpawnProblem where
  | notFound
  | notPermitted
  | notDirectory
  | nameTooLong
  | tooManyLinks
  | tooLong
  | nulByte
deriving DecidableEq, Repr

def SpawnProblem.message : SpawnProblem → String
  | notFound => "No such file or directory (os error 2)"
  | notPermitted => "Permission denied (os error 13)"
  | notDirectory => "Not a directory (os error 20)"
  | nameTooLong => "File name too long (os error 36)"
  | tooManyLinks => "Too many levels of symbolic links (os error 40)"
  | tooLong => "Argument list too long (os error 7)"
  | nulByte => "nul byte found in provided data"

inductive ProcessProblem where
  | described (text : String)
  | noCommand
  | cannotSpawn (program : String) (cause : SpawnProblem)
  | pidOutOfRange (pid : Nat)
  | cannotSignal (signal : String) (pid : Nat) (cause : Errno)
deriving DecidableEq, Repr

def ProcessProblem.message : ProcessProblem → String
  | described text => text
  | noCommand => "no command given"
  | cannotSpawn program cause => s!"Failed to spawn {program}: " ++ cause.message
  | pidOutOfRange pid => s!"PID {pid} out of range"
  | cannotSignal signal pid cause => s!"Failed to send {signal} to PID {pid}: " ++ cause.text

inductive Fault where
  | socket (cause : Errno)
  | proxyUnreachable (cause : Errno)
  | sendFailed (cause : Errno)
  | timeout (budget : Duration)
  | primitiveUnavailable (symbol : String)
  | settings (problem : SettingsProblem)
  | libraryNotFound (library : String)
  | process (problem : ProcessProblem)
deriving DecidableEq, Repr

namespace Fault

def message : Fault → String
  | socket cause => "socket operation failed: " ++ cause.text
  | proxyUnreachable cause => "failed to connect to proxy: " ++ cause.text
  | sendFailed cause => "failed to send request: " ++ cause.text
  | timeout budget => "proxy response timed out after " ++ budget.text
  | primitiveUnavailable symbol => s!"real primitive `{symbol}` is unavailable"
  | settings problem => "configuration error: " ++ problem.message
  | libraryNotFound library => "preload library not found: " ++ library
  | process problem => "process error: " ++ problem.message

def errno : Fault → Errno
  | socket cause | proxyUnreachable cause | sendFailed cause => cause
  | timeout _ => .ETIMEDOUT
  | primitiveUnavailable _ => .ENOSYS
  | settings _ => .EINVAL
  | libraryNotFound _ => .ENOENT
  | process _ => .ECHILD

end Fault

-- Why work comes to no result.
inductive Stop where
  | fault (fault : Fault)
  -- It panics: what it holds is given back, and whoever called it goes on without it.
  | panic
  -- It never comes to an end: it waits for what does not come.
  | never
deriving DecidableEq, Repr

namespace Stop

@[match_pattern] abbrev socket (cause : Errno) : Stop := .fault (.socket cause)
@[match_pattern] abbrev proxyUnreachable (cause : Errno) : Stop := .fault (.proxyUnreachable cause)
@[match_pattern] abbrev sendFailed (cause : Errno) : Stop := .fault (.sendFailed cause)
@[match_pattern] abbrev timeout (budget : Duration) : Stop := .fault (.timeout budget)
@[match_pattern] abbrev settings (problem : SettingsProblem) : Stop := .fault (.settings problem)

end Stop

end ProxyTunnel
