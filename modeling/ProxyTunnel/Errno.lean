/-!
Causes for which the operating system refuses a call.
-/

set_option autoImplicit false

namespace ProxyTunnel

-- A cause by its number; 0 is none.
structure Errno where
  number : Nat
deriving DecidableEq, Repr, Inhabited

namespace Errno

@[match_pattern] abbrev EPERM : Errno := ⟨1⟩
@[match_pattern] abbrev ENOENT : Errno := ⟨2⟩
@[match_pattern] abbrev ESRCH : Errno := ⟨3⟩
@[match_pattern] abbrev EINTR : Errno := ⟨4⟩
@[match_pattern] abbrev EIO : Errno := ⟨5⟩
@[match_pattern] abbrev EBADF : Errno := ⟨9⟩
@[match_pattern] abbrev ECHILD : Errno := ⟨10⟩
@[match_pattern] abbrev EAGAIN : Errno := ⟨11⟩
@[match_pattern] abbrev ENOMEM : Errno := ⟨12⟩
@[match_pattern] abbrev EACCES : Errno := ⟨13⟩
@[match_pattern] abbrev EFAULT : Errno := ⟨14⟩
@[match_pattern] abbrev EINVAL : Errno := ⟨22⟩
@[match_pattern] abbrev ENFILE : Errno := ⟨23⟩
@[match_pattern] abbrev EMFILE : Errno := ⟨24⟩
@[match_pattern] abbrev EPIPE : Errno := ⟨32⟩
@[match_pattern] abbrev ENOSYS : Errno := ⟨38⟩
@[match_pattern] abbrev ENOTSOCK : Errno := ⟨88⟩
@[match_pattern] abbrev EDESTADDRREQ : Errno := ⟨89⟩
@[match_pattern] abbrev EMSGSIZE : Errno := ⟨90⟩
@[match_pattern] abbrev EPROTOTYPE : Errno := ⟨91⟩
@[match_pattern] abbrev EPROTONOSUPPORT : Errno := ⟨93⟩
@[match_pattern] abbrev EAFNOSUPPORT : Errno := ⟨97⟩
@[match_pattern] abbrev EADDRINUSE : Errno := ⟨98⟩
@[match_pattern] abbrev EADDRNOTAVAIL : Errno := ⟨99⟩
@[match_pattern] abbrev ENETDOWN : Errno := ⟨100⟩
@[match_pattern] abbrev ENETUNREACH : Errno := ⟨101⟩
@[match_pattern] abbrev ENETRESET : Errno := ⟨102⟩
@[match_pattern] abbrev ECONNABORTED : Errno := ⟨103⟩
@[match_pattern] abbrev ECONNRESET : Errno := ⟨104⟩
@[match_pattern] abbrev ENOBUFS : Errno := ⟨105⟩
@[match_pattern] abbrev EISCONN : Errno := ⟨106⟩
@[match_pattern] abbrev ENOTCONN : Errno := ⟨107⟩
@[match_pattern] abbrev ETIMEDOUT : Errno := ⟨110⟩
@[match_pattern] abbrev ECONNREFUSED : Errno := ⟨111⟩
@[match_pattern] abbrev EHOSTDOWN : Errno := ⟨112⟩
@[match_pattern] abbrev EHOSTUNREACH : Errno := ⟨113⟩
@[match_pattern] abbrev EALREADY : Errno := ⟨114⟩
@[match_pattern] abbrev EINPROGRESS : Errno := ⟨115⟩

-- The names and texts of the causes for which calls on sockets, files and processes fail.
def table : List (Errno × String × String) :=
  [(EPERM, "EPERM", "Operation not permitted"),
    (ENOENT, "ENOENT", "No such file or directory"),
    (ESRCH, "ESRCH", "No such process"),
    (EINTR, "EINTR", "Interrupted system call"),
    (EIO, "EIO", "I/O error"),
    (EBADF, "EBADF", "Bad file number"),
    (ECHILD, "ECHILD", "No child processes"),
    (EAGAIN, "EAGAIN", "Try again"),
    (ENOMEM, "ENOMEM", "Out of memory"),
    (EACCES, "EACCES", "Permission denied"),
    (EFAULT, "EFAULT", "Bad address"),
    (EINVAL, "EINVAL", "Invalid argument"),
    (ENFILE, "ENFILE", "File table overflow"),
    (EMFILE, "EMFILE", "Too many open files"),
    (EPIPE, "EPIPE", "Broken pipe"),
    (ENOSYS, "ENOSYS", "Function not implemented"),
    (ENOTSOCK, "ENOTSOCK", "Socket operation on non-socket"),
    (EDESTADDRREQ, "EDESTADDRREQ", "Destination address required"),
    (EMSGSIZE, "EMSGSIZE", "Message too long"),
    (EPROTOTYPE, "EPROTOTYPE", "Protocol wrong type for socket"),
    (EPROTONOSUPPORT, "EPROTONOSUPPORT", "Protocol not supported"),
    (EAFNOSUPPORT, "EAFNOSUPPORT", "Address family not supported by protocol"),
    (EADDRINUSE, "EADDRINUSE", "Address already in use"),
    (EADDRNOTAVAIL, "EADDRNOTAVAIL", "Cannot assign requested address"),
    (ENETDOWN, "ENETDOWN", "Network is down"),
    (ENETUNREACH, "ENETUNREACH", "Network is unreachable"),
    (ENETRESET, "ENETRESET", "Network dropped connection because of reset"),
    (ECONNABORTED, "ECONNABORTED", "Software caused connection abort"),
    (ECONNRESET, "ECONNRESET", "Connection reset by peer"),
    (ENOBUFS, "ENOBUFS", "No buffer space available"),
    (EISCONN, "EISCONN", "Transport endpoint is already connected"),
    (ENOTCONN, "ENOTCONN", "Transport endpoint is not connected"),
    (ETIMEDOUT, "ETIMEDOUT", "Connection timed out"),
    (ECONNREFUSED, "ECONNREFUSED", "Connection refused"),
    (EHOSTDOWN, "EHOSTDOWN", "Host is down"),
    (EHOSTUNREACH, "EHOSTUNREACH", "No route to host"),
    (EALREADY, "EALREADY", "Operation already in progress"),
    (EINPROGRESS, "EINPROGRESS", "Operation now in progress")]

-- The name and the text of a cause. A number that has no entry counts as unknown.
def entry (e : Errno) : String × String :=
  ((table.find? (·.1 = e)).map (·.2)).getD ("UnknownErrno", "Unknown errno")

def name (e : Errno) : String := e.entry.1

def description (e : Errno) : String := e.entry.2

def ofName? (name : String) : Option Errno := (table.find? (·.2.1 = name)).map (·.1)

def text (e : Errno) : String := e.name ++ ": " ++ e.description

end Errno

end ProxyTunnel
