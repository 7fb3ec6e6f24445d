import ProxyTunnel.Text.Quoted
import ProxyTunnel.Text.Utf8

/-!
The head of a proxy's response: the lines up to the first blank one, read a byte at a time so that
what follows stays unread. Carriage returns are dropped. A head holds a bounded number of bytes and
lines, and reading stops when either bound is reached.
-/

set_option autoImplicit false

namespace ProxyTunnel

inductive ReadFailure where
  | notFound | permissionDenied | connectionRefused | connectionReset | hostUnreachable
  | networkUnreachable | connectionAborted | notConnected | addrInUse | addrNotAvailable
  | networkDown | brokenPipe | alreadyExists | wouldBlock | invalidInput | invalidData | timedOut
  | writeZero | interrupted | unsupported | unexpectedEof | outOfMemory | other | uncategorized
deriving DecidableEq, Repr, Inhabited

def ReadFailure.name : ReadFailure → String
  | notFound => "NotFound"
  | permissionDenied => "PermissionDenied"
  | connectionRefused => "ConnectionRefused"
  | connectionReset => "ConnectionReset"
  | hostUnreachable => "HostUnreachable"
  | networkUnreachable => "NetworkUnreachable"
  | connectionAborted => "ConnectionAborted"
  | notConnected => "NotConnected"
  | addrInUse => "AddrInUse"
  | addrNotAvailable => "AddrNotAvailable"
  | networkDown => "NetworkDown"
  | brokenPipe => "BrokenPipe"
  | alreadyExists => "AlreadyExists"
  | wouldBlock => "WouldBlock"
  | invalidInput => "InvalidInput"
  | invalidData => "InvalidData"
  | timedOut => "TimedOut"
  | writeZero => "WriteZero"
  | interrupted => "Interrupted"
  | unsupported => "Unsupported"
  | unexpectedEof => "UnexpectedEof"
  | outOfMemory => "OutOfMemory"
  | other => "Other"
  | uncategorized => "Uncategorized"

def ReadFailure.all : List ReadFailure :=
  [notFound, permissionDenied, connectionRefused, connectionReset, hostUnreachable,
    networkUnreachable, connectionAborted, notConnected, addrInUse, addrNotAvailable, networkDown,
    brokenPipe, alreadyExists, wouldBlock, invalidInput, invalidData, timedOut, writeZero,
    interrupted, unsupported, unexpectedEof, outOfMemory, other, uncategorized]

inductive ReadOutcome where
  | byte (b : UInt8)
  | ended
  | failed (failure : ReadFailure)
deriving DecidableEq, Repr

def ReadOutcome.byte? : ReadOutcome → Option UInt8
  | byte b => some b
  | ended | failed _ => none

inductive Termination where
  | blankLine
  | endOfStream
  | bufferFull
  | headerLimit
  | readError (failure : ReadFailure)
deriving DecidableEq, Repr

def Termination.name : Termination → String
  | blankLine => "BlankLine"
  | endOfStream => "EndOfStream"
  | bufferFull => "BufferFull"
  | headerLimit => "HeaderLimit"
  | readError failure => "ReadError(" ++ failure.name ++ ")"

-- A completed line: where it starts, where its newline is, and where its first colon is.
structure Line where
  start : Nat
  stop : Nat
  colon : Option Nat
deriving DecidableEq, Repr

namespace Line

def keyStop (l : Line) : Nat := (l.colon.map (min · l.stop)).getD l.stop

-- Where the value starts: two bytes after the colon, but not beyond the line.
def valueStart (l : Line) : Nat := (l.colon.map fun colon => min (colon + 2) l.stop).getD l.stop

end Line

def slice (bytes : Bytes) (start stop : Nat) : Bytes := (bytes.drop start).take (stop - start)

-- A head in the making: the bytes stored, the completed lines, and the start and first colon of the
-- line that is being read.
structure Draft where
  stored : Bytes
  lines : List Line
  start : Nat
  colon : Option Nat
deriving DecidableEq, Repr

structure Head where
  stored : Bytes
  lines : List Line
  termination : Termination
deriving DecidableEq, Repr

namespace Draft

def byteLimit : Nat := 1023

def lineLimit : Nat := 32

def empty : Draft := ⟨[], [], 0, none⟩

-- Stores a byte. A newline completes the line, and the first colon of a line is noted.
def push (d : Draft) (b : UInt8) : Draft :=
  let here := d.stored.length
  if b = 10 then ⟨d.stored ++ [b], d.lines ++ [⟨d.start, here, d.colon⟩], here + 1, none⟩
  else if b = 58 then ⟨d.stored ++ [b], d.lines, d.start, some (d.colon.getD here)⟩
  else ⟨d.stored ++ [b], d.lines, d.start, d.colon⟩

-- Whether the last completed line, not counting the first of all, has an empty key.
def endsBlank (d : Draft) : Bool :=
  match d.lines with
  | [] | [_] => false
  | _ :: line :: lines =>
      let last := (line :: lines).getLast (by simp)
      last.start == last.keyStop

def verdict (d : Draft) : Option Termination :=
  if d.endsBlank then some .blankLine
  else if lineLimit ≤ d.lines.length then some .headerLimit
  else none

def finish (d : Draft) (termination : Termination) : Head := ⟨d.stored, d.lines, termination⟩

-- Reads the rest of a head from the outcomes of successive reads, after which the stream has ended
-- for good. Gives the head and the outcomes that were left alone.
def read (d : Draft) (outcomes : List ReadOutcome) : Head × List ReadOutcome :=
  if byteLimit ≤ d.stored.length then (d.finish .bufferFull, outcomes)
  else
    match outcomes with
    | [] => (d.finish .endOfStream, [])
    | .ended :: rest => (d.finish .endOfStream, rest)
    | .failed .interrupted :: rest => d.read rest
    | .failed failure :: rest => (d.finish (.readError failure), rest)
    | .byte b :: rest =>
        if b = 13 then d.read rest
        else
          match (d.push b).verdict with
          | some termination => ((d.push b).finish termination, rest)
          | none => (d.push b).read rest

end Draft

namespace Head

def read (outcomes : List ReadOutcome) : Head × List ReadOutcome := Draft.empty.read outcomes

def size (h : Head) : Nat := h.stored.length

def key (h : Head) (line : Line) : Bytes := slice h.stored line.start line.keyStop

def value (h : Head) (line : Line) : Bytes := slice h.stored line.valueStart line.stop

-- The completed lines after the first that have a key, as pairs of key and value.
def headers (h : Head) : List (Bytes × Bytes) :=
  (h.lines.tail.filter fun line => !(h.key line).isEmpty).map fun line => (h.key line, h.value line)

-- The value of the first line with that key; an empty value, or one that is no text, counts as
-- absent.
def get? (h : Head) (key : String) : Option String :=
  match h.lines.tail.find? fun line => h.key line == Utf8.encode key with
  | none => none
  | some line => if h.value line = [] then none else Utf8.decode? (h.value line)

def statusBytes (h : Head) : Bytes :=
  match h.lines with
  | [] => h.stored
  | line :: _ => h.stored.take line.stop

def statusLine (h : Head) : String := Utf8.lossy h.statusBytes

def summary (h : Head) : String :=
  "ResponseHead \x7b status_line: " ++ Text.quote h.statusLine ++ ", len: " ++ toString h.size
    ++ ", lines: " ++ toString h.lines.length ++ ", termination: " ++ h.termination.name ++ " \x7d"

end Head

def bytesAmong (outcomes : List ReadOutcome) : Nat :=
  outcomes.countP fun
    | .byte _ => true
    | _ => false

end ProxyTunnel
