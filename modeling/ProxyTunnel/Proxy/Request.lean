import ProxyTunnel.Text.Utf8

/-!
Requests to the proxy: a request line, one `Host` line and a blank line, written piece by piece
into a frame of fixed size. What does not fit is cut off, and the frame remembers that it was.
-/

set_option autoImplicit false

namespace ProxyTunnel

structure Frame where
  bytes : Bytes
  overflowed : Bool
deriving DecidableEq, Repr

namespace Frame

def capacity : Nat := 1023

def empty : Frame := ⟨[], false⟩

-- Writes as much of a piece as there is room for; after an overflow nothing more is written.
def write (frame : Frame) (piece : Bytes) : Frame :=
  let room := capacity - frame.bytes.length
  if frame.overflowed then frame
  else if piece.length ≤ room then ⟨frame.bytes ++ piece, false⟩
  else ⟨frame.bytes ++ piece.take room, true⟩

end Frame

structure Request where
  verb : String
  path : String
  host : String
deriving DecidableEq, Repr

namespace Request

-- The texts of a request, in the order in which they are written.
def pieces (r : Request) : List String :=
  [r.verb, " ", r.path, " HTTP/1.1\r\nHost: ", r.host, "\r\n\r\n"]

def frame (r : Request) : Frame := (r.pieces.map Utf8.encode).foldl Frame.write Frame.empty

def bytes (r : Request) : Bytes := r.frame.bytes

def truncated (r : Request) : Bool := r.frame.overflowed

def connect (destination : String) : Request := ⟨"CONNECT", destination, destination⟩

def resolve (name : String) : Request := ⟨"RESOLVE", "*", name⟩

end Request

end ProxyTunnel
