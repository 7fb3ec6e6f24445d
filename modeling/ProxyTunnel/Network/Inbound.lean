import ProxyTunnel.Duration
import ProxyTunnel.Proxy.Response

/-!
What a descriptor still has to deliver: bytes and failing reads with the times at which they are
met, and how the stream ends. A read waits as long as its deadline and the mode of the descriptor
allow; times are in nanoseconds of one clock.
-/

set_option autoImplicit false

namespace ProxyTunnel

-- What one read finds, a byte or a failure, and the time from which it is found.
structure Arrival where
  time : Nat
  outcome : ReadOutcome
deriving DecidableEq, Repr

inductive Ending where
  | closes
  -- Nothing more comes, and the stream does not end.
  | silent
  -- The same, but a read that waits for it gives up by itself.
  | lapses
  -- One failure, then the end of the stream.
  | resets
  | refuses (failure : ReadFailure)
deriving DecidableEq, Repr

-- What is on its way to a descriptor, in the order and with the times of its arrival.
structure Inbound where
  arrivals : List Arrival
  ending : Ending
  -- The time from which `ending` is in force.
  endTime : Nat
deriving DecidableEq, Repr

structure Patience where
  deadline : Option Nat
  -- Whether the descriptor makes a read wait at all.
  blocking : Bool
  -- Whether waiting under a deadline is refused, as it is where no descriptor may be open at all.
  barred : Bool
  -- Whether a read that waits for nothing gives up by itself.
  lapses : Bool
deriving DecidableEq, Repr

-- How a wait ends.
inductive Waited where
  | ready
  | failed (failure : ReadFailure)
  -- It does not: nothing comes, and nothing limits it.
  | never
deriving DecidableEq, Repr

namespace Patience

-- The longest wait that one call can be asked for, in milliseconds.
def longestWait : Nat := Nat.pow 2 31 - 1

-- How many milliseconds a wait is asked for when `left` nanoseconds remain: the whole milliseconds,
-- at least one, and no more than `longestWait`.
def waitMillis (left : Nat) : Nat := max 1 (min (left / Duration.nanosPerMilli) longestWait)

-- Waits from `now` for something that is ready at a time, if ever. Gives how the wait ends and the
-- time at which it is over; of one that does not end, the time at which it begins.
def await (p : Patience) (now : Nat) (ready : Option Nat) : Waited × Nat :=
  match p.deadline with
  | none =>
      match ready with
      | none => (if p.blocking && !p.lapses then .never else .failed .wouldBlock, now)
      | some time =>
          if time ≤ now then (.ready, now)
          else if p.blocking then (.ready, time)
          else (.failed .wouldBlock, now)
  | some deadline =>
      if deadline ≤ now then (.failed .timedOut, now)
      else if p.barred then (.failed .invalidInput, now)
      else
        let limit := now + waitMillis (deadline - now) * Duration.nanosPerMilli
        match ready with
        | none => (.failed .timedOut, limit)
        | some time => if time ≤ limit then (.ready, max now time) else (.failed .timedOut, limit)

-- Whether a wait may last for ever.
def endless (p : Patience) : Bool := p.deadline.isNone && p.blocking && !p.lapses

end Patience

namespace Inbound

-- What a read finds that has come to the end and does not wait.
def endOutcome (i : Inbound) : ReadOutcome :=
  match i.ending with
  | .closes => .ended
  | .silent | .lapses => .failed .wouldBlock
  | .resets => .failed .connectionReset
  | .refuses failure => .failed failure

def endReady (i : Inbound) : Option Nat :=
  match i.ending with
  | .silent | .lapses => none
  | _ => some i.endTime

-- The outcomes of reading byte after byte from `now` until a wait is given up or the end is met,
-- each with the time at which its read is over. All but the last are arrivals. Where the last wait
-- never ends, `endOutcome` holds its place, and `stalls` tells whether a head comes to it.
def outcomesFrom (i : Inbound) (p : Patience) (now : Nat) :
    List Arrival → List (ReadOutcome × Nat)
  | [] =>
      match p.await now i.endReady with
      | (.failed failure, time) => [(.failed failure, time)]
      | (_, time) => [(i.endOutcome, time)]
  | a :: rest =>
      match p.await now (some a.time) with
      | (.failed failure, time) => [(.failed failure, time)]
      | (_, time) => (a.outcome, time) :: i.outcomesFrom p time rest

def outcomes (i : Inbound) (p : Patience) (now : Nat) : List (ReadOutcome × Nat) :=
  i.outcomesFrom p now i.arrivals

-- What remains after reads that took `count` arrivals and found `last` at the end.
def consume (i : Inbound) (count : Nat) (last : Option ReadOutcome) : Inbound :=
  let reported := i.ending = .resets ∧ last = some (.failed .connectionReset)
  { i with
    arrivals := i.arrivals.drop count
    ending := if reported then .closes else i.ending }

-- Reads a head byte after byte: the head, the time at which its last read is over and what remains.
def readHead (i : Inbound) (p : Patience) (now : Nat) : Head × Nat × Inbound :=
  let outcomes := i.outcomes p now
  let (head, rest) := Head.read (outcomes.map (·.1))
  let used := outcomes.take (outcomes.length - rest.length)
  let last := if rest = [] then outcomes.getLast?.map (·.1) else none
  (head, (used.getLast?.map (·.2)).getD now,
    i.consume (outcomes.length - max 1 rest.length) last)

-- Whether reading a head from `now` comes to a wait that never ends.
def stalls (i : Inbound) (p : Patience) (now : Nat) : Bool :=
  p.endless && i.endReady.isNone && (Head.read ((i.outcomes p now).map (·.1))).2.isEmpty

def unread (i : Inbound) : Bytes := i.arrivals.filterMap (·.outcome.byte?)

def available (i : Inbound) (now : Nat) : Bytes :=
  let ready := i.arrivals.takeWhile fun a => decide (a.time ≤ now) && a.outcome.byte?.isSome
  ready.filterMap (·.outcome.byte?)

-- One read of up to `size` bytes: its result unless it never ends, the time at which it is over and
-- what remains.
def readSome (i : Inbound) (p : Patience) (now size : Nat) :
    Option (Except ReadFailure Bytes) × Nat × Inbound :=
  let ready := (i.arrivals.head?.map (·.time)).or i.endReady
  if size = 0 ∧ p.deadline = none then (some (.ok []), now, i)
  else
    match p.await now ready with
    | (.never, time) => (none, time, i)
    | (.failed failure, time) => (some (.error failure), time, i)
    | (.ready, time) =>
        let got := (i.available time).take size
        if size = 0 ∨ got ≠ [] then (some (.ok got), time, i.consume got.length none)
        else
          let (found, rest) :=
            match i.arrivals with
            | [] => (i.endOutcome, i.consume 0 (some i.endOutcome))
            | a :: _ => (a.outcome, i.consume 1 none)
          match found with
          | .failed failure => (some (.error failure), time, rest)
          | _ => (some (.ok []), time, rest)

end Inbound

end ProxyTunnel
