import ProxyTunnel.Proofs.Response.Skipping

/-!
A head in storage of fixed size: a buffer for its bytes, and a slot for each of its lines, which the
open line has one of as well. Every access is checked, and `none` is an access out of range.
-/

set_option autoImplicit false

namespace ProxyTunnel

structure Storage where
  buffer : Vector UInt8 1024
  size : Nat
  -- The completed lines take the first slots, and the open line takes the next one.
  lines : Nat
  starts : Vector Nat Draft.lineLimit
  stops : Vector Nat Draft.lineLimit
  colons : Vector (Option Nat) Draft.lineLimit

namespace Storage

def put? {α : Type} {n : Nat} (slots : Vector α n) (i : Nat) (a : α) : Option (Vector α n) :=
  if inside : i < n then some (slots.set i a) else none

def empty : Storage :=
  ⟨.replicate _ 0, 0, 0, .replicate _ 0, .replicate _ 0, .replicate _ none⟩

def bytes (s : Storage) : Bytes := s.buffer.toList

def stored (s : Storage) : Bytes := s.bytes.take s.size

-- The starts once a line starts behind the next byte. After the last line none is noted.
def openLine? (s : Storage) : Option (Vector Nat Draft.lineLimit) :=
  if s.lines + 1 < Draft.lineLimit then put? s.starts (s.lines + 1) (s.size + 1)
  else some s.starts

def completeLine? (s : Storage) : Option Storage := do
  let stops ← put? s.stops s.lines s.size
  let starts ← s.openLine?
  return { s with stops, starts, lines := s.lines + 1 }

def noteColon? (s : Storage) : Option Storage := do
  match ← s.colons[s.lines]? with
  | some _ => return s
  | none => return { s with colons := ← put? s.colons s.lines (some s.size) }

def note? (s : Storage) (b : UInt8) : Option Storage :=
  if b = 10 then s.completeLine? else if b = 58 then s.noteColon? else some s

def push? (s : Storage) (b : UInt8) : Option Storage := do
  let noted ← s.note? b
  let buffer ← put? noted.buffer s.size b
  return { noted with buffer, size := s.size + 1 }

def slice? (s : Storage) (start stop : Nat) : Option Bytes :=
  if start ≤ stop ∧ stop ≤ s.bytes.length then some (slice s.bytes start stop) else none

def lineStop? (s : Storage) (i : Nat) : Option Nat :=
  if i < s.lines then s.stops[i]? else some s.size

def keySpan? (s : Storage) (i : Nat) : Option (Nat × Nat) := do
  let stop ← s.lineStop? i
  let start ← s.starts[i]?
  let colon ← s.colons[i]?
  return (start, (colon.map (min · stop)).getD stop)

def key? (s : Storage) (i : Nat) : Option Bytes := do
  let (start, stop) ← s.keySpan? i
  s.slice? start stop

def value? (s : Storage) (i : Nat) : Option Bytes := do
  let stop ← s.lineStop? i
  match ← s.colons[i]? with
  | some colon => s.slice? (min (colon + 2) stop) stop
  | none => return []

def endsBlank? (s : Storage) : Option Bool :=
  if s.lines ≤ 1 then some false
  else do
    let (start, stop) ← s.keySpan? (s.lines - 1)
    return start == stop

-- The slots of the completed lines after the first.
def fieldSlots (s : Storage) : List Nat := (List.range s.lines).tail

def headersAt? (s : Storage) : List Nat → Option (List (Bytes × Bytes))
  | [] => some []
  | i :: rest => do
      let key ← s.key? i
      if key = [] then s.headersAt? rest
      else
        let value ← s.value? i
        let others ← s.headersAt? rest
        return (key, value) :: others

def headers? (s : Storage) : Option (List (Bytes × Bytes)) := s.headersAt? s.fieldSlots

def slotOf? (s : Storage) (key : Bytes) : List Nat → Option (Option Nat)
  | [] => some none
  | i :: rest => do
      let found ← s.key? i
      if found = key then return some i
      else s.slotOf? key rest

def get? (s : Storage) (key : String) : Option (Option String) := do
  match ← s.slotOf? (Utf8.encode key) s.fieldSlots with
  | none => return none
  | some i =>
      let value ← s.value? i
      return if value = [] then none else Utf8.decode? value

def statusLine? (s : Storage) : Option String := do
  let stop ← if 0 < s.lines then s.stops[0]? else some s.size
  return Utf8.lossy (← s.slice? 0 stop)

-- What one read makes of the storage, and why reading stops if it does.
def turn? (s : Storage) : ReadOutcome → Option (Storage × Option Termination)
  | .ended => some (s, some .endOfStream)
  | .failed .interrupted => some (s, none)
  | .failed failure => some (s, some (.readError failure))
  | .byte b =>
      if b = 13 then some (s, none)
      else do
        let next ← s.push? b
        if ← next.endsBlank? then return (next, some .blankLine)
        else if Draft.lineLimit ≤ next.lines then return (next, some .headerLimit)
        else return (next, none)

def read? (s : Storage) (outcomes : List ReadOutcome) :
    Option (Storage × Termination × List ReadOutcome) :=
  if Draft.byteLimit ≤ s.size then some (s, .bufferFull, outcomes)
  else
    match outcomes with
    | [] => some (s, .endOfStream, [])
    | o :: rest =>
        match s.turn? o with
        | none => none
        | some (next, some termination) => some (next, termination, rest)
        | some (next, none) => next.read? rest

-- The storage when a turn starts, after these outcomes.
inductive Reached : List ReadOutcome → Storage → Prop
  | start : Reached [] empty
  | turn {used : List ReadOutcome} {s next : Storage} {o : ReadOutcome} :
      Reached used s → s.size < Draft.byteLimit → s.turn? o = some (next, none) →
      Reached (used ++ [o]) next

-- The positions that the slots hold of a line.
def line? (s : Storage) (i : Nat) : Option Line := do
  return ⟨← s.starts[i]?, ← s.stops[i]?, ← s.colons[i]?⟩

def head (s : Storage) (termination : Termination) : Head :=
  ⟨s.stored, (List.range s.lines).filterMap s.line?, termination⟩

theorem put_inside {α : Type} {n : Nat} (slots : Vector α n) (i : Nat) (a : α) (inside : i < n) :
    put? slots i a = some (slots.set i a) := dif_pos inside

-- The slots hold what a draft has noted of its lines; those after that of the open line are
-- untouched.
structure Notes (s : Storage) (d : Draft) : Prop where
  lines : s.lines = d.lines.length
  completed : ∀ i l, d.lines[i]? = some l → s.line? i = some l
  opened : s.lines < Draft.lineLimit →
    s.starts[s.lines]? = some d.start ∧ s.colons[s.lines]? = some d.colon
  unused : ∀ i, s.lines < i → i < Draft.lineLimit → s.colons[i]? = some none

structure Holds (s : Storage) (d : Draft) : Prop extends Notes s d where
  size : s.size = d.stored.length
  stored : s.stored = d.stored

theorem empty_holds : Holds empty Draft.empty where
  size := rfl
  stored := rfl
  lines := rfl
  completed i l found := by cases found
  opened _ := ⟨rfl, rfl⟩
  unused i _ few := by simp [empty, few]

theorem line_slots (s : Storage) (i : Nat) (l : Line) : s.line? i = some l ↔
    s.starts[i]? = some l.start ∧ s.stops[i]? = some l.stop ∧ s.colons[i]? = some l.colon := by
  obtain ⟨start, stop, colon⟩ := l
  cases starts : s.starts[i]? <;> cases stops : s.stops[i]? <;> cases colons : s.colons[i]? <;>
    simp [line?, starts, stops, colons]

theorem open_line_notes (s : Storage) : ∃ starts, s.openLine? = some starts ∧
    (∀ i, i ≤ s.lines → starts[i]? = s.starts[i]?) ∧
    (s.lines + 1 < Draft.lineLimit → starts[s.lines + 1]? = some (s.size + 1)) := by
  unfold openLine?
  by_cases more : s.lines + 1 < Draft.lineLimit
  · refine ⟨s.starts.set (s.lines + 1) (s.size + 1), by rw [if_pos more, put_inside _ _ _ more],
      fun i early => ?_, fun _ => by simp⟩
    rw [Vector.getElem?_set, if_neg (by omega)]
  · exact ⟨s.starts, if_neg more, fun _ _ => rfl, fun more' => absurd more' more⟩

theorem complete_line_notes (s : Storage) (d : Draft) (notes : Notes s d)
    (few : s.lines < Draft.lineLimit) (next : Draft)
    (completed : next.lines = d.lines ++ [⟨d.start, s.size, d.colon⟩])
    (opened : next.start = s.size + 1 ∧ next.colon = none) :
    ∃ noted, s.completeLine? = some noted ∧ Notes noted next ∧
      noted.buffer = s.buffer ∧ noted.size = s.size := by
  obtain ⟨starts, computed, before, after⟩ := open_line_notes s
  let noted : Storage :=
    { s with stops := s.stops.set s.lines s.size few, starts, lines := s.lines + 1 }
  refine ⟨noted, by simp [completeLine?, put_inside _ _ _ few, computed, noted], ?_, rfl, rfl⟩
  refine ⟨by simp [noted, completed, notes.lines], fun i l found => ?_, fun more => ?_, ?_⟩
  · have lines := notes.lines
    rw [completed] at found
    have place := (List.getElem?_eq_some_iff.mp found).1
    rw [List.length_append, List.length_singleton] at place
    rw [line_slots]
    by_cases last : i = s.lines
    · subst i
      rw [notes.lines, List.getElem?_concat_length, Option.some.injEq] at found
      obtain ⟨start, colon⟩ := notes.opened few
      subst l
      exact ⟨(before _ (Nat.le_refl _)).trans start, by simp [noted], colon⟩
    · rw [List.getElem?_append_left (by omega)] at found
      obtain ⟨start, stop, colon⟩ := (line_slots s i l).mp (notes.completed i l found)
      refine ⟨(before i (by omega)).trans start, ?_, colon⟩
      rw [Vector.getElem?_set, if_neg (Ne.symm last)]
      exact stop
  · rw [opened.1, opened.2]
    exact ⟨after more, notes.unused _ (Nat.lt_succ_self _) more⟩
  · exact fun i late inside => notes.unused i (Nat.lt_of_succ_lt late) inside

theorem note_colon_notes (s : Storage) (d : Draft) (notes : Notes s d)
    (few : s.lines < Draft.lineLimit) (next : Draft) (same : next.lines = d.lines)
    (opened : next.start = d.start ∧ next.colon = some (d.colon.getD s.size)) :
    ∃ noted, s.noteColon? = some noted ∧ Notes noted next ∧
      noted.buffer = s.buffer ∧ noted.size = s.size := by
  obtain ⟨start, colon⟩ := notes.opened few
  cases found : d.colon with
  | some first =>
      rw [found] at colon opened
      refine ⟨s, by simp [noteColon?, colon], ?_, rfl, rfl⟩
      refine ⟨by rw [same, notes.lines], fun i l found => ?_, fun _ => ?_, notes.unused⟩
      · exact notes.completed i l (same ▸ found)
      · rw [opened.1, opened.2]
        exact ⟨start, colon⟩
  | none =>
      rw [found] at colon opened
      let noted : Storage := { s with colons := s.colons.set s.lines (some s.size) few }
      refine ⟨noted, by simp [noteColon?, colon, put_inside _ _ _ few, noted], ?_, rfl, rfl⟩
      refine ⟨by simp [noted, same, notes.lines], fun i l found => ?_, fun _ => ?_,
        fun i late inside => ?_⟩
      · rw [same] at found
        have place := (List.getElem?_eq_some_iff.mp found).1
        rw [← notes.lines] at place
        obtain ⟨start, stop, colon⟩ := (line_slots s i l).mp (notes.completed i l found)
        rw [line_slots]
        refine ⟨start, stop, ?_⟩
        rw [Vector.getElem?_set, if_neg (by omega)]
        exact colon
      · rw [opened.1, opened.2]
        exact ⟨start, by simp [noted]⟩
      · rw [Vector.getElem?_set, if_neg (by exact Nat.ne_of_lt late)]
        exact notes.unused i late inside

theorem note_notes (s : Storage) (d : Draft) (b : UInt8) (holds : Holds s d)
    (few : s.lines < Draft.lineLimit) : ∃ noted, s.note? b = some noted ∧
      Notes noted (d.push b) ∧ noted.buffer = s.buffer ∧ noted.size = s.size := by
  by_cases newline : b = 10
  · rw [note?, if_pos newline]
    exact complete_line_notes s d holds.toNotes few _
      (by simp [Draft.push, newline, holds.size]) (by simp [Draft.push, newline, holds.size])
  · rw [note?, if_neg newline]
    by_cases colon : b = 58
    · rw [if_pos colon]
      exact note_colon_notes s d holds.toNotes few _ (by simp [Draft.push, colon])
        (by simp [Draft.push, colon, holds.size])
    · rw [if_neg colon]
      have same : Notes s (d.push b) := by
        simp only [Draft.push, if_neg newline, if_neg colon]
        exact ⟨holds.lines, holds.completed, holds.opened, holds.unused⟩
      exact ⟨s, rfl, same, rfl, rfl⟩

theorem push_stored (d : Draft) (b : UInt8) : (d.push b).stored = d.stored ++ [b] := by
  unfold Draft.push
  split
  · rfl
  · split <;> rfl

theorem stored_put (s : Storage) (b : UInt8) (room : s.size < 1024) :
    (s.buffer.set s.size b).toList.take (s.size + 1) = s.stored ++ [b] := by
  have kept : (s.buffer.toList.set s.size b).take s.size = s.buffer.toList.take s.size :=
    List.take_set_of_le (Nat.le_refl _)
  simp [stored, bytes, Vector.toList_set, List.take_add_one, room, kept]

-- One more byte is stored within range while there is a slot for the open line.
theorem push_holds (s : Storage) (d : Draft) (b : UInt8) (holds : Holds s d)
    (room : s.size < Draft.byteLimit) (few : s.lines < Draft.lineLimit) :
    ∃ next, s.push? b = some next ∧ Holds next (d.push b) := by
  obtain ⟨noted, computed, notes, buffer, size⟩ := note_notes s d b holds few
  have inside : s.size < 1024 := Nat.lt_of_lt_of_le room (by decide)
  refine ⟨{ noted with buffer := s.buffer.set s.size b, size := s.size + 1 },
    by simp [push?, computed, buffer, put_inside _ _ _ inside], ?_⟩
  have stored : (s.buffer.set s.size b).toList.take (s.size + 1) = (d.push b).stored := by
    rw [stored_put s b inside, holds.stored, push_stored]
  have length : s.size + 1 = (d.push b).stored.length := by
    rw [push_stored, List.length_append, List.length_singleton, holds.size]
  exact { notes with size := length, stored := stored }

end Storage

end ProxyTunnel
