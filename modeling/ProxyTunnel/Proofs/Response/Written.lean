import Mathlib.Data.List.Forall2
import ProxyTunnel.Proofs.Response.Lookahead

/-!
Responses as they are written: a status line, lines of a key and a value, and a blank line. Reading
gives back what was written, and responses written one after another are read one after another.
-/

set_option autoImplicit false

namespace ProxyTunnel.HeadText

-- How a written line ends: in a newline, with or without a carriage return before it.
inductive Newline where
  | bare
  | withReturn
deriving DecidableEq, Repr

def Newline.returns : Newline → Bytes
  | bare => []
  | withReturn => [13]

def Newline.bytes (n : Newline) : Bytes := n.returns ++ [10]

-- A line without carriage returns and newlines.
def Plain (line : Bytes) : Prop := 13 ∉ line ∧ 10 ∉ line

instance (line : Bytes) : Decidable (Plain line) := by unfold Plain; infer_instance

structure WrittenHeader where
  key : Bytes
  value : Bytes
  newline : Newline
  keyed : key ≠ []
  keyPlain : Plain key
  keyWhole : 58 ∉ key
  valuePlain : Plain value

namespace WrittenHeader

-- The key, a colon, a blank and the value.
def line (h : WrittenHeader) : Bytes := h.key ++ 58 :: 32 :: h.value

def bytes (h : WrittenHeader) : Bytes := h.line ++ h.newline.bytes

def pair (h : WrittenHeader) : Bytes × Bytes := (h.key, h.value)

theorem line_plain (h : WrittenHeader) : Plain h.line := by
  have keyPlain := h.keyPlain
  have valuePlain := h.valuePlain
  simp only [Plain] at keyPlain valuePlain
  simp [Plain, line, keyPlain, valuePlain]

theorem line_pair (h : WrittenHeader) :
    (HeadText.key h.line, HeadText.value h.line) = h.pair := by
  have inKey : ∀ b ∈ h.key, decide (b ≠ 58) = true := by
    intro b member
    simp only [decide_eq_true_eq]
    rintro rfl
    exact h.keyWhole member
  rw [HeadText.key, HeadText.value, line, List.takeWhile_append_of_pos inKey,
    List.dropWhile_append_of_pos inKey]
  simp [pair]

end WrittenHeader

structure Written where
  status : Bytes
  statusNewline : Newline
  headers : List WrittenHeader
  closing : Newline
  statusPlain : Plain status

namespace Written

def bytes (w : Written) : Bytes :=
  w.status ++ w.statusNewline.bytes ++ w.headers.flatMap WrittenHeader.bytes ++ w.closing.bytes

def pairs (w : Written) : List (Bytes × Bytes) := w.headers.map WrittenHeader.pair

-- The lines above the blank one, as they are read.
def opening (w : Written) : List Bytes := w.status :: w.headers.map WrittenHeader.line

-- The same lines with what stands before their newlines.
def spelled (w : Written) : List Bytes :=
  (w.status ++ w.statusNewline.returns) :: w.headers.map fun h => h.line ++ h.newline.returns

theorem bytes_spelled (w : Written) : w.bytes = spell w.spelled ++ w.closing.bytes := by
  have headers : w.headers.flatMap WrittenHeader.bytes =
      spell (w.headers.map fun h => h.line ++ h.newline.returns) := by
    rw [spell, List.flatMap_map]
    congr 1
    funext h
    rw [WrittenHeader.bytes, Newline.bytes, List.append_assoc]
  rw [bytes, spelled, spell_cons, headers, Newline.bytes]
  simp only [List.append_assoc]

theorem returns_vanish (line : Bytes) (newline : Newline) (plain : Plain line) :
    withoutReturns (line ++ newline.returns) = line := by
  have kept : withoutReturns line = line := by
    refine List.filter_eq_self.mpr fun b member => ?_
    simp only [decide_eq_true_eq]
    rintro rfl
    exact plain.1 member
  have dropped : withoutReturns newline.returns = [] := by cases newline <;> rfl
  rw [without_returns_append, kept, dropped, List.append_nil]

theorem spelled_plain (w : Written) : w.spelled.map withoutReturns = w.opening := by
  rw [spelled, opening, List.map_cons, returns_vanish _ _ w.statusPlain, List.map_map]
  congr 1
  refine List.map_congr_left fun h _ => ?_
  exact returns_vanish h.line h.newline h.line_plain

theorem opening_whole (w : Written) : ∀ line ∈ w.opening, 10 ∉ line := by
  refine List.forall_mem_cons.mpr ⟨w.statusPlain.2, ?_⟩
  intro line member
  obtain ⟨h, _, rfl⟩ := List.mem_map.mp member
  exact h.line_plain.2

theorem spelled_text (w : Written) : withoutReturns (spell w.spelled) = spell w.opening := by
  rw [without_returns_spell, spelled_plain]

theorem closing_text (newline : Newline) : withoutReturns newline.bytes = [10] := by
  cases newline <;> rfl

theorem text_of_bytes (w : Written) : withoutReturns w.bytes = spell (w.opening ++ [[]]) := by
  rw [bytes_spelled, without_returns_append, spelled_text, closing_text, spell_snoc,
    List.append_nil]

theorem newline_whole (line : Bytes) (newline : Newline) (plain : Plain line) :
    10 ∉ line ++ newline.returns := by
  have none : 10 ∉ newline.returns := by cases newline <;> decide
  simp [plain.2, none]

theorem bytes_block (w : Written) : Block w.bytes := by
  refine ⟨w.status ++ w.statusNewline.returns,
    w.headers.map fun h => h.line ++ h.newline.returns, w.closing.returns, ⟨?_, ?_, ?_⟩, ?_⟩
  · intro line member
    simp only [List.cons_append, List.mem_cons, List.mem_append, List.mem_map,
      List.not_mem_nil, or_false] at member
    rcases member with rfl | ⟨h, _, rfl⟩ | rfl
    · exact newline_whole _ _ w.statusPlain
    · exact newline_whole _ _ h.line_plain
    · cases w.closing <;> decide
  · intro line member
    obtain ⟨h, _, rfl⟩ := List.mem_map.mp member
    have same : key h.line = h.key := congrArg Prod.fst h.line_pair
    rw [returns_vanish _ _ h.line_plain, same]
    exact h.keyed
  · cases w.closing <;> rfl
  · rw [bytes_spelled, Newline.bytes, ← List.append_assoc, ← spell_snoc]
    rfl

end Written

theorem spelled_newlines (done : List Bytes) (whole : ∀ line ∈ done, 10 ∉ line) :
    (spell done).count 10 = done.length := by
  rw [← lines_length, (lines_spelled done whole).1]

theorem bytes_pass (bytes : Bytes) : ∀ o ∈ bytes.map ReadOutcome.byte, passes o = true := by
  intro o member
  obtain ⟨b, _, rfl⟩ := List.mem_map.mp member
  rfl

-- A text is read up to a newline if there is a verdict on it there and not before.
theorem read_newline (front : Bytes) (t : Termination) (rest : List ReadOutcome)
    (quiet : ∀ q, q <+: withoutReturns front → verdict q = none)
    (stop : verdict (withoutReturns (front ++ [10])) = some t) :
    Head.read ((front ++ [10]).map .byte ++ rest) =
      (headOf (withoutReturns (front ++ [10])) t, rest) := by
  have course : Course [] ((front ++ [10]).map .byte) rest t := by
    refine ⟨?_, .inl ⟨bytes_pass _, by rwa [List.nil_append, text_bytes]⟩⟩
    intro part more split left
    obtain ⟨before, after, whole, rfl, rfl⟩ := List.map_eq_append_iff.mp split
    have within : before <+: front :=
      front_within front before after 10 whole (mt (congrArg _) left)
    rw [List.nil_append, text_bytes]
    exact ⟨bytes_pass before, quiet _ (within.filter _)⟩
  rw [course_read _ rest t course, text_bytes]

-- A written response that can be held: so many lines have a place, and so many bytes.
structure Message extends Written where
  few : headers.length ≤ 31
  short : (withoutReturns toWritten.bytes).length ≤ 1023

-- A head that says what was written.
structure Shows (head : Head) (w : Written) : Prop where
  headers : head.headers = w.pairs
  statusLine : head.statusLine = Utf8.lossy w.status
  get : ∀ name, head.get? name = (w.pairs.find? (·.1 = Utf8.encode name)).bind fun pair =>
    if pair.2 = [] then none else Utf8.decode? pair.2

namespace Written

theorem pairs_keyed (w : Written) : ∀ pair ∈ w.pairs, pair.1 ≠ [] := by
  intro pair member
  obtain ⟨h, _, rfl⟩ := List.mem_map.mp member
  exact h.keyed

theorem lines_closed (w : Written) (closed : List Bytes) (blank : ∀ line ∈ closed, line = []) :
    lines (spell (w.opening ++ closed)) = w.opening ++ closed := by
  refine (lines_spelled _ ?_).1
  refine List.forall_mem_append.mpr ⟨w.opening_whole, fun line member => ?_⟩
  rw [blank line member]
  exact List.not_mem_nil

theorem fields_closed (w : Written) (closed : List Bytes) (blank : ∀ line ∈ closed, line = []) :
    fields (spell (w.opening ++ closed)) = w.pairs ++ closed.map fun _ => ([], []) := by
  have headers : w.headers.map (fun h => (key h.line, value h.line)) = w.pairs :=
    List.map_congr_left fun h _ => h.line_pair
  have nothing : closed.map (fun line => (key line, value line)) =
      closed.map fun _ => (([], []) : Bytes × Bytes) :=
    List.map_congr_left fun line member => by rw [blank line member]; rfl
  rw [fields, lines_closed w closed blank, opening, List.cons_append, List.tail_cons,
    List.map_append, List.map_map, nothing]
  exact congrArg (· ++ _) headers

-- A line without a key counts for nothing, and a value that is empty for as much as none.
theorem closed_shows (w : Written) (closed : List Bytes) (t : Termination)
    (blank : ∀ line ∈ closed, line = []) : Shows (headOf (spell (w.opening ++ closed)) t) w where
  headers := by
    rw [head_headers, fields_closed w closed blank, List.filter_append]
    have kept : w.pairs.filter (·.1 ≠ []) = w.pairs :=
      List.filter_eq_self.mpr (by simpa using pairs_keyed w)
    have dropped : (closed.map fun _ => (([], []) : Bytes × Bytes)).filter (·.1 ≠ []) = [] :=
      List.filter_eq_nil_iff.mpr (by simp)
    rw [kept, dropped, List.append_nil]
  statusLine := by
    rw [Head.statusLine, head_status, lines_closed w closed blank]
    rfl
  get name := by
    rw [head_get, fields_closed w closed blank, List.find?_append]
    cases w.pairs.find? (·.1 = Utf8.encode name) with
    | some pair => rfl
    | none =>
        rw [Option.none_or, Option.bind_none, Option.bind_eq_none_iff]
        intro pair found
        obtain ⟨_, _, rfl⟩ := List.mem_map.mp (List.mem_of_find?_eq_some found)
        rfl

theorem bytes_newlines (w : Written) : w.bytes.count 10 = w.headers.length + 2 := by
  have whole : ∀ line ∈ w.opening ++ [[]], 10 ∉ line :=
    List.forall_mem_append.mpr ⟨w.opening_whole, by simp⟩
  rw [← without_returns_count, text_of_bytes, spelled_newlines _ whole]
  simp [opening]

end Written

theorem message_closes (m : Message) (rest : List ReadOutcome) (places : m.headers.length ≤ 30) :
    Head.read (m.bytes.map .byte ++ rest) =
      (headOf (spell (m.opening ++ [[]])) .blankLine, rest) := by
  obtain ⟨front, whole, blank, further⟩ := block_text m.bytes m.bytes_block
  have fits : Fits (front ++ [10]) := by
    refine whole ▸ ⟨m.short, ?_⟩
    have count := m.bytes_newlines
    omega
  have quiet := (block_fits front further).mp fits
  have stop : verdict (withoutReturns (front ++ [10])) = some .blankLine := by
    rw [← whole, verdict, if_pos blank]
  rw [whole, read_newline front .blankLine rest quiet stop, ← whole, Written.text_of_bytes]

-- With all places taken by lines that have a key there is none for the line that closes.
theorem message_fills (m : Message) (rest : List ReadOutcome) (full : m.headers.length = 31) :
    Head.read (m.bytes.map .byte ++ rest) =
      (headOf (spell m.opening) .headerLimit, m.closing.bytes.map .byte ++ rest) := by
  obtain ⟨front, whole, _, further⟩ := block_text m.bytes m.bytes_block
  obtain ⟨body, ended⟩ : ∃ body, spell m.spelled = body ++ [10] := by
    rcases List.eq_nil_or_concat m.spelled with none | ⟨done, line, last⟩
    · cases none
    · exact ⟨spell done ++ line, by rw [last, List.concat_eq_append, spell_snoc]⟩
  have before : body ++ [10] <+: front := by
    refine ⟨m.closing.returns, (List.append_left_inj [10]).mp ?_⟩
    rw [← whole, Written.bytes_spelled, ended, Newline.bytes, List.append_assoc]
  have text : withoutReturns (body ++ [10]) = spell m.opening := by rw [← ended, m.spelled_text]
  have count : (spell m.opening).count 10 = 32 := by
    rw [spelled_newlines _ m.opening_whole, Written.opening, List.length_cons, List.length_map,
      full]
  have open_ : ¬ EndsBlank (spell m.opening) := by
    rw [← text]
    exact further _ (before.filter _)
  have fits : Fits (body ++ [10]) := by
    have part : body ++ [10] <+: m.bytes := by
      rw [Written.bytes_spelled, ended]
      exact List.prefix_append _ _
    have short := (part.filter (· ≠ 13)).length_le.trans m.short
    refine ⟨short, ?_⟩
    rw [← without_returns_count, text, count]
  have stop : verdict (withoutReturns (body ++ [10])) = some .headerLimit := by
    rw [text, verdict, if_neg open_, if_pos (by omega)]
  have quiet := (block_fits body fun q part =>
    further q (part.trans ((List.prefix_append body [10]).trans before |>.filter _))).mp fits
  rw [Written.bytes_spelled, ended, List.map_append, List.append_assoc,
    read_newline body .headerLimit _ quiet stop, text]

-- Reads so many heads, one after another.
def readMany : Nat → List ReadOutcome → List Head × List ReadOutcome
  | 0, outcomes => ([], outcomes)
  | n + 1, outcomes =>
      let (head, rest) := Head.read outcomes
      let (heads, rest) := readMany n rest
      (head :: heads, rest)

theorem messages_close (ms : List Message) (payload : List ReadOutcome)
    (places : ∀ m ∈ ms, m.headers.length ≤ 30) :
    readMany ms.length ((ms.flatMap (·.bytes)).map .byte ++ payload) =
      (ms.map fun m => headOf (spell (m.opening ++ [[]])) .blankLine, payload) := by
  induction ms with
  | nil => rfl
  | cons m ms ih =>
      obtain ⟨first, others⟩ := List.forall_mem_cons.mp places
      rw [List.flatMap_cons, List.map_append, List.append_assoc, List.length_cons, readMany,
        message_closes m _ first]
      dsimp only
      rw [ih others]
      rfl

theorem messages_read_back :
    (∀ (m : Message) (rest : List ReadOutcome),
      let (head, left) := Head.read (m.bytes.map .byte ++ rest)
      Shows head m.toWritten ∧
        (m.headers.length ≤ 30 → head.termination = .blankLine ∧ left = rest) ∧
        (m.headers.length = 31 →
          head.termination = .headerLimit ∧ left = m.closing.bytes.map .byte ++ rest)) ∧
    ∀ (ms : List Message) (payload : List ReadOutcome), (∀ m ∈ ms, m.headers.length ≤ 30) →
      let (heads, left) := readMany ms.length ((ms.flatMap (·.bytes)).map .byte ++ payload)
      left = payload ∧ List.Forall₂
        (fun head m => Shows head m.toWritten ∧ head.termination = .blankLine) heads ms := by
  refine ⟨?_, ?_⟩
  · intro m rest
    rcases Nat.lt_or_eq_of_le m.few with places | full
    · rw [message_closes m rest (Nat.le_of_lt_succ places)]
      exact ⟨m.closed_shows [[]] _ (by simp), fun _ => ⟨rfl, rfl⟩, fun full => by omega⟩
    · rw [message_fills m rest full]
      have shown := m.closed_shows [] .headerLimit (by simp)
      rw [List.append_nil] at shown
      exact ⟨shown, fun places => by omega, fun _ => ⟨rfl, rfl⟩⟩
  · intro ms payload places
    rw [messages_close ms payload places]
    refine ⟨rfl, ?_⟩
    rw [List.forall₂_map_left_iff, List.forall₂_same]
    intro m _
    exact ⟨m.closed_shows [[]] _ (by simp), rfl⟩

-- A response with one key twice and with lines of both endings.
def repeatedKey : Message where
  status := [79, 75]
  statusNewline := .withReturn
  headers :=
    [⟨[107], [118, 58], .bare, by decide, by decide, by decide, by decide⟩,
      ⟨[107], [], .withReturn, by decide, by decide, by decide, by decide⟩]
  closing := .bare
  statusPlain := by decide
  few := by decide
  short := by decide

theorem messages_read_back_twice :
    let (heads, left) :=
      readMany 2 (([repeatedKey, repeatedKey].flatMap (·.bytes)).map .byte ++ [.byte 88])
    left = [.byte 88] ∧ List.Forall₂
      (fun head m => Shows head m.toWritten ∧ head.termination = .blankLine) heads
      [repeatedKey, repeatedKey] :=
  messages_read_back.2 [repeatedKey, repeatedKey] [.byte 88] (by decide)

end ProxyTunnel.HeadText
