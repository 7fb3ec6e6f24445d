import ProxyTunnel.Proofs.Response.Slots

/-!
Reading a head stays within storage of fixed size: at every turn the slots hold the positions of the
lines of the stored text, so that no access, while reading or afterwards, is out of range.
-/

set_option autoImplicit false

namespace ProxyTunnel.Storage

open HeadText

-- What holds of the storage at every turn and when reading is over.
structure Sound (s : Storage) : Prop where
  room : s.size ≤ 1023
  few : s.lines ≤ 32
  plain : 13 ∉ s.stored
  first : s.starts[0]? = some 0
  completed : ∀ i < s.lines, ∃ l, s.line? i = some l ∧ LineAt s.bytes s.size l ∧
    (i + 1 < 32 → s.starts[i + 1]? = some (l.stop + 1))
  opened : s.lines < 32 → ∃ start colon,
    s.starts[s.lines]? = some start ∧ s.colons[s.lines]? = some colon ∧ start ≤ s.size ∧
      10 ∉ slice s.bytes start s.size ∧ ColonAt s.bytes start s.size colon

-- A line that has a slot has its start there, the open line like the completed ones.
theorem start_slot (s : Storage) (p : Bytes) (holds : Holds s (draftOf p)) (i : Nat)
    (within : i ≤ s.lines) (inside : i < 32) : s.starts[i]? = some (lineStart p i) := by
  rcases Nat.lt_or_eq_of_le within with before | last
  · have found := List.getElem?_eq_getElem (holds.lines ▸ before)
    obtain ⟨start, _⟩ := (line_slots s i _).mp (holds.completed i _ found)
    rw [start, (draft_line_at p i _ found).2.1]
  · have opened := (holds.opened (last ▸ inside)).1
    rwa [(draft_open_at p).1, ← lines_count s p holds, ← last] at opened

-- The storage holds a text within the limits, and only the last of its fields may lack a key.
structure Keeps (s : Storage) (p : Bytes) : Prop where
  holds : Holds s (draftOf p)
  room : p.length ≤ 1023
  few : (HeadText.lines p).length ≤ 32
  plain : 13 ∉ p
  keyed : ∀ field ∈ (fields p).dropLast, field.1 ≠ []

theorem keeps_sound (s : Storage) (p : Bytes) (keeps : Keeps s p) : Sound s := by
  have holds := keeps.holds
  have size : s.size = p.length := holds.size
  obtain ⟨more, extended⟩ := bytes_extend s p holds
  refine ⟨size ▸ keeps.room, lines_count s p holds ▸ keeps.few, ?_,
    start_slot s p holds 0 (Nat.zero_le _) (by decide), ?_, ?_⟩
  · rw [show s.stored = p from holds.stored]
    exact keeps.plain
  · intro i inside
    have found := List.getElem?_eq_getElem (holds.lines ▸ inside)
    obtain ⟨here, _, next⟩ := draft_line_at p i _ found
    refine ⟨_, holds.completed i _ found, ?_, fun more => ?_⟩
    · rw [extended, size]
      exact line_at_extended p _ _ here
    · rw [start_slot s p holds (i + 1) inside more, next]
  · intro few
    obtain ⟨start, colon⟩ := holds.opened few
    obtain ⟨_, within, whole, first⟩ := draft_open_at p
    refine ⟨_, _, start, colon, size ▸ within, ?_, ?_⟩
    · rwa [extended, size, slice_extended p more _ _ (Nat.le_refl _)]
    · rw [extended, size]
      exact colon_at_extended p more _ _ _ (Nat.le_refl _) first

theorem quiet_open (p : Bytes) (quiet : (draftOf p).verdict = none) :
    ¬ EndsBlank p ∧ (HeadText.lines p).length < 32 := by
  rw [Draft.verdict, draft_ends_blank] at quiet
  split_ifs at quiet with blank many
  have count : (draftOf p).lines.length = (HeadText.lines p).length := spans_length 0 _
  rw [count, Draft.lineLimit] at many
  exact ⟨by simpa using blank, Nat.lt_of_not_le many⟩

theorem push_lines (p : Bytes) (b : UInt8) : HeadText.lines (p ++ [b]) = HeadText.lines p ∨
    HeadText.lines (p ++ [b]) = HeadText.lines p ++ [openLine p] := by
  by_cases newline : b = 10
  · subst b
    exact .inr (lines_push_newline p)
  · exact .inl (lines_push p b newline)

theorem push_fields (p : Bytes) (b : UInt8) :
    fields (p ++ [b]) = fields p ∨ ∃ field, fields (p ++ [b]) = fields p ++ [field] := by
  rcases push_lines p b with same | more
  · exact .inl (by rw [fields, fields, same])
  · cases done : HeadText.lines p with
    | nil => exact .inl (by simp [fields, more, done])
    | cons first rest =>
        exact .inr ⟨(key (openLine p), value (openLine p)), by simp [fields, more, done]⟩

-- All fields have a key as long as reading goes on.
theorem keyed_open (s : Storage) (p : Bytes) (keeps : Keeps s p) (going : ¬ EndsBlank p) :
    ∀ field ∈ fields p, field.1 ≠ [] := by
  rcases List.eq_nil_or_concat (fields p) with none | ⟨front, last, shape⟩
  · simp [none]
  · rw [List.concat_eq_append] at shape
    have before := keeps.keyed
    rw [EndsBlank, shape, List.getLast?_concat] at going
    rw [shape, List.dropLast_concat] at before
    rw [shape]
    exact List.forall_mem_append.mpr ⟨before, by simpa using going⟩

theorem push_keeps (s : Storage) (p : Bytes) (b : UInt8) (keeps : Keeps s p)
    (quiet : (draftOf p).verdict = none) (room : s.size < 1023) (kept : b ≠ 13) :
    ∃ next, s.push? b = some next ∧ Keeps next (p ++ [b]) := by
  obtain ⟨going, few⟩ := quiet_open p quiet
  have count := lines_count s p keeps.holds
  have size : s.size = p.length := keeps.holds.size
  obtain ⟨next, pushed, holds⟩ := push_holds s _ b keeps.holds room (count ▸ few)
  rw [← draft_push] at holds
  refine ⟨next, pushed, holds, ?_, ?_, ?_, ?_⟩
  · rw [List.length_append, List.length_singleton]
    omega
  · rcases push_lines p b with same | more
    · rw [same]
      exact keeps.few
    · rw [more, List.length_append, List.length_singleton]
      exact few
  · simp [keeps.plain, Ne.symm kept]
  · have keyed := keyed_open s p keeps going
    rcases push_fields p b with same | ⟨field, more⟩
    · rw [same]
      exact keeps.keyed
    · rwa [more, List.dropLast_concat]

theorem turn_silent (s : Storage) (o : ReadOutcome) (goes : passes o = true)
    (silent : text [o] = []) : s.turn? o = some (s, none) := by
  cases o with
  | ended => cases goes
  | failed failure => cases failure <;> first | rfl | cases goes
  | byte b => rw [turn?, if_pos (text_silent b silent)]

theorem turn_halted (s : Storage) (o : ReadOutcome) (halts : passes o = false) :
    s.turn? o = some (s, some (cutoff [o])) := by
  cases o with
  | byte b => cases halts
  | ended => rfl
  | failed failure => cases failure <;> first | rfl | cases halts

theorem turn_kept (s next : Storage) (p : Bytes) (b : UInt8) (kept : b ≠ 13)
    (pushed : s.push? b = some next) (holds : Holds next (draftOf p)) :
    s.turn? (.byte b) = some (next, (draftOf p).verdict) := by
  have blank := ends_blank_reads next p holds
  rw [turn?, if_neg kept, pushed, Draft.verdict, ← holds.lines]
  simp only [Option.bind_eq_bind, Option.bind_some, blank]
  split
  · rfl
  · split <;> rfl

-- Why reading stops with this outcome, if it does.
def stopAfter (p : Bytes) (o : ReadOutcome) : Option Termination :=
  if passes o = true then (draftOf (p ++ text [o])).verdict else some (cutoff [o])

theorem stop_blank (p : Bytes) (o : ReadOutcome) (t : Termination) (going : ¬ EndsBlank p)
    (stop : stopAfter p o = some t) (blank : EndsBlank (p ++ text [o])) : t = .blankLine := by
  by_cases goes : passes o = true
  · rw [stopAfter, if_pos goes, Draft.verdict, draft_ends_blank, decide_eq_true blank] at stop
    exact (Option.some.inj stop).symm
  · rw [text_halted o (Bool.eq_false_iff.mpr goes), List.append_nil] at blank
    exact absurd blank going

theorem stop_quiet (p : Bytes) (o : ReadOutcome) (on : stopAfter p o = none) :
    passes o = true ∧ (draftOf (p ++ text [o])).verdict = none := by
  rw [stopAfter] at on
  split at on
  · rename_i goes
    exact ⟨goes, on⟩
  · cases on

-- One turn: whatever the outcome is, nothing is out of range, and the storage holds the text with
-- what the outcome adds to it.
theorem turn_keeps (s : Storage) (p : Bytes) (o : ReadOutcome) (keeps : Keeps s p)
    (quiet : (draftOf p).verdict = none) (room : s.size < 1023) : ∃ next,
      s.turn? o = some (next, stopAfter p o) ∧ Keeps next (p ++ text [o]) := by
  by_cases goes : passes o = true
  · rw [stopAfter, if_pos goes]
    rcases passing_cases o goes with silent | ⟨b, rfl, kept⟩
    · rw [silent, List.append_nil, quiet]
      exact ⟨s, turn_silent s o goes silent, keeps⟩
    · rw [text_kept b kept]
      obtain ⟨next, pushed, keeps⟩ := push_keeps s p b keeps quiet room kept
      exact ⟨next, turn_kept s next _ b kept pushed keeps.holds, keeps⟩
  · have halts : passes o = false := Bool.eq_false_iff.mpr goes
    rw [stopAfter, if_neg goes, text_halted o halts, List.append_nil]
    exact ⟨s, turn_halted s o halts, keeps⟩

theorem advance_text (p : Bytes) (o : ReadOutcome) (quiet : (draftOf p).verdict = none) :
    advance (draftOf p) o =
      match stopAfter p o with
      | some t => .inl (headOf (p ++ text [o]) t)
      | none => .inr (draftOf (p ++ text [o])) := by
  by_cases goes : passes o = true
  · rw [stopAfter, if_pos goes]
    rcases passing_cases o goes with silent | ⟨b, rfl, kept⟩
    · rw [silent, List.append_nil, quiet]
      exact advance_skipped _ o ((skipped_text o goes).mp silent)
    · rw [text_kept b kept, advance, if_neg kept, draft_push]
      cases ((draftOf p).push b).verdict with
      | some t =>
          have pushed : headOf (p ++ [b]) t = ((draftOf p).push b).finish t :=
            congrArg (Draft.finish · t) (draft_push p b)
          exact congrArg Sum.inl pushed.symm
      | none => rfl
  · have halts : passes o = false := Bool.eq_false_iff.mpr goes
    rw [stopAfter, if_neg goes, text_halted o halts, List.append_nil]
    cases o with
    | byte b => cases halts
    | ended => rfl
    | failed failure => cases failure <;> first | rfl | cases halts

-- From a text on, the storage and the reader come to the same head and leave the same outcomes.
def EndsAlike (s : Storage) (p : Bytes) (outcomes : List ReadOutcome) : Prop := ∃ last t rest q,
  s.read? outcomes = some (last, t, rest) ∧ Keeps last q ∧
    (draftOf p).read outcomes = (headOf q t, rest) ∧ (EndsBlank q → t = .blankLine)

-- The induction is on what there is to read; the text stored so far is one without a verdict.
theorem read_keeps (s : Storage) (p : Bytes) (outcomes : List ReadOutcome) (keeps : Keeps s p)
    (quiet : (draftOf p).verdict = none) : EndsAlike s p outcomes := by
  have size : s.size = (draftOf p).stored.length := keeps.holds.size
  have going := (quiet_open p quiet).1
  have here (t : Termination) (rest : List ReadOutcome)
      (stored : s.read? outcomes = some (s, t, rest))
      (read : (draftOf p).read outcomes = (headOf p t, rest)) : EndsAlike s p outcomes :=
    ⟨s, t, rest, p, stored, keeps, read, fun blank => absurd blank going⟩
  by_cases full : Draft.byteLimit ≤ s.size
  · exact here .bufferFull outcomes (by rw [read?.eq_def, if_pos full])
      (read_full _ _ (size ▸ full))
  · cases outcomes with
    | nil =>
        refine here .endOfStream [] (by rw [read?.eq_def, if_neg full]) ?_
        rw [Draft.read.eq_def, if_neg (size ▸ full)]
        rfl
    | cons o outcomes =>
        obtain ⟨next, turned, kept⟩ := turn_keeps s p o keeps quiet (Nat.lt_of_not_le full)
        rw [EndsAlike, read_advances _ o outcomes (size ▸ full), advance_text p o quiet,
          read?.eq_def, if_neg full]
        simp only [turned]
        cases stop : stopAfter p o with
        | some t => exact ⟨next, t, outcomes, _, rfl, kept, rfl, stop_blank p o t going stop⟩
        | none => exact read_keeps next _ outcomes kept (stop_quiet p o stop).2

theorem empty_keeps : Keeps empty [] := ⟨empty_holds, by decide, by decide, by simp, by simp [fields]⟩

-- Every turn that starts finds the storage of what has been read.
theorem reached_keeps (used : List ReadOutcome) (s : Storage) (reached : Reached used s) :
    Keeps s (text used) ∧ (draftOf (text used)).verdict = none ∧
      ∀ more, Head.read (used ++ more) = (draftOf (text used)).read more := by
  induction reached with
  | start => exact ⟨empty_keeps, rfl, fun _ => rfl⟩
  | @turn used s next o reached room turned ih =>
      obtain ⟨keeps, quiet, read⟩ := ih
      obtain ⟨next', turned', kept⟩ := turn_keeps s _ o keeps quiet room
      obtain ⟨rfl, on⟩ : next = next' ∧ none = stopAfter (text used) o := by
        simpa [turned] using turned'
      have size : s.size = (draftOf (text used)).stored.length := keeps.holds.size
      rw [text_append]
      refine ⟨kept, (stop_quiet _ o on.symm).2, fun more => ?_⟩
      rw [List.append_assoc, read, List.singleton_append,
        read_advances _ o more (size ▸ Nat.not_le_of_lt room), advance_text _ o quiet, ← on]

theorem blank_last (s : Storage) (p : Bytes) (keeps : Keeps s p) (i : Nat) (later : 0 < i)
    (inside : i < s.lines) (blank : s.key? i = some []) : i + 1 = s.lines ∧ EndsBlank p := by
  obtain ⟨field, found, key, _⟩ := slot_field s p keeps.holds i later inside
  have empty : field.1 = [] := Option.some.inj (key.symm.trans blank)
  have count := fields_count s p keeps.holds
  have last : ¬ i - 1 < (fields p).dropLast.length := by
    intro before
    refine keeps.keyed field (List.mem_of_getElem? (i := i - 1) ?_) empty
    rwa [List.getElem?_dropLast, if_pos (by simpa using before)]
  rw [List.length_dropLast] at last
  have final : i - 1 = (fields p).length - 1 := by omega
  refine ⟨by omega, ?_⟩
  rw [EndsBlank, List.getLast?_eq_getElem?, ← final, found, Option.map_some, empty]

theorem headers_kept (s : Storage) (p : Bytes) (t : Termination) (keeps : Keeps s p) :
    (headOf p t).headers.length ≤ 31 ∧ ∀ pair ∈ (headOf p t).headers, pair.1 ≠ [] := by
  rw [head_headers]
  constructor
  · have few := lines_count s p keeps.holds ▸ keeps.few
    have most := List.length_filter_le (fun field => decide (field.1 ≠ [])) (fields p)
    rw [fields_count s p keeps.holds] at most
    omega
  · intro pair member
    simpa using (List.mem_filter.mp member).2

theorem storage_in_range :
    (∀ used s, Reached used s →
      Sound s ∧ s.lines < 32 ∧
        (∀ i, 0 < i → i < s.lines → ∃ key, s.key? i = some key ∧ key ≠ []) ∧
        (∃ t, Head.read used = (s.head t, [])) ∧
        (s.size < 1023 → ∀ o, ∃ next ending, s.turn? o = some (next, ending) ∧ Sound next)) ∧
      ∀ outcomes, ∃ s t rest, empty.read? outcomes = some (s, t, rest) ∧
        Head.read outcomes = (s.head t, rest) ∧ Sound s ∧
        (∀ i, 0 < i → i < s.lines → s.key? i = some [] → i + 1 = s.lines ∧ t = .blankLine) ∧
        (∀ i, i < s.lines → ∃ key value, s.key? i = some key ∧ s.value? i = some value) ∧
        s.headers? = some (s.head t).headers ∧
        (∀ name, s.get? name = some ((s.head t).get? name)) ∧
        s.statusLine? = some (s.head t).statusLine ∧
        (s.head t).headers.length ≤ 31 ∧ ∀ pair ∈ (s.head t).headers, pair.1 ≠ [] := by
  refine ⟨fun used s reached => ?_, fun outcomes => ?_⟩
  · obtain ⟨keeps, quiet, read⟩ := reached_keeps used s reached
    obtain ⟨going, few⟩ := quiet_open _ quiet
    refine ⟨keeps_sound s _ keeps, lines_count s _ keeps.holds ▸ few, ?_, ?_, ?_⟩
    · intro i later inside
      obtain ⟨field, found, key, _⟩ := slot_field s _ keeps.holds i later inside
      exact ⟨field.1, key, keyed_open s _ keeps going field (List.mem_of_getElem? found)⟩
    · have ended := read []
      rw [List.append_nil, Draft.read.eq_def] at ended
      split at ended
      · exact ⟨.bufferFull, ended.trans (by rw [holds_head s _ _ keeps.holds]; rfl)⟩
      · exact ⟨.endOfStream, ended.trans (by rw [holds_head s _ _ keeps.holds]; rfl)⟩
    · intro room o
      obtain ⟨next, turned, kept⟩ := turn_keeps s _ o keeps quiet room
      exact ⟨next, _, turned, keeps_sound next _ kept⟩
  · obtain ⟨s, t, rest, q, stored, keeps, read, blank⟩ :=
      read_keeps empty [] outcomes empty_keeps rfl
    have head := holds_head s q t keeps.holds
    have slots := all_slots_read s q t keeps.holds
    have tail := List.forall₂_drop 1 slots
    rw [← head, List.drop_one, List.drop_one] at tail
    refine ⟨s, t, rest, stored, ?_, keeps_sound s q keeps, ?_, ?_, headers_at s _ _ _ tail,
      fun name => get_reads s _ name tail, head ▸ status_reads s q t keeps.holds,
      head ▸ headers_kept s q t keeps⟩
    · rw [head]
      exact read
    · intro i later inside none
      obtain ⟨last, ends⟩ := blank_last s q keeps i later inside none
      exact ⟨last, blank ends⟩
    · intro i inside
      have found := List.getElem?_eq_getElem (keeps.holds.lines ▸ inside)
      have read := slots_read s q t keeps.holds i _ found
      exact ⟨_, _, read.key, read.value⟩

-- The colon is the last byte of its line.
example : (empty.read? ([79, 10, 75, 58, 10, 10].map .byte)).bind (fun read => read.1.headers?) =
    some [([75], [])] := by decide +kernel

end ProxyTunnel.Storage
