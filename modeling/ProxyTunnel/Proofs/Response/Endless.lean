import ProxyTunnel.Proofs.Response.StillOpen

/-!
Readers that can be asked for ever. Of the bytes that are read only those count against the room of
a head that are stored, so what reading takes is bounded but for carriage returns, and it goes on
for as long as nothing else comes.
-/

set_option autoImplicit false

namespace ProxyTunnel.HeadText

-- What each read comes to, one after another without end.
abbrev Reader := Nat → ReadOutcome

namespace Reader

def first (r : Reader) (n : Nat) : List ReadOutcome := (List.range n).map r

-- Reading a head off this reader makes this many reads and is over.
def Ends (r : Reader) (n : Nat) (head : Head) : Prop := Ended (r.first n) head

end Reader

-- What is read without being stored.
def Skipped (o : ReadOutcome) : Prop := o = .byte 13 ∨ o = .failed .interrupted

theorem first_length (r : Reader) (n : Nat) : (r.first n).length = n := by
  rw [Reader.first, List.length_map, List.length_range]

theorem first_succ (r : Reader) (n : Nat) : r.first (n + 1) = r.first n ++ [r n] := by
  rw [Reader.first, List.range_succ, List.map_append]
  rfl

theorem first_add (r : Reader) (n more : Nat) : r.first n <+: r.first (n + more) := by
  induction more with
  | zero => exact List.prefix_refl _
  | succ more ih =>
      rw [← Nat.add_assoc, first_succ]
      exact ih.trans (List.prefix_append _ _)

theorem first_part (r : Reader) (n : Nat) (used rest : List ReadOutcome)
    (split : r.first n = used ++ rest) : used.length ≤ n ∧ used = r.first used.length := by
  have lengths := congrArg List.length split
  rw [first_length, List.length_append] at lengths
  obtain ⟨more, rfl⟩ := Nat.exists_eq_add_of_le (show used.length ≤ n by omega)
  refine ⟨by omega, ?_⟩
  have part : r.first used.length <+: used ++ rest := split ▸ first_add r used.length more
  have same := List.prefix_of_prefix_length_le part (List.prefix_append used rest)
    (Nat.le_of_eq (first_length r _))
  exact (same.eq_of_length (first_length r _)).symm

theorem first_open_or_ends (r : Reader) (n : Nat) :
    Open (r.first n) ∨ ∃ m head, m ≤ n ∧ r.Ends m head := by
  rcases open_or_ended (r.first n) with opened | ⟨used, rest, head, split, ended⟩
  · exact .inl opened
  · obtain ⟨few, same⟩ := first_part r n used rest split
    refine .inr ⟨used.length, head, few, ?_⟩
    rw [Reader.Ends, ← same]
    exact ended

theorem never_ends_iff (r : Reader) :
    (∀ n head, ¬ r.Ends n head) ↔ ∀ n, Open (r.first n) := by
  constructor
  · intro never n
    rcases first_open_or_ends r n with opened | ⟨m, head, _, ends⟩
    · exact opened
    · exact absurd ends (never m head)
  · intro opened n head
    exact open_unended _ head (opened n)

theorem skipped_text (o : ReadOutcome) (goes : passes o = true) : text [o] = [] ↔ Skipped o := by
  cases o with
  | ended => cases goes
  | failed failure =>
      cases failure with
      | interrupted => exact ⟨fun _ => .inr rfl, fun _ => rfl⟩
      | _ => cases goes
  | byte b =>
      by_cases dropped : b = 13
      · subst b
        exact ⟨fun _ => .inl rfl, fun _ => rfl⟩
      · simp [Skipped, text_kept b dropped, dropped]

theorem open_skips (part : List ReadOutcome) (o : ReadOutcome) (opened : Open part)
    (skipped : Skipped o) : Open (part ++ [o]) := by
  have goes : passes o = true := by rcases skipped with rfl | rfl <;> rfl
  refine open_snoc part o opened goes ?_
  rw [text_append, (skipped_text o goes).mpr skipped, List.append_nil]
  exact opened.2 _ (List.prefix_refl _)

theorem open_length (outcomes : List ReadOutcome) (opened : Open outcomes) :
    (text outcomes).length < 1023 :=
  verdict_none_length _ (opened.2 _ (List.prefix_refl _))

-- There is room for a limited number of bytes; the induction is on what is left of it.
theorem open_settles (r : Reader) (opened : ∀ n, Open (r.first n)) (room n : Nat)
    (left : 1023 ≤ (text (r.first n)).length + room) : ∃ n, ∀ m, n ≤ m → Skipped (r m) := by
  induction room generalizing n with
  | zero =>
      have short := open_length _ (opened n)
      omega
  | succ room ih =>
      by_cases settled : ∀ m, n ≤ m → Skipped (r m)
      · exact ⟨n, settled⟩
      · push Not at settled
        obtain ⟨m, later, kept⟩ := settled
        obtain ⟨more, rfl⟩ := Nat.exists_eq_add_of_le later
        have goes : passes (r (n + more)) = true := by
          have passing := (opened (n + more + 1)).1
          rw [first_succ] at passing
          exact passing _ (by simp)
        have stored : 0 < (text [r (n + more)]).length :=
          List.length_pos_iff.mpr (mt (skipped_text _ goes).mp kept)
        obtain ⟨between, grown⟩ := first_add r n more
        refine ih (n + more + 1) ?_
        rw [first_succ, ← grown, text_append, text_append, List.length_append, List.length_append]
        omega

theorem byte_stored (o : ReadOutcome) :
    bytesAmong [o] = (text [o]).length + [o].count (.byte 13) := by
  cases o with
  | ended => rfl
  | failed failure => rfl
  | byte b =>
      by_cases dropped : b = 13
      · subst b
        rfl
      · rw [text_kept b dropped]
        simp [bytesAmong, dropped]

theorem course_length (used rest : List ReadOutcome) (t : Termination)
    (course : Course [] used rest t) : (text used).length ≤ 1023 := by
  rcases List.eq_nil_or_concat used with rfl | ⟨part, o, rfl⟩
  · simp
  · rw [List.concat_eq_append] at course ⊢
    have short := verdict_none_length _ (course.going part [o] rfl (by simp)).2
    have one : (text [o]).length ≤ 1 := by
      have read := byte_stored o
      have most : bytesAmong [o] ≤ 1 := List.countP_le_length
      omega
    rw [List.nil_append] at short
    rw [text_append, List.length_append]
    omega

theorem bytes_stored (outcomes : List ReadOutcome) :
    bytesAmong outcomes = (text outcomes).length + outcomes.count (.byte 13) := by
  induction outcomes with
  | nil => rfl
  | cons o outcomes ih =>
      have first := byte_stored o
      have bytes : bytesAmong ([o] ++ outcomes) = bytesAmong [o] + bytesAmong outcomes :=
        List.countP_append
      have returns : ([o] ++ outcomes).count (.byte 13) =
          [o].count (.byte 13) + outcomes.count (.byte 13) := List.count_append
      rw [List.singleton_append] at bytes returns
      rw [bytes, returns, text_cons, List.length_append]
      omega

theorem ends_bounded (r : Reader) (n : Nat) (head : Head) (ends : r.Ends n head) :
    head.size ≤ 1023 ∧ bytesAmong (r.first n) = head.size + (r.first n).count (.byte 13) := by
  obtain ⟨used, rest, t, split, read, course⟩ := read_course (r.first n) [] (by decide)
  change Head.read _ = _ at read
  have finished := ends []
  rw [List.append_nil, read, Prod.mk.injEq] at finished
  obtain ⟨rfl, rfl⟩ := finished
  rw [List.append_nil] at split
  rw [split, bytes_stored]
  exact ⟨course_length used [] t course, rfl⟩

theorem reading_bounded (r : Reader) :
    (∀ n head, r.Ends n head →
      head.size ≤ 1023 ∧ bytesAmong (r.first n) = head.size + (r.first n).count (.byte 13)) ∧
    (∀ n, 1023 ≤ (text (r.first n)).length → ∃ m head, m ≤ n ∧ r.Ends m head) ∧
    ((∀ n head, ¬ r.Ends n head) ↔
      ∃ n, Open (r.first n) ∧ ∀ m, n ≤ m → r m = .byte 13 ∨ r m = .failed .interrupted) := by
  refine ⟨ends_bounded r, fun n full => ?_, ?_⟩
  · rcases first_open_or_ends r n with opened | ends
    · exact absurd (open_length _ opened) (Nat.not_lt.mpr full)
    · exact ends
  · rw [never_ends_iff]
    constructor
    · intro opened
      obtain ⟨n, settled⟩ := open_settles r opened 1023 0 (Nat.le_add_left _ _)
      exact ⟨n, opened n, settled⟩
    · rintro ⟨n, opened, settled⟩ m
      rcases Nat.le_total m n with early | late
      · obtain ⟨more, rfl⟩ := Nat.exists_eq_add_of_le early
        obtain ⟨between, grown⟩ := first_add r m more
        exact open_part _ between (grown ▸ opened)
      · induction m, late using Nat.le_induction with
        | base => exact opened
        | succ m later ih =>
            rw [first_succ]
            exact open_skips _ _ ih (settled m later)

theorem read_returns (n : Nat) (more : List ReadOutcome) :
    Head.read (List.replicate n (.byte 13) ++ more) = Head.read more := by
  induction n with
  | zero => rfl
  | succ n ih =>
      rw [List.replicate_succ, List.cons_append, ← ih]
      exact read_silent [] (.byte 13) _ (by decide) rfl rfl

-- A reader that gives nothing but carriage returns is read for ever, and before a head that takes
-- two bytes any number of them is taken.
theorem returns_never_fill :
    (∀ n head, ¬ Reader.Ends (fun _ => .byte 13) n head) ∧
      taken (List.replicate 2000 13 ++ [10, 10]) = 2002 := by
  constructor
  · refine (never_ends_iff _).mpr fun n => ?_
    induction n with
    | zero => decide
    | succ n ih =>
        rw [first_succ]
        exact open_skips _ _ ih (.inl rfl)
  · have rest : (Head.read ([10, 10].map .byte)).2 = [] := by decide
    rw [taken, List.map_append, List.map_replicate, read_returns, rest, List.length_append,
      List.length_replicate]
    rfl

end ProxyTunnel.HeadText
