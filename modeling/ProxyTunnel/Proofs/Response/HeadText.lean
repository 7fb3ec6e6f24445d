import Mathlib.Data.List.Induction
import ProxyTunnel.Proxy.Response

/-!
A response head as plain text: its lines are what stands between newlines, a key is what stands
before the first colon of a line, and a head is complete at the first verdict. Nothing here keeps a
position, a span or a limit on what is held.
-/

set_option autoImplicit false

namespace ProxyTunnel.HeadText

-- The lines that a newline has completed; the line after the last newline is still open.
def lines (s : Bytes) : List Bytes := (s.splitOn 10).dropLast

def openLine (s : Bytes) : Bytes := (s.splitOn 10).getLast (List.splitOn_ne_nil 10 s)

def key (line : Bytes) : Bytes := line.takeWhile (· ≠ 58)

-- The colon and one byte behind it, a blank as a rule, belong neither to the key nor to the value.
def value (line : Bytes) : Bytes := (line.dropWhile (· ≠ 58)).drop 2

-- The first line is the status line, whatever it looks like.
def fields (s : Bytes) : List (Bytes × Bytes) :=
  (lines s).tail.map fun line => (key line, value line)

def EndsBlank (s : Bytes) : Prop := (fields s).getLast?.map Prod.fst = some []

instance (s : Bytes) : Decidable (EndsBlank s) := by unfold EndsBlank; infer_instance

-- The text of completed lines.
def spell (done : List Bytes) : Bytes := done.flatMap (· ++ [10])

-- Why nothing more is read once the text is `s`. The order matters where one byte brings about
-- several of the reasons.
def verdict (s : Bytes) : Option Termination :=
  if EndsBlank s then some .blankLine
  else if 32 ≤ s.count 10 then some .headerLimit
  else if 1023 ≤ s.length then some .bufferFull
  else none

-- Outcomes that reading goes on after.
def passes : ReadOutcome → Bool
  | .byte _ | .failed .interrupted => true
  | .ended | .failed _ => false

-- The bytes that reads deliver before the end of the stream or a failure that is no interruption.
def delivered (outcomes : List ReadOutcome) : Bytes :=
  (outcomes.takeWhile passes).filterMap ReadOutcome.byte?

-- What comes after the delivered bytes.
def cutoff (outcomes : List ReadOutcome) : Termination :=
  match outcomes.find? (!passes ·) with
  | some (.failed failure) => .readError failure
  | _ => .endOfStream

def withoutReturns (bytes : Bytes) : Bytes := bytes.filter (· ≠ 13)

-- The text of a run of outcomes, failures among them disregarded.
def text (outcomes : List ReadOutcome) : Bytes :=
  withoutReturns (outcomes.filterMap ReadOutcome.byte?)

theorem split_push (s : Bytes) (b : UInt8) (other : b ≠ 10) :
    (s ++ [b]).splitOn 10 = (s.splitOn 10).dropLast ++ [openLine s ++ [b]] := by
  have cut : (b == 10) = false := beq_eq_false_iff_ne.mpr other
  unfold openLine
  induction s with
  | nil => simp [List.splitOn_cons_eq_if_modifyHead, cut]
  | cons a s ih =>
      obtain ⟨line, rest, split⟩ := List.exists_cons_of_ne_nil (List.splitOn_ne_nil 10 s)
      by_cases newline : a = 10
      · subst a
        simp only [List.cons_append, List.splitOn_cons_eq_if_modifyHead, beq_self_eq_true,
          if_true, ih]
        simp [split]
      · have keep : (a == 10) = false := beq_eq_false_iff_ne.mpr newline
        simp only [List.cons_append, List.splitOn_cons_eq_if_modifyHead, keep, Bool.false_eq_true,
          if_false, ih]
        cases rest with
        | nil => simp [split]
        | cons next rest => simp [split]

@[simp] theorem lines_nil : lines [] = [] := rfl

@[simp] theorem open_line_nil : openLine [] = [] := rfl

@[simp] theorem lines_push_newline (s : Bytes) : lines (s ++ [10]) = lines s ++ [openLine s] := by
  rw [lines, List.splitOn_append_cons_self]
  simp [lines, openLine, List.dropLast_concat_getLast]

@[simp] theorem open_line_push_newline (s : Bytes) : openLine (s ++ [10]) = [] := by
  have split : (s ++ [10]).splitOn 10 = s.splitOn 10 ++ [[]] := List.splitOn_append_cons_self s []
  simp only [openLine, split, List.getLast_concat]

theorem lines_push (s : Bytes) (b : UInt8) (other : b ≠ 10) : lines (s ++ [b]) = lines s := by
  simp [lines, split_push s b other]

theorem open_line_push (s : Bytes) (b : UInt8) (other : b ≠ 10) :
    openLine (s ++ [b]) = openLine s ++ [b] := by
  have split := split_push s b other
  simp only [openLine] at split ⊢
  simp only [split, List.getLast_concat]

theorem lines_length (s : Bytes) : (lines s).length = s.count 10 := by
  induction s using List.reverseRecOn with
  | nil => rfl
  | append_singleton s b ih =>
      by_cases newline : b = 10
      · subst b
        simp [ih]
      · simp [lines_push s b newline, ih, newline]

theorem lines_prefix (p s : Bytes) (part : p <+: s) : lines p <+: lines s := by
  obtain ⟨more, rfl⟩ := part
  induction more using List.reverseRecOn with
  | nil => simp
  | append_singleton more b ih =>
      rw [← List.append_assoc]
      by_cases newline : b = 10
      · subst b
        rw [lines_push_newline]
        exact ih.trans (List.prefix_append _ _)
      · rwa [lines_push _ b newline]

theorem spell_cons (line : Bytes) (done : List Bytes) :
    spell (line :: done) = line ++ [10] ++ spell done := by
  rw [spell, List.flatMap_cons]
  rfl

theorem spell_snoc (done : List Bytes) (line : Bytes) :
    spell (done ++ [line]) = spell done ++ line ++ [10] := by
  rw [spell, List.flatMap_append, List.flatMap_singleton, ← List.append_assoc]
  rfl

theorem lines_spell (s : Bytes) : spell (lines s) ++ openLine s = s := by
  induction s using List.reverseRecOn with
  | nil => rfl
  | append_singleton s b ih =>
      by_cases newline : b = 10
      · subst b
        rw [lines_push_newline, open_line_push_newline, spell_snoc, List.append_nil, ih]
      · rw [lines_push s b newline, open_line_push s b newline, ← List.append_assoc, ih]

end ProxyTunnel.HeadText
