import Mathlib.Data.List.TakeWhile
import ProxyTunnel.Proofs.Text.Digits
import ProxyTunnel.Proofs.Text.LowerCase

/-!
How the name of a variable goes on after a setting: with names after dots and integers in brackets.
Which setting is named, and with which steps, follows from the spelling.
-/

set_option autoImplicit false

namespace ProxyTunnel

namespace Path

-- An integer and the bracket that closes it: digits, perhaps with a minus sign, between gaps.
inductive Bracketed (n : Int) : List Char → Prop where
  | integer (before sign digits after : List Char) (count : Nat)
      (gaps : ∀ c ∈ before ++ after, isGap c = true)
      (signed : sign = [] ∧ n = count ∨ sign = ['-'] ∧ n = -count)
      (counts : Decimal.Counts digits count) (range : -2 ^ 63 ≤ n ∧ n < 2 ^ 63) :
      Bracketed n (before ++ (sign ++ (digits ++ (after ++ [']']))))

-- The grammar of steps.
inductive Spells : List PathStep → List Char → Prop where
  | done : Spells [] []
  | name (cs rest : List Char) (steps : List PathStep) (filled : cs ≠ [])
      (plain : ∀ c ∈ cs, isNameChar c = true) (more : Spells steps rest) :
      Spells (.name (String.ofList cs) :: steps) ('.' :: (cs ++ rest))
  | index (n : Int) (cs rest : List Char) (steps : List PathStep) (bracketed : Bracketed n cs)
      (more : Spells steps rest) : Spells (.index n :: steps) ('[' :: (cs ++ rest))

theorem span_stops (kind : Char → Bool) (cs rest : List Char) (all : ∀ c ∈ cs, kind c = true)
    (stops : ∀ c ∈ rest.head?, kind c = false) :
    (cs ++ rest).takeWhile kind = cs ∧ (cs ++ rest).dropWhile kind = rest := by
  rw [List.takeWhile_append_of_pos all, List.dropWhile_append_of_pos all]
  cases rest with
  | nil => simp
  | cons c rest =>
      have other : ¬ kind c = true := by simp [stops c rfl]
      rw [List.takeWhile_cons_of_neg other, List.dropWhile_cons_of_neg other]
      exact ⟨List.append_nil _, rfl⟩

theorem digit_plain (c : Char) (digit : c.isDigit = true) : isGap c = false ∧ c ≠ '-' := by
  obtain ⟨low, high⟩ := (Decimal.digit_iff c).mp digit
  have least : 48 ≤ c.toNat := UInt32.le_iff_toNat_le.mp low
  have apart (other : Char) (below : other.toNat < 48) : c ≠ other := by
    rintro rfl
    omega
  have blank := apart ' ' (by decide)
  have tab := apart '\t' (by decide)
  exact ⟨by simp [isGap, blank, tab], apart '-' (by decide)⟩

theorem gap_undigit (c : Char) (gap : isGap c = true) : c.isDigit = false := by
  by_contra digit
  rw [(digit_plain c (by simpa using digit)).1] at gap
  cases gap

theorem index_iff (negative : Bool) (digits : List Char) (n : Int)
    (ascii : ∀ c ∈ digits, c.isDigit = true) : indexOf negative digits = .ok n ↔
      ∃ count, Decimal.Counts digits count ∧ n = (if negative then -(count : Int) else count) ∧
        -2 ^ 63 ≤ n ∧ n < 2 ^ 63 := by
  have bound : indexBound = 2 ^ 63 := rfl
  rw [indexOf, bound]
  by_cases empty : digits = []
  · rw [if_pos empty]
    constructor
    · intro given
      cases given
    · rintro ⟨count, counts, _⟩
      exact absurd empty counts.filled
  · rw [if_neg empty]
    have counts : Decimal.Counts digits (Decimal.value digits) :=
      (Decimal.read_iff _ _).mp (by rw [Decimal.read?, if_pos ⟨empty, List.all_eq_true.mpr ascii⟩])
    have same (count : Nat) (other : Decimal.Counts digits count) : Decimal.value digits = count :=
      Decimal.counts_value digits count other
    generalize signed :
      (if negative then -(Decimal.value digits : Int) else Decimal.value digits) = m
    by_cases out : m < -2 ^ 63 ∨ 2 ^ 63 ≤ m
    · rw [if_pos out]
      constructor
      · intro given
        cases given
      · rintro ⟨count, other, rfl, low, high⟩
        rw [same count other] at signed
        omega
    · rw [if_neg out]
      constructor
      · intro given
        cases given
        exact ⟨_, counts, signed.symm, by omega, by omega⟩
      · rintro ⟨count, other, rfl, _⟩
        rw [← signed, same count other]

-- What follows the sign of an integer in brackets.
def closeIndex (negative : Bool) (cs : List Char) : Except PathProblem (Int × List Char) :=
  match indexOf negative (cs.takeWhile Char.isDigit) with
  | .error problem => .error problem
  | .ok n =>
      match (cs.dropWhile Char.isDigit).dropWhile isGap with
      | ']' :: rest => .ok (n, rest)
      | _ => .error .unexpected

theorem split_index (cs : List Char) : splitIndex cs =
    match cs.dropWhile isGap with
    | '-' :: rest => closeIndex true rest
    | rest => closeIndex false rest := by
  rw [splitIndex]
  cases cs.dropWhile isGap with
  | nil => rfl
  | cons c rest =>
      by_cases minus : c = '-'
      · subst minus
        rfl
      · have right : (match c :: rest with
            | '-' :: rest => closeIndex true rest
            | rest => closeIndex false rest) = closeIndex false (c :: rest) := by
          split
          · next same => exact absurd (List.cons.inj same).1 minus
          · rfl
        refine Eq.trans ?_ right.symm
        split
        next negative digits signed =>
          split at signed
          · next same => exact absurd (List.cons.inj same).1 minus
          · cases signed
            rfl

theorem close_index_iff (negative : Bool) (cs rest : List Char) (n : Int) :
    closeIndex negative cs = .ok (n, rest) ↔ ∃ digits after count,
      cs = digits ++ (after ++ ']' :: rest) ∧ (∀ c ∈ after, isGap c = true) ∧
        Decimal.Counts digits count ∧ n = (if negative then -(count : Int) else count) ∧
        -2 ^ 63 ≤ n ∧ n < 2 ^ 63 := by
  constructor
  · intro given
    have ascii : ∀ c ∈ cs.takeWhile Char.isDigit, c.isDigit = true :=
      fun c member => List.mem_takeWhile_imp member
    rw [closeIndex] at given
    split at given
    · cases given
    · next m number =>
        split at given
        · next left closed =>
            cases given
            obtain ⟨count, counts, same, range⟩ := (index_iff _ _ _ ascii).mp number
            refine ⟨_, (cs.dropWhile Char.isDigit).takeWhile isGap, count, ?_,
              fun c member => List.mem_takeWhile_imp member, counts, same, range⟩
            rw [← closed, List.takeWhile_append_dropWhile, List.takeWhile_append_dropWhile]
        · cases given
  · rintro ⟨digits, after, count, rfl, gaps, counts, same, range⟩
    have ascii : ∀ c ∈ digits, c.isDigit = true :=
      fun c member => (Decimal.digit_iff c).mpr (counts.ascii c member)
    have undigit : ∀ c ∈ (after ++ ']' :: rest).head?, c.isDigit = false := by
      cases after with
      | nil => simp
      | cons gap after =>
          intro c first
          cases first
          exact gap_undigit gap (gaps gap List.mem_cons_self)
    obtain ⟨taken, dropped⟩ := span_stops Char.isDigit digits _ ascii undigit
    obtain ⟨_, closed⟩ := span_stops isGap after (']' :: rest) gaps (by simp [isGap])
    rw [closeIndex, taken, dropped, closed,
      (index_iff negative digits n ascii).mpr ⟨count, counts, same, range⟩]
    rfl

theorem split_index_iff (cs rest : List Char) (n : Int) :
    splitIndex cs = .ok (n, rest) ↔ ∃ inner, cs = inner ++ rest ∧ Bracketed n inner := by
  have gaps : ∀ c ∈ cs.takeWhile isGap, isGap c = true :=
    fun c member => List.mem_takeWhile_imp member
  have whole := List.takeWhile_append_dropWhile (p := isGap) (l := cs)
  constructor
  · intro given
    rw [split_index] at given
    split at given
    · next signed tail =>
        obtain ⟨digits, after, count, split, others, counts, same, range⟩ :=
          (close_index_iff _ _ _ _).mp given
        refine ⟨_, ?_, .integer (cs.takeWhile isGap) ['-'] digits after count
          (List.forall_mem_append.mpr ⟨gaps, others⟩) (.inr ⟨rfl, same⟩) counts range⟩
        rw [tail, split] at whole
        simpa using whole.symm
    · obtain ⟨digits, after, count, split, others, counts, same, range⟩ :=
        (close_index_iff _ _ _ _).mp given
      refine ⟨_, ?_, .integer (cs.takeWhile isGap) [] digits after count
        (List.forall_mem_append.mpr ⟨gaps, others⟩) (.inl ⟨rfl, same⟩) counts range⟩
      rw [split] at whole
      simpa using whole.symm
  · rintro ⟨_, rfl, before, sign, digits, after, count, blank, signed, counts, range⟩
    obtain ⟨front, back⟩ := List.forall_mem_append.mp blank
    have closed (negative : Bool) (same : n = if negative then -(count : Int) else count) :=
      (close_index_iff negative (digits ++ (after ++ ']' :: rest)) rest n).mpr
        ⟨digits, after, count, rfl, back, counts, same, range⟩
    obtain ⟨digit, more, rfl⟩ := List.exists_cons_of_ne_nil counts.filled
    obtain ⟨ungap, unsigned⟩ :=
      digit_plain digit ((Decimal.digit_iff digit).mpr (counts.ascii digit List.mem_cons_self))
    rcases signed with ⟨rfl, same⟩ | ⟨rfl, same⟩
    · obtain ⟨_, dropped⟩ := span_stops isGap before ((digit :: more) ++ (after ++ ']' :: rest))
        front (by simpa using ungap)
      have spelled : before ++ ([] ++ ((digit :: more) ++ (after ++ [']']))) ++ rest =
          before ++ ((digit :: more) ++ (after ++ ']' :: rest)) := by simp
      rw [split_index, spelled, dropped]
      split
      · next clash => exact absurd (List.cons.inj clash).1 unsigned
      · exact closed false same
    · obtain ⟨_, dropped⟩ := span_stops isGap before
        ('-' :: ((digit :: more) ++ (after ++ ']' :: rest))) front (by simp [isGap])
      have spelled : before ++ (['-'] ++ ((digit :: more) ++ (after ++ [']']))) ++ rest =
          before ++ '-' :: ((digit :: more) ++ (after ++ ']' :: rest)) := by simp
      rw [split_index, spelled, dropped]
      exact closed true same

-- Steps start with a mark that no name contains.
theorem spells_marked (steps : List PathStep) (rest : List Char) (spells : Spells steps rest) :
    ∀ c ∈ rest.head?, isNameChar c = false := by
  cases spells with
  | done => simp
  | name | index =>
      intro c first
      cases first
      decide

theorem step_unmarked (c : Char) (cs : List Char) (dot : c ≠ '.') (bracket : c ≠ '[') :
    splitStep (c :: cs) = .error .unexpected := by
  rw [splitStep.eq_def]
  split
  · next same => exact absurd (List.cons.inj same).1 dot
  · next same => exact absurd (List.cons.inj same).1 bracket
  · rfl

theorem split_step_iff (mark : Char) (cs rest : List Char) (step : PathStep) :
    splitStep (mark :: cs) = .ok (step, rest) ↔
      (mark = '.' ∧ ∃ name, splitName cs = (name, rest) ∧ name ≠ [] ∧
        step = .name (String.ofList name)) ∨
      (mark = '[' ∧ ∃ n, splitIndex cs = .ok (n, rest) ∧ step = .index n) := by
  by_cases dot : mark = '.'
  · subst dot
    have other : ¬ '.' = '[' := by decide
    rw [splitStep]
    rcases split : splitName cs with ⟨_ | ⟨c, name⟩, left⟩
    · simp
    · constructor
      · intro given
        cases given
        exact .inl ⟨rfl, _, rfl, List.cons_ne_nil _ _, rfl⟩
      · rintro (⟨_, _, same, _, rfl⟩ | ⟨clash, _⟩)
        · cases same
          rfl
        · exact absurd clash other
  · by_cases bracket : mark = '['
    · subst bracket
      rw [splitStep]
      cases split : splitIndex cs with
      | error problem => simp [dot]
      | ok result =>
          constructor
          · intro given
            cases given
            exact .inr ⟨rfl, _, rfl, rfl⟩
          · rintro (⟨clash, _⟩ | ⟨_, _, same, rfl⟩)
            · exact absurd clash dot
            · cases same
              rfl
    · rw [step_unmarked mark cs dot bracket]
      simp [dot, bracket]

theorem split_name_iff (cs name rest : List Char) : splitName cs = (name, rest) ↔
    cs = name ++ rest ∧ (∀ c ∈ name, isNameChar c = true) ∧
      ∀ c ∈ rest.head?, isNameChar c = false := by
  constructor
  · intro split
    obtain ⟨rfl, rfl⟩ := Prod.mk.inj split
    refine ⟨List.takeWhile_append_dropWhile.symm, fun c member => List.mem_takeWhile_imp member, ?_⟩
    intro c first
    have stopped := List.head?_dropWhile_not isNameChar cs
    rw [Option.mem_def.mp first] at stopped
    exact stopped
  · rintro ⟨rfl, plain, stops⟩
    obtain ⟨taken, dropped⟩ := span_stops isNameChar name rest plain stops
    rw [splitName, taken, dropped]

theorem spells_none (steps : List PathStep) : Spells steps [] ↔ steps = [] := by
  constructor
  · rintro ⟨⟩
    rfl
  · rintro rfl
    exact .done

-- By induction on what is left to read: a step leaves less of it.
theorem steps_iff (fuel : Nat) (cs : List Char) (steps : List PathStep)
    (enough : cs.length ≤ fuel) : readSteps fuel cs = .ok steps ↔ Spells steps cs := by
  induction fuel generalizing cs steps with
  | zero =>
      rw [List.eq_nil_of_length_eq_zero (Nat.le_zero.mp enough), readSteps, spells_none,
        Except.ok.injEq, eq_comm]
  | succ fuel ih =>
      cases cs with
      | nil => rw [readSteps, spells_none, Except.ok.injEq, eq_comm]
      | cons mark cs =>
          have within : cs.length ≤ fuel := Nat.le_of_succ_le_succ enough
          have shorter (front rest : List Char) (split : cs = front ++ rest) :
              rest.length ≤ fuel := by
            rw [split, List.length_append] at within
            omega
          constructor
          · intro given
            rw [readSteps] at given
            split at given
            · cases given
            · next step rest taken =>
                cases read : readSteps fuel rest with
                | error problem =>
                    rw [read] at given
                    cases given
                | ok more =>
                    rw [read] at given
                    cases given
                    rcases (split_step_iff mark cs rest step).mp taken with
                      ⟨rfl, name, named, filled, rfl⟩ | ⟨rfl, n, bracketed, rfl⟩
                    · obtain ⟨split, plain, _⟩ := (split_name_iff cs name rest).mp named
                      rw [split]
                      exact .name name rest more filled plain
                        ((ih rest more (shorter _ _ split)).mp read)
                    · obtain ⟨inner, split, closed⟩ := (split_index_iff cs rest n).mp bracketed
                      rw [split]
                      exact .index n inner rest more closed
                        ((ih rest more (shorter _ _ split)).mp read)
          · intro spells
            cases spells with
            | name name rest more filled plain spells =>
                have taken := (split_step_iff '.' (name ++ rest) rest _).mpr
                  (.inl ⟨rfl, name, (split_name_iff _ _ _).mpr
                    ⟨rfl, plain, spells_marked more rest spells⟩, filled, rfl⟩)
                simp only [readSteps, taken, (ih rest more (shorter _ _ rfl)).mpr spells]
                rfl
            | index n inner rest more bracketed spells =>
                have taken := (split_step_iff '[' (inner ++ rest) rest _).mpr
                  (.inr ⟨rfl, n, (split_index_iff _ _ _).mpr ⟨inner, rfl, bracketed⟩, rfl⟩)
                simp only [readSteps, taken, (ih rest more (shorter _ _ rfl)).mpr spells]
                rfl

theorem path_iff (text : String) (path : Path) : read text = .ok path ↔
    ∃ rest, text.toList = path.root.toList ++ rest ∧ path.root.toList ≠ [] ∧
      (∀ c ∈ path.root.toList, isNameChar c = true) ∧ Spells path.steps rest := by
  rw [read]
  constructor
  · intro given
    split at given
    · cases given
    · next name rest filled split =>
        obtain ⟨whole, plain, _⟩ := (split_name_iff _ _ _).mp split
        cases steps : readSteps rest.length rest with
        | error problem =>
            rw [steps] at given
            cases given
        | ok more =>
            rw [steps] at given
            cases given
            have spells := (steps_iff _ _ _ (Nat.le_refl _)).mp steps
            refine ⟨rest, ?_, ?_, ?_, spells⟩
            · rw [whole, String.toList_ofList]
            · rw [String.toList_ofList]
              exact fun empty => filled empty
            · rwa [String.toList_ofList]
  · rintro ⟨rest, whole, filled, plain, spells⟩
    have split := (split_name_iff text.toList path.root.toList rest).mpr
      ⟨whole, plain, spells_marked _ _ spells⟩
    have steps := (steps_iff rest.length rest path.steps (Nat.le_refl _)).mpr spells
    rw [split]
    split
    · next empty => exact absurd (Prod.mk.inj empty).1 filled
    · next same =>
        cases same
        rw [steps, String.ofList_toList]
        rfl

-- The names of settings are plain, and in lower case.
structure Plain (key : String) : Prop where
  filled : key.toList ≠ []
  plain : ∀ c ∈ key.toList, isNameChar c = true
  low : Text.lower key = key

theorem setting_steps_iff (key setting : String) (plain : Plain key)
    (low : Text.lower setting = setting) (steps : List PathStep) :
    Text.lower (readLeniently setting).root = key ∧ (readLeniently setting).steps = steps ↔
      ∃ rest, setting = key ++ String.ofList rest ∧ Spells steps rest := by
  constructor
  · rintro ⟨rfl, rfl⟩
    cases given : read setting with
    | error problem =>
        rw [readLeniently, given]
        exact ⟨[], by rw [low]; exact (String.append_empty).symm, .done⟩
    | ok path =>
        obtain ⟨rest, whole, _, _, spells⟩ := (path_iff setting path).mp given
        rw [readLeniently, given]
        refine ⟨rest, ?_, spells⟩
        have kept : Text.lower path.root = path.root := by
          rw [Text.lower_kept_iff] at low ⊢
          intro c member
          exact low c (whole ▸ List.mem_append_left _ member)
        rw [kept, ← String.toList_inj, String.toList_append, String.toList_ofList, whole]
  · rintro ⟨rest, rfl, spells⟩
    have given : read (key ++ String.ofList rest) = .ok ⟨key, steps⟩ := by
      refine (path_iff _ _).mpr ⟨rest, ?_, plain.filled, plain.plain, spells⟩
      rw [String.toList_append, String.toList_ofList]
    rw [readLeniently, given]
    exact ⟨plain.low, rfl⟩

end Path

end ProxyTunnel
