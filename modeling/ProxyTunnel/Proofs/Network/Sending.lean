import Mathlib.Algebra.Ring.Nat
import ProxyTunnel.Network.Outbound

/-!
When sending fails and why: sends go on as long as each takes something or is only interrupted, and
the first one that does neither gives the cause, unless everything has been taken before it.
-/

set_option autoImplicit false

namespace ProxyTunnel

-- The cause for which a send fails for good. One that takes nothing finds nobody who reads.
def SendOutcome.failure? : SendOutcome → Option Errno
  | .taken 0 => some .EPIPE
  | .taken (_ + 1) => none
  | .refused .EINTR => none
  | .refused cause => some cause

theorem SendOutcome.refused_fails (cause : Errno) (lasting : cause ≠ .EINTR) :
    (refused cause).failure? = some cause := by
  rw [failure?]
  exact lasting

theorem SendOutcome.failure_lasts (outcome : SendOutcome) (cause : Errno)
    (failed : outcome.failure? = some cause) : cause ≠ .EINTR := by
  cases outcome with
  | taken count =>
      cases count with
      | zero =>
          obtain rfl : Errno.EPIPE = cause := Option.some.inj failed
          decide
      | succ count => cases failed
  | refused other =>
      by_cases interrupted : other = .EINTR
      · rw [interrupted] at failed
        cases failed
      · rw [refused_fails other interrupted] at failed
        exact Option.some.inj failed ▸ interrupted

def SendOutcome.progress : SendOutcome → Nat
  | .taken count => count
  | .refused _ => 0

-- Sending so many bytes fails for this cause.
def Outbound.Fails (o : Outbound) (size : Nat) (cause : Errno) : Prop :=
  ∃ before, (∀ s ∈ before, s.failure? = none) ∧ (before.map (·.progress)).sum < size ∧
    ((∃ last rest, o.outcomes = before ++ last :: rest ∧ last.failure? = some cause) ∨
      (o.outcomes = before ∧ o.standing = some cause))

namespace Outbound

theorem fails_nothing (o : Outbound) (cause : Errno) : ¬ o.Fails 0 cause := by
  rintro ⟨before, _, less, _⟩
  exact Nat.not_lt_zero _ less

-- Where nothing is refused, all is taken at once.
theorem fails_never (size : Nat) (cause : Errno) : ¬ Outbound.Fails ⟨[], none⟩ size cause := by
  rintro ⟨before, _, _, ⟨last, rest, split, _⟩ | ⟨_, refuses⟩⟩
  · simp at split
  · cases refuses

theorem fails_standing (standing : Option Errno) (size : Nat) (cause : Errno) :
    Outbound.Fails ⟨[], standing⟩ (size + 1) cause ↔ standing = some cause := by
  constructor
  · rintro ⟨before, _, _, ⟨last, rest, split, _⟩ | ⟨_, held⟩⟩
    · simp at split
    · exact held
  · intro held
    exact ⟨[], by simp, by simp, .inr ⟨rfl, held⟩⟩

theorem fails_first (first : SendOutcome) (rest : List SendOutcome) (standing : Option Errno)
    (size : Nat) (cause other : Errno) (failed : first.failure? = some other) :
    Outbound.Fails ⟨first :: rest, standing⟩ (size + 1) cause ↔ other = cause := by
  constructor
  · rintro ⟨before, going, _, ⟨last, more, split, found⟩ | ⟨split, _⟩⟩
    · cases before with
      | nil =>
          obtain ⟨rfl, rfl⟩ : first = last ∧ rest = more := by simpa using split
          exact Option.some.inj (failed.symm.trans found)
      | cons second before =>
          obtain ⟨rfl, _⟩ : first = second ∧ rest = before ++ last :: more := by simpa using split
          rw [going first (by simp)] at failed
          cases failed
    · rw [← split] at going
      rw [going first (by simp)] at failed
      cases failed
  · rintro rfl
    exact ⟨[], by simp, by simp, .inl ⟨first, rest, rfl, failed⟩⟩

-- What a send takes that goes on is taken off what the later ones have to take.
theorem fails_later (first : SendOutcome) (rest : List SendOutcome) (standing : Option Errno)
    (size : Nat) (cause : Errno) (going : first.failure? = none) :
    Outbound.Fails ⟨first :: rest, standing⟩ size cause ↔
      Outbound.Fails ⟨rest, standing⟩ (size - first.progress) cause := by
  constructor
  · rintro ⟨before, passing, less, ends⟩
    have head : ∃ before', before = first :: before' := by
      rcases ends with ⟨last, more, split, found⟩ | ⟨split, _⟩
      · cases before with
        | nil =>
            obtain ⟨rfl, _⟩ : first = last ∧ rest = more := by simpa using split
            rw [going] at found
            cases found
        | cons second before =>
            obtain ⟨rfl, _⟩ : first = second ∧ rest = before ++ last :: more := by simpa using split
            exact ⟨before, rfl⟩
      · exact ⟨rest, split.symm⟩
    obtain ⟨before, rfl⟩ := head
    obtain ⟨_, passing⟩ := List.forall_mem_cons.mp passing
    rw [List.map_cons, List.sum_cons] at less
    refine ⟨before, passing, by omega, ?_⟩
    simpa using ends
  · rintro ⟨before, passing, less, ends⟩
    refine ⟨first :: before, List.forall_mem_cons.mpr ⟨going, passing⟩, ?_, by simpa using ends⟩
    rw [List.map_cons, List.sum_cons]
    omega

end Outbound

theorem transmit_fails_iff (standing : Option Errno) (outcomes : List SendOutcome) (bytes : Bytes)
    (cause : Errno) : (transmit standing outcomes bytes).failure = some cause ↔
      Outbound.Fails ⟨outcomes, standing⟩ bytes.length cause := by
  fun_induction transmit standing outcomes bytes with
  | case1 outcomes => simpa using Outbound.fails_nothing ⟨outcomes, standing⟩ cause
  | case2 b bytes unlimited => rw [List.length_cons, Outbound.fails_standing, unlimited]
  | case3 b bytes refusal refuses =>
      rw [List.length_cons, Outbound.fails_standing, refuses]
  | case4 rest b bytes =>
      rw [List.length_cons, Outbound.fails_first _ rest standing _ cause .EPIPE rfl,
        Option.some.injEq]
  | case5 n rest b bytes t ih =>
      have left : (b :: bytes).length - (SendOutcome.taken (n + 1)).progress =
          (bytes.drop n).length := by
        rw [List.length_cons, List.length_drop]
        exact Nat.add_sub_add_right _ _ _
      rw [Outbound.fails_later _ rest standing _ cause rfl, left]
      exact ih
  | case6 rest b bytes ih =>
      rw [Outbound.fails_later _ rest standing _ cause rfl]
      exact ih
  | case7 refusal rest b bytes final =>
      rw [List.length_cons, Outbound.fails_first _ rest standing _ cause refusal
        (SendOutcome.refused_fails refusal final), Option.some.injEq]

-- What is taken is the first part of what there is to send, and all of it unless a send fails.
theorem transmit_takes (standing : Option Errno) (outcomes : List SendOutcome) (bytes : Bytes) :
    ∃ left, (transmit standing outcomes bytes).taken ++ left = bytes ∧
      ((transmit standing outcomes bytes).failure = none ↔ left = []) := by
  fun_induction transmit standing outcomes bytes with
  | case1 outcomes => exact ⟨[], rfl, by simp⟩
  | case2 b bytes unlimited => exact ⟨[], by simp, by simp⟩
  | case3 b bytes refusal refuses => exact ⟨b :: bytes, rfl, by simp⟩
  | case4 rest b bytes => exact ⟨b :: bytes, rfl, by simp⟩
  | case5 n rest b bytes t ih =>
      obtain ⟨left, split, whole⟩ := ih
      refine ⟨left, ?_, whole⟩
      rw [List.append_assoc, split, List.cons_append, List.take_append_drop]
  | case6 rest b bytes ih => exact ih
  | case7 refusal rest b bytes final => exact ⟨b :: bytes, rfl, by simp⟩

end ProxyTunnel
