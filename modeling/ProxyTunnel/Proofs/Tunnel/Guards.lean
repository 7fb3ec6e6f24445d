import Mathlib.Logic.Function.Basic
import Mathlib.Logic.Relation
import ProxyTunnel.Proofs.Tunnel.Guard

/-!
Several guards on one descriptor, whose native calls are made in any order. Each puts back what it
found, which may be what another has left; all the same no flag is lost once they are gone.
-/

set_option autoImplicit false

namespace ProxyTunnel

namespace BlockingGuard

open StatusFlags

-- How far a guard has come: it has found the non-blocking flag set, it is in force, it is gone.
inductive Stage where
  | unborn
  | looked (saved : StatusFlags)
  | alive (saved : StatusFlags)
  | dropped
deriving DecidableEq

def Stage.Idle (s : Stage) : Prop := s = .unborn ∨ s = .dropped

@[simp] theorem idle_dropped : Stage.Idle .dropped := .inr rfl

@[simp] theorem looked_busy (saved : StatusFlags) : ¬ Stage.Idle (.looked saved) := by
  simp [Stage.Idle]

@[simp] theorem alive_busy (saved : StatusFlags) : ¬ Stage.Idle (.alive saved) := by
  simp [Stage.Idle]

structure Guarded where
  net : Network
  stage : Nat → Stage

-- The next native call of one of the guards. A guard that cannot be had is gone.
def Guarded.advance (w : Guarded) (fd : Holder) (i : Nat) : Guarded :=
  match w.stage i with
  | .unborn =>
      match w.net.getFlags fd with
      | .error cause => ⟨w.net.leave cause, Function.update w.stage i .dropped⟩
      | .ok saved =>
          if saved.contains .nonblock then ⟨w.net, Function.update w.stage i (.looked saved)⟩
          else ⟨w.net, Function.update w.stage i (.alive saved)⟩
  | .looked saved =>
      match w.net.setFlags fd (cleared saved) with
      | (.error _, net) => ⟨net, Function.update w.stage i .dropped⟩
      | (.ok (), net) =>
          ⟨net.remark .trace .transport s!"fd {net.fdName fd} switched to blocking mode",
            Function.update w.stage i (.alive saved)⟩
  | .alive saved => ⟨release ⟨fd, saved⟩ w.net, Function.update w.stage i .dropped⟩
  | .dropped => w

-- The guards once one of them has been acquired without a call of another in between.
def Guarded.acquired (w : Guarded) (fd : Holder) (i : Nat) : Guarded :=
  match acquire w.net fd with
  | (.error _, net) => ⟨net, Function.update w.stage i .dropped⟩
  | (.ok guard, net) => ⟨net, Function.update w.stage i (.alive guard.saved)⟩

-- The calls of a new guard with nothing between them, one or two, are what acquires it.
theorem advance_acquires (w : Guarded) (fd : Holder) (i : Nat) (fresh : w.stage i = .unborn) :
    w.advance fd i = w.acquired fd i ∨
      (∃ saved, (w.advance fd i).stage i = .looked saved) ∧
        (w.advance fd i).advance fd i = w.acquired fd i := by
  cases read : w.net.getFlags fd with
  | error cause =>
      left
      simp only [Guarded.advance, Guarded.acquired, acquire, Network.fail, fresh, read]
  | ok saved =>
      cases set : saved.contains .nonblock with
      | false =>
          left
          simp only [Guarded.advance, Guarded.acquired, acquire, fresh, read, set, Bool.false_eq_true,
            if_false]
      | true =>
          right
          have first : w.advance fd i = ⟨w.net, Function.update w.stage i (.looked saved)⟩ := by
            simp only [Guarded.advance, fresh, read, set, if_true]
          rw [first]
          refine ⟨⟨saved, Function.update_self _ _ _⟩, ?_⟩
          simp only [Guarded.advance, Guarded.acquired, acquire, Function.update_self, read, set,
            if_true]
          rcases w.net.setFlags fd (cleared saved) with ⟨_ | _, net⟩ <;>
            simp only [Function.update_idem]

-- A call of a guard on a descriptor with these flags: the guard's stage before and after it, and
-- the flags after it.
inductive Moves (now : StatusFlags) : Stage → Stage → StatusFlags → Prop
  | look (set : now.contains .nonblock = true) : Moves now .unborn (.looked now) now
  | find (unset : now.contains .nonblock = false) : Moves now .unborn (.alive now) now
  | clear (saved : StatusFlags) : Moves now (.looked saved) (.alive saved) (cleared saved)
  | restore (saved : StatusFlags) (set : saved.contains .nonblock = true) :
      Moves now (.alive saved) .dropped saved
  | leave (saved : StatusFlags) (unset : saved.contains .nonblock = false) :
      Moves now (.alive saved) .dropped now
  | rest : Moves now .dropped .dropped now

theorem set_found (n : Network) (fd : Holder) (now next : StatusFlags)
    (found : n.getFlags fd = .ok now) :
    ∃ m, n.setFlags fd next = (.ok (), m) ∧ m.getFlags fd = .ok next := by
  cases held : n.endpoint fd with
  | none => simp [Network.getFlags, held] at found
  | some e =>
      refine ⟨_, by rw [Network.setFlags, held], ?_⟩
      rw [Network.getFlags, Network.endpoint_set]

theorem advance_moves (w : Guarded) (fd : Holder) (i : Nat) (now : StatusFlags)
    (found : w.net.getFlags fd = .ok now) :
    ∃ net after next, w.advance fd i = ⟨net, Function.update w.stage i after⟩ ∧
      net.getFlags fd = .ok next ∧ Moves now (w.stage i) after next := by
  cases at_stage : w.stage i with
  | unborn =>
      cases set : now.contains .nonblock with
      | true =>
          refine ⟨w.net, .looked now, now, ?_, found, .look set⟩
          simp only [Guarded.advance, at_stage, found, set, if_true]
      | false =>
          refine ⟨w.net, .alive now, now, ?_, found, .find set⟩
          simp only [Guarded.advance, at_stage, found, set, Bool.false_eq_true, if_false]
  | looked saved =>
      obtain ⟨m, written, next⟩ := set_found w.net fd now (cleared saved) found
      refine ⟨m.remark .trace .transport s!"fd {m.fdName fd} switched to blocking mode",
        .alive saved, cleared saved, ?_, ?_, .clear saved⟩
      · simp only [Guarded.advance, at_stage, written]
      · rw [Network.getFlags, Network.remark, Network.endpoint_say]
        exact next
  | alive saved =>
      cases set : saved.contains .nonblock with
      | true =>
          obtain ⟨m, written, next⟩ := set_found w.net fd now saved found
          refine ⟨m, .dropped, saved, ?_, next, .restore saved set⟩
          simp only [Guarded.advance, at_stage, release, set, written, if_true]
      | false =>
          refine ⟨w.net, .dropped, now, ?_, found, .leave saved set⟩
          simp only [Guarded.advance, at_stage, release, set, Bool.false_eq_true, if_false]
  | dropped =>
      have same : Function.update w.stage i .dropped = w.stage := by
        rw [← at_stage, Function.update_eq_self]
      refine ⟨w.net, .dropped, now, ?_, found, .rest⟩
      simp only [Guarded.advance, at_stage, same]

abbrev Schedule := (Nat → Stage) → Nat → Prop

-- A guard whose turn it is makes a call, or anything else happens that leaves the flags alone.
inductive Step (fd : Holder) (may : Schedule) (w : Guarded) : Guarded → Prop
  | guard (i : Nat) (turn : may w.stage i) : Step fd may w (w.advance fd i)
  | other (net : Network) (same : net.getFlags fd = w.net.getFlags fd) :
      Step fd may w { w with net }

def Run (fd : Holder) (may : Schedule) : Guarded → Guarded → Prop :=
  Relation.ReflTransGen (Step fd may)

theorem run_keeps (fd : Holder) (may : Schedule) (keeps : StatusFlags → (Nat → Stage) → Prop)
    (step : ∀ now next stage i after, keeps now stage → may stage i →
      Moves now (stage i) after next → keeps next (Function.update stage i after))
    (w v : Guarded) (flags : StatusFlags) (found : w.net.getFlags fd = .ok flags)
    (start : keeps flags w.stage) (run : Run fd may w v) :
    ∃ now, v.net.getFlags fd = .ok now ∧ keeps now v.stage := by
  induction run with
  | refl => exact ⟨flags, found, start⟩
  | tail _ last ih =>
      obtain ⟨now, held, kept⟩ := ih
      cases last with
      | guard i turn =>
          obtain ⟨net, after, next, moved, left, moves⟩ := advance_moves _ fd i now held
          rw [moved]
          exact ⟨next, left, step now next _ i after kept turn moves⟩
      | other net same => exact ⟨now, same.trans held, kept⟩

-- A snapshot that is to be put back has the non-blocking flag, and while that flag is clear some
-- guard is to put it back.
structure Kept (flags now : StatusFlags) (stage : Nat → Stage) : Prop where
  looked : ∀ i saved, stage i = .looked saved → saved = flags
  alive : ∀ i saved, stage i = .alive saved → saved = flags ∨ saved = cleared flags
  owed : now = flags ∨ now = cleared flags ∧ ∃ i, stage i = .alive flags

theorem whole_of_set (flags found : StatusFlags) (seen : found = flags ∨ found = cleared flags)
    (set : found.contains .nonblock = true) : found = flags := by
  rcases seen with whole | part
  · exact whole
  · rw [part, cleared, without_contains] at set
    cases set

-- A call that leaves the flags alone, of any guard but one that is to put the flag back.
theorem kept_owed (flags now : StatusFlags) (stage : Nat → Stage) (i : Nat) (after : Stage)
    (kept : Kept flags now stage) (spare : stage i = .alive flags → now = flags) :
    now = flags ∨ now = cleared flags ∧ ∃ j, Function.update stage i after j = .alive flags := by
  rcases kept.owed with whole | ⟨part, j, owes⟩
  · exact .inl whole
  · by_cases own : j = i
    · exact .inl (spare (own ▸ owes))
    · exact .inr ⟨part, j, by rw [Function.update_of_ne own, owes]⟩

theorem moves_kept (flags now next : StatusFlags) (stage : Nat → Stage) (i : Nat) (after : Stage)
    (kept : Kept flags now stage) (moves : Moves now (stage i) after next) :
    Kept flags next (Function.update stage i after) := by
  have seen := kept.owed.imp_right And.left
  generalize before : stage i = s at moves
  constructor
  case looked =>
    refine (Function.forall_update_iff stage fun _ s => ∀ saved, s = .looked saved →
      saved = flags).mpr ⟨fun saved told => ?_, fun j _ => kept.looked j⟩
    cases moves with
    | look set =>
        cases told
        exact whole_of_set flags now seen set
    | _ => cases told
  case alive =>
    refine (Function.forall_update_iff stage fun _ s => ∀ saved, s = .alive saved →
      saved = flags ∨ saved = cleared flags).mpr ⟨fun saved told => ?_, fun j _ => kept.alive j⟩
    cases moves with
    | find _ =>
        cases told
        exact seen
    | clear _ =>
        cases told
        exact .inl (kept.looked i saved before)
    | _ => cases told
  case owed =>
    cases moves with
    | look _ | find _ | rest =>
        exact kept_owed flags now stage i _ kept fun alive => by rw [before] at alive; cases alive
    | clear saved =>
        obtain rfl := kept.looked i saved before
        exact .inr ⟨rfl, i, Function.update_self _ _ _⟩
    | restore _ set => exact .inl (whole_of_set flags next (kept.alive i next before) set)
    | leave saved unset =>
        refine kept_owed flags now stage i _ kept fun alive => ?_
        obtain rfl : saved = flags := by rw [before] at alive; cases alive; rfl
        rcases seen with whole | part
        · exact whole
        · rw [part, cleared, without_absent saved unset]

-- Guards that are created and dropped in nested order, of which those ranked higher come later: one
-- makes a call only while all others in use are in force and came before it.
def nested (rank : Nat → Nat) : Schedule := fun stage i =>
  ∀ j, j ≠ i → (stage j).Idle ∨ rank j < rank i ∧ ∃ saved, stage j = .alive saved

-- No guard is in force, or an outermost one has cleared the flag and all later ones found it clear.
def Covered (rank : Nat → Nat) (flags now : StatusFlags) (stage : Nat → Stage) : Prop :=
  (now = flags ∧ ∀ i, (stage i).Idle ∨ stage i = .looked flags) ∨
    now = cleared flags ∧ ∃ o, stage o = .alive flags ∧
      ∀ i, i ≠ o → (stage i).Idle ∨ rank o < rank i ∧ stage i = .alive (cleared flags)

-- The first guard of all reads the flags, clears the flag and is then the outermost one.
theorem moves_outermost (rank : Nat → Nat) (flags next : StatusFlags) (stage : Nat → Stage)
    (i : Nat) (after : Stage) (set : flags.contains .nonblock = true)
    (idle : ∀ j, j ≠ i → (stage j).Idle) (moves : Moves flags (stage i) after next)
    (first : (stage i).Idle ∨ stage i = .looked flags) :
    Covered rank flags next (Function.update stage i after) := by
  generalize stage i = before at moves first
  have settled (shown : after.Idle ∨ after = .looked flags) :
      ∀ j, (Function.update stage i after j).Idle ∨
        Function.update stage i after j = .looked flags :=
    (Function.forall_update_iff stage fun _ s => s.Idle ∨ s = .looked flags).mpr
      ⟨shown, fun j other => .inl (idle j other)⟩
  cases moves with
  | look _ => exact .inl ⟨rfl, settled (.inr rfl)⟩
  | find unset =>
      rw [set] at unset
      cases unset
  | clear saved =>
      obtain rfl : saved = flags := by simpa using first
      refine .inr ⟨rfl, i, Function.update_self _ _ _, fun j other => .inl ?_⟩
      rw [Function.update_of_ne other]
      exact idle j other
  | restore _ _ | leave _ _ => simp at first
  | rest => exact .inl ⟨rfl, settled (.inl idle_dropped)⟩

-- A guard inside another finds the flag clear and has nothing to put back.
theorem moves_inside (flags next : StatusFlags) (before after : Stage)
    (inside : before.Idle ∨ before = .alive (cleared flags))
    (moves : Moves (cleared flags) before after next) :
    next = cleared flags ∧ (after.Idle ∨ after = .alive (cleared flags)) := by
  have unset : (cleared flags).contains .nonblock = false := without_contains flags
  cases moves with
  | look set =>
      rw [unset] at set
      cases set
  | find _ => exact ⟨rfl, .inr rfl⟩
  | clear _ => simp at inside
  | restore _ set =>
      obtain rfl : next = cleared flags := by simpa using inside
      rw [unset] at set
      cases set
  | leave _ _ | rest => exact ⟨rfl, .inl idle_dropped⟩

theorem moves_covered (rank : Nat → Nat) (flags now next : StatusFlags) (stage : Nat → Stage)
    (i : Nat) (after : Stage) (set : flags.contains .nonblock = true)
    (covered : Covered rank flags now stage) (turn : nested rank stage i)
    (moves : Moves now (stage i) after next) :
    Covered rank flags next (Function.update stage i after) := by
  rcases covered with ⟨rfl, quiet⟩ | ⟨rfl, o, outer, inner⟩
  · refine moves_outermost rank now next stage i after set (fun j other => ?_) moves (quiet i)
    rcases turn j other with idle | ⟨_, saved, alive⟩
    · exact idle
    · exact (quiet j).resolve_right fun looked => by rw [alive] at looked; cases looked
  · by_cases own : i = o
    · subst own
      -- The outermost guard ends last: every other one in use came after it.
      have alone : ∀ j, j ≠ i → (stage j).Idle := fun j other => by
        rcases turn j other with idle | ⟨earlier, _⟩
        · exact idle
        · exact (inner j other).resolve_right fun later => Nat.lt_asymm earlier later.1
      generalize stage i = before at outer moves
      subst outer
      cases moves with
      | restore _ _ =>
          exact .inl ⟨rfl, fun j => .inl ((Function.forall_update_iff stage fun _ s => s.Idle).mpr
            ⟨idle_dropped, alone⟩ j)⟩
      | leave _ unset =>
          rw [set] at unset
          cases unset
    · have later : rank o < rank i := by
        rcases turn o (Ne.symm own) with idle | ⟨earlier, _⟩
        · rw [outer] at idle
          exact absurd idle (alive_busy flags)
        · exact earlier
      obtain ⟨rfl, shown⟩ :=
        moves_inside flags next (stage i) after ((inner i own).imp_right And.right) moves
      refine .inr ⟨rfl, o, by rw [Function.update_of_ne (Ne.symm own), outer], ?_⟩
      exact (Function.forall_update_iff stage fun j s => j ≠ o → s.Idle ∨
        rank o < rank j ∧ s = .alive (cleared flags)).mpr
          ⟨fun _ => shown.imp_right fun found => ⟨later, found⟩, fun j _ => inner j⟩

theorem guards_compose (fd : Holder) (w : Guarded) (flags : StatusFlags)
    (found : w.net.getFlags fd = .ok flags) (fresh : ∀ i, w.stage i = .unborn) :
    (∀ (v : Guarded) (i : Nat), v.stage i = .unborn → v.advance fd i = v.acquired fd i ∨
      (∃ saved, (v.advance fd i).stage i = .looked saved) ∧
        (v.advance fd i).advance fd i = v.acquired fd i) ∧
    (∀ may v, Run fd may w v →
      (v.net.getFlags fd = .ok flags ∨ v.net.getFlags fd = .ok (flags.without .nonblock)) ∧
      ((∀ i saved, v.stage i ≠ .alive saved) → v.net.getFlags fd = .ok flags)) ∧
    ∀ rank v, Run fd (nested rank) w v → ∀ i saved, v.stage i = .alive saved →
      ∃ now, v.net.getFlags fd = .ok now ∧ now.contains .nonblock = false := by
  have start : Kept flags flags w.stage :=
    ⟨fun i saved told => by simp [fresh] at told, fun i saved told => by simp [fresh] at told,
      .inl rfl⟩
  have kept (may : Schedule) (v : Guarded) (run : Run fd may w v) :=
    run_keeps fd may (Kept flags) (fun now next stage i after held _ =>
      moves_kept flags now next stage i after held) w v flags found start run
  refine ⟨fun v i => advance_acquires v fd i, fun may v run => ?_,
    fun rank v run i saved alive => ?_⟩
  · obtain ⟨now, left, held⟩ := kept may v run
    rcases held.owed with rfl | ⟨rfl, i, owes⟩
    · exact ⟨.inl left, fun _ => left⟩
    · exact ⟨.inr left, fun none => absurd owes (none i flags)⟩
  · cases set : flags.contains .nonblock with
    | false =>
        obtain ⟨now, left, held⟩ := kept (nested rank) v run
        refine ⟨now, left, ?_⟩
        rcases held.owed with rfl | ⟨rfl, _⟩
        · exact set
        · exact without_contains flags
    | true =>
        have idle : Covered rank flags flags w.stage := .inl ⟨rfl, fun i => .inl (.inl (fresh i))⟩
        obtain ⟨now, left, covered⟩ := run_keeps fd (nested rank) (Covered rank flags)
          (fun now next stage i after held turn =>
            moves_covered rank flags now next stage i after set held turn) w v flags found idle run
        refine ⟨now, left, ?_⟩
        rcases covered with ⟨_, quiet⟩ | ⟨rfl, _⟩
        · have busy := quiet i
          simp [alive] at busy
        · exact without_contains flags

def shared : Guarded :=
  ⟨{ clock := 0, callerNumber := 3, caller := some (.fresh .stream .nonblock false),
      engine := none, reach := .scripted [], resolver := .numeric, proxy := none,
      refusal := none, barred := false, errno := default, calls := [], remarks := [] },
    fun _ => .unborn⟩

def afterCalls (order : List Nat) : Guarded := order.foldl (·.advance .caller ·) shared

-- Two guards whose calls alternate, and one guard inside another.
theorem guards_compose_twice :
    (afterCalls [0, 1, 0, 1, 0, 1]).net.getFlags .caller = .ok .nonblock ∧
    ∃ now, (afterCalls [0, 0, 1]).net.getFlags .caller = .ok now ∧
      now.contains .nonblock = false := by
  obtain ⟨_, crossed, inside⟩ := guards_compose .caller shared .nonblock rfl fun _ => rfl
  constructor
  · have run : Run .caller (fun _ _ => True) shared (afterCalls [0, 1, 0, 1, 0, 1]) :=
      .tail (.tail (.tail (.tail (.tail (.tail .refl (.guard 0 trivial)) (.guard 1 trivial))
        (.guard 0 trivial)) (.guard 1 trivial)) (.guard 0 trivial)) (.guard 1 trivial)
    refine (crossed _ _ run).2 fun i saved => ?_
    rcases i with _ | _ | i <;> exact nofun
  · have run : Run .caller (nested id) shared (afterCalls [0, 0, 1]) := by
      refine .tail (.tail (.tail .refl (.guard 0 ?_)) (.guard 0 ?_)) (.guard 1 ?_) <;>
        intro j other <;> rcases j with _ | _ | j <;>
        first
        | exact absurd rfl other
        | exact .inl (.inl rfl)
        | exact .inr ⟨by decide, _, rfl⟩
    exact inside id _ run 1 (StatusFlags.nonblock.without .nonblock) rfl

end BlockingGuard

end ProxyTunnel
