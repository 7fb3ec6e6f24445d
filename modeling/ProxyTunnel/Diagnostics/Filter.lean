import ProxyTunnel.Diagnostics.Directive

/-!
Filters of diagnostics: directives that give a threshold for all components or for those whose path
starts with a text. The narrowest directive decides.
-/

set_option autoImplicit false

namespace ProxyTunnel

abbrev Filter := List Directive

namespace Filter

def errorsOnly : Filter := [.global .error]

def standard : Filter := [.global .debug]

-- Reads directives between commas. One that cannot be read spoils the whole; where there is none,
-- errors pass.
def read? (text : String) : Option Filter :=
  match (text.splitOn ",").filter (· ≠ "") with
  | [] => some errorsOnly
  | parts => parts.mapM Directive.read?

def governing (filter : Filter) (component : Component) : Option Directive :=
  (filter.filter fun d => d.isStatic && d.applies component).foldl
    (fun best d =>
      match best with
      | none => some d
      | some b => if d.isAsNarrow b then some d else some b)
    none

def passes (filter : Filter) (remark : Remark) : Bool :=
  match (filter.governing remark.speaker).bind (·.threshold) with
  | none => false
  | some least => least.rank ≤ remark.level.rank

end Filter

structure Reporter where
  filter : Option Filter
deriving Repr

namespace Reporter

def silent : Reporter := ⟨none⟩

-- Installs a filter if diagnostics are wanted and none is installed yet, and says whether it did. A
-- filter that cannot be read gives way to the standard one.
def install (r : Reporter) (wanted : Bool) (filter : Option String) : Bool × Reporter :=
  match wanted, r.filter with
  | true, none => (true, ⟨some ((filter.bind Filter.read?).getD .standard)⟩)
  | _, _ => (false, r)

def shown (r : Reporter) (remarks : List Remark) : List String :=
  match r.filter with
  | none => []
  | some filter => (remarks.filter filter.passes).map Remark.renderAligned

end Reporter

end ProxyTunnel
