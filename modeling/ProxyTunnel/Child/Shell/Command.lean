import ProxyTunnel.Text.Raw

/-!
The commands of a shell script. Texts are raw: each character is one byte.
-/

set_option autoImplicit false

namespace ProxyTunnel.Shell

inductive Direction where
  | input
  -- From and to a file, which is made if it is not there.
  | inputOutput
  | output
  | replacement
  -- To the end of a file, which is made if it is not there.
  | append
  -- To where another descriptor leads; nowhere for a dash.
  | duplicate
  | text
deriving DecidableEq, Repr

structure Demand where
  notEmpty : Bool
deriving DecidableEq, Repr

mutual
-- A part of a word. Quoted parts are never split and match only themselves.
inductive Fragment where
  | literal (text : String) (quoted : Bool)
  | parameter (name : String) (use : Use) (quoted : Bool)
  | output (command : Option Command) (quoted : Bool)
  | number (expression : List Fragment) (quoted : Bool)

inductive Use where
  | value
  | length
  -- The word instead of a parameter that fails the demand.
  | orElse (demand : Demand) (word : List Fragment)
  | orAssign (demand : Demand) (word : List Fragment)
  | orFail (demand : Demand) (word : List Fragment)
  -- The word instead of a parameter that meets the demand.
  | ifMet (demand : Demand) (word : List Fragment)
  -- The value without the shortest or longest start that matches.
  | withoutStart (longest : Bool) (pattern : List Fragment)
  | withoutEnd (longest : Bool) (pattern : List Fragment)
  | nonsense

inductive Redirection where
  | mk (fd : Nat) (direction : Direction) (target : List Fragment)

inductive Command where
  | simple (line : Nat) (assignments : List (String × List Fragment))
      (words : List (List Fragment)) (redirections : List Redirection)
  | sequence (commands : List Command)
  | both (first second : Command)
  | either (first second : Command)
  | negation (command : Command)
  | pipeline (stages : List Command)
  | background (command : Command)
  | subshell (command : Command)
  | redirected (line : Nat) (command : Command) (redirections : List Redirection)
  | conditional (condition consequence : Command) (alternative : Option Command)
  -- Runs the body as long as the condition succeeds, or as long as it fails.
  | loop (whileFailing : Bool) (condition body : Command)
  | each (line : Nat) (name : String) (words : List (List Fragment)) (body : Command)
  | choice (line : Nat) (word : List Fragment)
      (cases : List (List (List Fragment) × Option Command))
  | define (name : String) (body : Command)
end

instance : Inhabited Command := ⟨.sequence []⟩

instance : Inhabited Fragment := ⟨.literal "" false⟩

abbrev Word := List Fragment

end ProxyTunnel.Shell
