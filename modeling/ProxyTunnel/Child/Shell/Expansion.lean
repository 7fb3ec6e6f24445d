import ProxyTunnel.Child.Search
import ProxyTunnel.Child.Shell.Arithmetic
import ProxyTunnel.Child.Shell.Field
import ProxyTunnel.Child.Shell.Options

/-!
Expansion of words: what parameters, inserted output and arithmetic come to.
-/

set_option autoImplicit false

namespace ProxyTunnel.Shell

structure Engine where
  run : Setting → Command → Run PUnit
  expand : Word → Run (List Piece)
  -- What commands write when they run in a shell of their own.
  capture : Command → Run String
  execute : Found → Start → World → World × WaitStatus

def Memory.separators (m : Memory) : List Char := ((m.valueOf? "IFS").getD " \t\n").toList

def Memory.joint (m : Memory) : String :=
  match m.valueOf? "IFS" with
  | none => " "
  | some separators => (separators.toList.head?.map String.singleton).getD ""

namespace Memory

def parameter? (m : Memory) (name : String) : Option String :=
  match name with
  | "#" => some (toString m.arguments.length)
  | "?" => some (toString m.last)
  | "$" => some (toString m.main)
  | "!" => m.background.map toString
  | "-" => some m.letters
  | "@" | "*" =>
      if m.arguments.isEmpty then none else some (m.joint.intercalate m.arguments)
  | _ =>
      match Decimal.read? name.toList with
      | some 0 => some m.name
      | some (n + 1) => m.arguments[n]?
      | none => m.valueOf? name

end Memory

namespace Expansion

def allArguments (arguments : List String) (quoted : Bool) : List Piece :=
  ((arguments.map fun text => Piece.ofText text quoted (!quoted)).intersperse [.gap]).flatten

def ofParameter (m : Memory) (name : String) (quoted : Bool) : List Piece :=
  match name, quoted with
  | "@", _ => allArguments m.arguments quoted
  | "*", false => allArguments m.arguments false
  | _, _ => Piece.ofText ((m.parameter? name).getD "") quoted (!quoted)

def asText (pieces : List Piece) : String :=
  String.ofList (pieces.filterMap fun
    | .char c _ _ => some c
    | .mark => none
    | .gap => some ' ')

def asPattern (pieces : List Piece) : Pattern :=
  Pattern.ofChars (pieces.filterMap fun
    | .char c quoted _ => some (c, quoted)
    | .mark => none
    | .gap => some (' ', true))

def whole (e : Engine) (word : Word) : Run String := do return asText (← e.expand word)

def instead (e : Engine) (word : Word) (quoted : Bool) : Run (List Piece) := do
  let pieces ← e.expand word
  if quoted then return .mark :: pieces
  else
    return pieces.map fun
      | .char c q divides => .char c q (divides || !q)
      | piece => piece

def meets (demand : Demand) (value : Option String) : Bool :=
  match value with
  | none => false
  | some text => !demand.notEmpty || text ≠ ""

def matchingStarts (pattern : Pattern) (cs : List Char) : List Nat :=
  (List.range (cs.length + 1)).filter fun n => pattern.accepts (cs.take n)

def dropStart (pattern : Pattern) (longest : Bool) (cs : List Char) : List Char :=
  let found := matchingStarts pattern cs
  cs.drop ((if longest then found.getLast? else found.head?).getD 0)

def dropEnd (pattern : Pattern) (longest : Bool) (cs : List Char) : List Char :=
  let found := (List.range (cs.length + 1)).filter fun n => pattern.accepts (cs.drop n)
  cs.take ((if longest then found.head? else found.getLast?).getD cs.length)

def required (name : String) : Run (Option String) := do
  let sh ← get
  let value := sh.parameter? name
  if value.isNone && sh.options.contains 'u' && name ≠ "@" && name ≠ "*" then
    Run.fail (name ++ ": parameter not set")
  else return value

def parameter (e : Engine) (name : String) (use : Use) (quoted : Bool) : Run (List Piece) := do
  let divided (text : String) : List Piece := Piece.ofText text quoted (!quoted)
  let value := (← get).parameter? name
  match use with
  | .value =>
      let _ ← required name
      return ofParameter (← get).toMemory name quoted
  | .length =>
      match name with
      | "@" | "*" => return divided (toString (← get).arguments.length)
      | _ => return divided (toString ((← required name).getD "").length)
  | .orElse demand word =>
      if meets demand value then return ofParameter (← get).toMemory name quoted
      else instead e word quoted
  | .orAssign demand word =>
      if meets demand value then return ofParameter (← get).toMemory name quoted
      else
        let text ← whole e word
        if isName name then
          Run.assign name text
          return divided text
        else Run.fail (name ++ ": bad variable name")
  | .orFail demand word =>
      if meets demand value then return ofParameter (← get).toMemory name quoted
      else
        let text ← whole e word
        let text :=
          if !word.isEmpty then text
          else "parameter not set" ++ (if demand.notEmpty then " or null" else "")
        Run.fail (name ++ ": " ++ text)
  | .ifMet demand word =>
      if meets demand value then instead e word quoted
      else return if quoted then [.mark] else []
  | .withoutStart longest pattern =>
      let text := (← required name).getD ""
      let pattern := asPattern (← e.expand pattern)
      return divided (String.ofList (dropStart pattern longest text.toList))
  | .withoutEnd longest pattern =>
      let text := (← required name).getD ""
      let pattern := asPattern (← e.expand pattern)
      return divided (String.ofList (dropEnd pattern longest text.toList))
  | .nonsense => Run.fail "Bad substitution"

-- The value of an arithmetic expression; what it assigns is assigned.
def arithmetic (text : String) : Run String := do
  let wrong {α : Type} (problem : String) : Run α :=
    Run.fail ("arithmetic expression: " ++ problem ++ ": \"" ++ text ++ "\"")
  match Arithmetic.parse text with
  | .error problem => wrong problem
  | .ok expression =>
      let sh ← get
      match Arithmetic.eval (fun name => (sh.parameter? name).getD "") expression [] with
      | .error .divisionByZero => wrong "division by zero"
      | .error (.notNumber text) => Run.fail ("Illegal number: " ++ text)
      | .ok (value, changes) =>
          for (name, text) in changes.reverse do
            Run.assign name text
          return toString value.toInt

def withoutFinalLines (text : String) : String :=
  String.ofList (text.toList.reverse.dropWhile (· = '\n')).reverse

def fragment (e : Engine) : Fragment → Run (List Piece)
  | .literal text quoted => return Piece.ofText text quoted false
  | .parameter name use quoted => parameter e name use quoted
  | .output command quoted => do
      let text ← match command with
        | none => do
            modify fun sh => { sh with captured := some 0 }
            pure ""
        | some command => e.capture command
      return Piece.ofText (withoutFinalLines (text.replace "\x00" "")) quoted (!quoted)
  | .number expression quoted => do
      let text ← arithmetic (← whole e expression)
      return Piece.ofText text quoted (!quoted)

def withHome (m : Memory) (word : Word) : Word :=
  match word with
  | .literal text false :: rest =>
      match text.toList with
      | '~' :: cs =>
          let user := cs.takeWhile (· ≠ '/')
          match m.valueOf? "HOME" with
          | some home =>
              if user = [] ∧ (cs ≠ [] ∨ rest.isEmpty) then
                .literal home true :: .literal (String.ofList cs) false :: rest
              else word
          | none => word
      | _ => word
  | _ => word

def expand (e : Engine) (word : Word) : Run (List Piece) := do
  let word := withHome (← get).toMemory word
  let mut pieces := []
  for part in word do
    pieces := pieces ++ (← fragment e part)
  return pieces

def fields (e : Engine) (words : List Word) : Run (List String) := do
  let mut found := []
  for word in words do
    let pieces ← e.expand word
    let sh ← get
    let fields := Field.divide sh.separators pieces
    let texts :=
      if sh.options.contains 'f' then fields.map Field.text
      else fields.flatMap (Field.files sh.world.tree)
    found := found ++ texts
  return found

def pattern (e : Engine) (word : Word) : Run Pattern := do return asPattern (← e.expand word)

end Expansion

end ProxyTunnel.Shell
