import ProxyTunnel.Child.Format
import ProxyTunnel.Child.Tool.Condition
import ProxyTunnel.Child.Tool.Expression
import ProxyTunnel.Child.Tool.Files

/-!
The tools that answer with a text or a status, and those that run other commands.
-/

set_option autoImplicit false

namespace ProxyTunnel.Tool

-- The options in front of the arguments of `echo`: whether a line feed follows, and whether
-- backslashes have a meaning.
def echoOptions (feed escapes : Bool) : List String → Bool × Bool × List String
  | [] => (feed, escapes, [])
  | a :: rest =>
      match a.toList with
      | '-' :: c :: cs =>
          if (c :: cs).all fun c => "neE".toList.contains c then
            let (feed, escapes) := (c :: cs).foldl
              (fun (feed, escapes) c =>
                if c = 'n' then (false, escapes) else (feed, c == 'e'))
              (feed, escapes)
            echoOptions feed escapes rest
          else (feed, escapes, a :: rest)
      | _ => (feed, escapes, a :: rest)

def echo (r : Request) : Act PUnit := do
  let (feed, escapes, arguments) := echoOptions true false r.arguments
  let text := " ".intercalate arguments
  let (text, stopped) := if escapes then Escape.interpret Escape.inEcho text else (text, false)
  Act.print (text ++ if feed && !stopped then "\n" else "")

def printf (r : Request) : Act PUnit := do
  let arguments := if r.arguments.head? = some "--" then r.arguments.tail else r.arguments
  match arguments with
  | [] => Act.misuse r "missing operand" 1
  | format :: arguments =>
      let f := Format.run .tool format arguments
      Act.print f.written
      for problem in f.problems do
        Act.complain r problem 1
      if !f.used && !f.stopped then
        match arguments with
        | [] => pure ()
        | a :: _ =>
            Act.mutter (r.name ++ ": warning: ignoring excess arguments, starting with " ++ cite a
              ++ "\n")

def test (r : Request) : Act PUnit := do
  let isBracket := baseName r.name = "["
  if isBracket && r.arguments.getLast? ≠ some "]" then Act.fail r "missing ']'" 2
  let arguments := if isBracket then r.arguments.dropLast else r.arguments
  match Condition.status (← Act.tree) arguments with
  | .ok status => Act.setStatus status
  | .error problem => Act.fail r problem 2

def expr (r : Request) : Act PUnit := do
  let arguments := if r.arguments.head? = some "--" then r.arguments.tail else r.arguments
  match Expression.eval arguments with
  | .ok text =>
      Act.print (text ++ "\n")
      Act.setStatus (if Expression.isNull text then 1 else 0)
  | .error .missing => Act.misuse r "missing operand" 2
  | .error problem => Act.fail r problem.text problem.status

def seconds? (text : String) : Option Nat :=
  let cs := text.toList
  let whole := cs.takeWhile Char.isDigit
  let (places, rest) :=
    match cs.drop whole.length with
    | '.' :: rest => (rest.takeWhile Char.isDigit, rest.drop (rest.takeWhile Char.isDigit).length)
    | rest => ([], rest)
  let digits := whole ++ (places ++ ['0', '0', '0']).take 3
  let n : Nat := digits.foldl (fun n c => 10 * n + (c.toNat - 48)) 0
  if whole.isEmpty && places.isEmpty then none
  else
    match rest with
    | [] | ['s'] => some n
    | ['m'] => some (60 * n)
    | ['h'] => some (3600 * n)
    | ['d'] => some (86400 * n)
    | _ => if text = "inf" ∨ text = "infinity" then some (Nat.pow 10 18) else none

def sleep (r : Request) : Act PUnit := do
  let o ← Act.options r (Options.form "" "" []) 1
  if o.operands.isEmpty then Act.misuse r "missing operand" 1
  let wrong := o.operands.filter fun a => (seconds? a).isNone
  for a in wrong do
    Act.complain r ("invalid time interval " ++ cite a) 1
  if !wrong.isEmpty then
    Act.mutter ("Try '" ++ r.name ++ " --help' for more information.\n")

def sleepTime (arguments : List String) : Nat :=
  arguments.foldl (fun n a => n + (seconds? a).getD 0) 0

def entries (env : Environment) : List String :=
  env.map fun (name, value) => Raw.ofBytes name ++ "=" ++ Raw.ofBytes value

def printenv (r : Request) : Act PUnit := do
  let o ← Act.options r (Options.form "0" "" [("null", '0')]) 2
  let feed := if o.has '0' then "\x00" else "\n"
  if o.operands.isEmpty then Act.print (String.join ((entries r.env).map (· ++ feed)))
  for name in o.operands do
    match r.env.lookup (Raw.toBytes name) with
    | some value => Act.print (Raw.ofBytes value ++ feed)
    | none => Act.setStatus 1

def assignments (arguments : List String) : List (Bytes × Bytes) × List String :=
  let taken := arguments.takeWhile fun a => a.toList.contains '='
  let split (a : String) : Bytes × Bytes :=
    let name := a.toList.takeWhile (· ≠ '=')
    (Raw.bytes name, Raw.bytes (a.toList.drop (name.length + 1)))
  (taken.map split, arguments.drop taken.length)

def hand (env : Environment) (command : List String) (complaint : PathFault → String) : Act PUnit :=
  throw (.becomes env command complaint)

def unrunnable (r : Request) (words : String) (fault : PathFault) : String :=
  r.name ++ ": " ++ words ++ ": " ++ fault.text ++ "\n"

def env (r : Request) : Act PUnit := do
  let o ← Act.options r ⟨"i0v".toList, "uCS".toList, [("ignore-environment", 'i'), ("unset", 'u'),
    ("null", '0'), ("chdir", 'C')], false⟩ 125
  let bare := o.operands.head? = some "-"
  let operands := if bare then o.operands.tail else o.operands
  let start := if o.has 'i' || bare then [] else r.env
  let unset := (o.given.filter fun (c, _) => c == 'u').map (·.2)
  let kept := unset.foldl (fun (env : Environment) name => env.unset (Raw.toBytes name)) start
  let (added, command) := assignments operands
  let env := Environment.setAll kept added
  match command with
  | [] =>
      let feed := if o.has '0' then "\x00" else "\n"
      Act.print (String.join ((entries env).map (· ++ feed)))
  | name :: _ =>
      if let some path := o.value? 'C' then
        let tree ← Act.tree
        match tree.enter (Raw.toBytes path) with
        | .ok tree => Act.setTree tree
        | .error fault =>
            Act.fail r ("cannot change directory to " ++ quote path ++ ": " ++ fault.text) 125
      hand env command fun fault =>
        let line := r.name ++ ": " ++ cite name ++ ": " ++ fault.text ++ "\n"
        if fault = .notFound ∧ name.toList.any FileCheck.isBlank then
          line ++ r.name ++ ": use -[v]S to pass options in shebang lines\n"
        else line

def nice (r : Request) : Act PUnit := do
  let o ← Act.options r ⟨"0123456789".toList, ['n'], [("adjustment", 'n')], false⟩ 125
  if o.operands.isEmpty then
    if o.given.isEmpty then Act.print "0\n"
    else Act.misuse r "a command must be given with an adjustment" 125
  else hand r.env o.operands (unrunnable r (cite (o.operands.headD "")))

def nohup (r : Request) : Act PUnit := do
  let o ← Act.options r ⟨[], [], [], false⟩ 125
  if o.operands.isEmpty then Act.misuse r "missing operand" 125
  else
    let words := "failed to run command " ++ quote (o.operands.headD "")
    hand r.env o.operands (unrunnable r words)

def timeout (r : Request) : Act PUnit := do
  let o ← Act.options r ⟨"v".toList, "ks".toList, [("signal", 's'), ("kill-after", 'k')], false⟩ 125
  match o.operands with
  | [] | [_] =>
      Act.mutter ("Try '" ++ r.name ++ " --help' for more information.\n")
      throw (.status 125)
  | limit :: command =>
      match seconds? limit with
      | none => Act.misuse r ("invalid time interval " ++ cite limit) 125
      | some limit =>
          let time :=
            match command with
            | "sleep" :: times => sleepTime times
            | _ => 0
          if 0 < limit ∧ limit < time then
            let killing := o.value? 's' = some "KILL" ∨ o.value? 's' = some "9"
            throw (if killing then .killed ⟨9⟩ else .status 124)
          else
            let words := "failed to run command " ++ cite (command.headD "")
            hand r.env command (unrunnable r words)

def endWord (state : List String × Option String) : List String × Option String :=
  match state.2 with
  | none => state
  | some word => (word :: state.1, none)

-- The words of an input, with quotes and backslashes; or a quote that is not closed.
def words : Nat → List String × Option String → List Char → Except Char (List String)
  | 0, state, _ => .ok (endWord state).1.reverse
  | _, state, [] => .ok (endWord state).1.reverse
  | n + 1, state, '\\' :: c :: rest =>
      words n (state.1, some ((state.2.getD "").push c)) rest
  | n + 1, state, c :: rest =>
      if c = '\'' ∨ c = '"' then
        let inside := rest.takeWhile (· ≠ c)
        if inside.length = rest.length ∨ inside.contains '\n' then .error c
        else
          words n (state.1, some (state.2.getD "" ++ String.ofList inside))
            (rest.drop (inside.length + 1))
      else if FileCheck.isBlank c then words n (endWord state) rest
      else words n (state.1, some ((state.2.getD "").push c)) rest

def inParts {α : Type} (size : Nat) : Nat → List α → List (List α)
  | 0, _ | _, [] => []
  | n + 1, xs => xs.take (max size 1) :: inParts size n (xs.drop (max size 1))

def xargs (r : Request) : Act PUnit := do
  let o ← Act.options r ⟨"rt0px".toList, "nILPds".toList, [("no-run-if-empty", 'r'),
    ("max-args", 'n'), ("null", '0'), ("replace", 'I')], false⟩ 1
  let command := if o.operands.isEmpty then ["echo"] else o.operands
  match ← Act.readInput r with
  | .error fault => Act.fail r ("read error: " ++ fault.text) 1
  | .ok text =>
      let run (commands : List (List String)) : Act PUnit :=
        throw (.runs commands (r.name ++ ": " ++ command.headD ""))
      match o.value? 'I' with
      | some mark =>
          let lines := (Raw.lines text).map fun line =>
            String.ofList (line.toList.dropWhile FileCheck.isBlank)
          run ((lines.filter (· ≠ "")).map fun line => command.map fun a => a.replace mark line)
      | none =>
          let found :=
            if o.has '0' then .ok ((Raw.splitAt '\x00' text).filter (· ≠ ""))
            else words (text.length + 1) ([], none) text.toList
          match found with
          | .error c =>
              let kind := if c = '"' then "double" else "single"
              Act.fail r ("unmatched " ++ kind ++ " quote; by default quotes are special to xargs "
                ++ "unless you use the -0 option") 1
          | .ok [] => if o.has 'r' then pure () else run [command]
          | .ok found =>
              let size := ((o.value? 'n').bind count?).getD found.length
              run ((inParts size found.length found).map (command ++ ·))

def which (r : Request) : Act PUnit := do
  let o ← Act.options r (Options.form "as" "" []) 2
  let tree ← Act.tree
  let standard := "/usr/local/sbin:/usr/local/bin:/usr/sbin:/usr/bin:/sbin:/bin"
  let path := ((r.env.get? "PATH").map Raw.ofBytes).getD standard
  let directories := Raw.splitAt ':' path
  if o.operands.isEmpty then Act.setStatus 1
  for name in o.operands do
    let paths := if name.toList.contains '/' then [name] else directories.map (below · name)
    let isProgram (path : String) : Bool :=
      FileCheck.holds tree 'f' path && FileCheck.holds tree 'x' path
    match paths.find? isProgram with
    | some path => Act.print (path ++ "\n")
    | none => Act.setStatus 1

def pwd (_ : Request) : Act PUnit := do Act.print (pathOf (← Act.tree).cwd ++ "\n")

def withoutEnding (name ending : String) : String :=
  if name ≠ ending ∧ ending.toList.isSuffixOf name.toList then
    Raw.take name (name.length - ending.length)
  else name

def basename (r : Request) : Act PUnit := do
  let o ← Act.options r ⟨"az".toList, ['s'], [("multiple", 'a'), ("suffix", 's')], false⟩ 1
  match o.operands with
  | [] => Act.misuse r "missing operand" 1
  | operands =>
      if o.has 'a' || o.has 's' then
        for path in operands do
          Act.print (withoutEnding (baseName path) ((o.value? 's').getD "") ++ "\n")
      else
        match operands with
        | [path] => Act.print (baseName path ++ "\n")
        | [path, ending] => Act.print (withoutEnding (baseName path) ending ++ "\n")
        | _ => Act.misuse r ("extra operand " ++ cite (operands.getD 2 "")) 1

def dirname (r : Request) : Act PUnit := do
  let o ← Act.options r ⟨['z'], [], [], false⟩ 1
  if o.operands.isEmpty then Act.misuse r "missing operand" 1
  for path in o.operands do
    Act.print (directoryName path ++ "\n")

def identity (r : Request) : Act PUnit := do
  let o ← Act.options r (Options.form "ugnGr" "" [("user", 'u'), ("group", 'g'), ("name", 'n')]) 1
  if let name :: _ := o.operands.filter (· ≠ "root") then
    Act.fail r (cite name ++ ": no such user") 1
  if o.has 'u' || o.has 'g' || o.has 'G' then Act.print (if o.has 'n' then "root\n" else "0\n")
  else Act.print "uid=0(root) gid=0(root) groups=0(root)\n"

def uname (r : Request) : Act PUnit := do
  let o ← Act.options r (Options.form "asmnrvpio" "" [("kernel-name", 's'), ("machine", 'm')]) 1
  let parts := o.given.filterMap fun (c, _) =>
    match c with
    | 's' => some "Linux"
    | 'm' | 'p' | 'i' => some "x86_64"
    | 'o' => some "GNU/Linux"
    | _ => none
  Act.print ((if parts.isEmpty then "Linux" else " ".intercalate parts) ++ "\n")

end ProxyTunnel.Tool
