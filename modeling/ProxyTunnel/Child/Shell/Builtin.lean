import ProxyTunnel.Child.Format
import ProxyTunnel.Child.Shell.Condition
import ProxyTunnel.Child.Shell.Expansion
import ProxyTunnel.Child.Shell.Grammar
import ProxyTunnel.Child.Shell.Mode

/-!
The commands of the shell itself that run no other commands. Each gives its status.
-/

set_option autoImplicit false

namespace ProxyTunnel.Shell.Builtin

def names : List String :=
  [".", ":", "[", "alias", "bg", "break", "cd", "chdir", "command", "continue", "echo", "eval",
    "exec", "exit", "export", "false", "fg", "getopts", "hash", "jobs", "kill", "local", "printf",
    "pwd", "read", "readonly", "return", "set", "shift", "test", "times", "trap", "true", "type",
    "ulimit", "umask", "unalias", "unset", "wait"]

def isSpecial (name : String) : Bool := Command.specialBuiltins.contains name

def assigns (name : String) : Bool :=
  name == "export" || name == "readonly" || name == "local"

def echo (arguments : List String) : Run Nat := do
  let (feed, arguments) :=
    match arguments with
    | "-n" :: rest => (false, rest)
    | rest => (true, rest)
  let (text, stopped) :=
    Escape.interpret Escape.inShellArgument (" ".intercalate arguments)
  Run.print (text ++ if feed && !stopped then "\n" else "")

def printf (arguments : List String) : Run Nat := do
  let (_, arguments) ← Run.optionsOf "" arguments
  match arguments with
  | [] => Run.fail "usage: printf format [arg ...]"
  | format :: arguments =>
      let f := Format.run .shell format arguments
      for problem in f.problems do
        Run.report problem
      let status ← Run.print f.written
      if f.broken then return 2
      else return if f.problems.isEmpty then status else 1

def test (name : String) (arguments : List String) : Run Nat := do
  if name = "[" ∧ (arguments.getLastD "").front? ≠ some ']' then Run.fail "missing ]"
  let arguments := if name = "[" then arguments.dropLast else arguments
  match Condition.status (← get).world.tree arguments with
  | .ok status => return status
  | .error problem => Run.fail problem

def normalized (current path : String) : String :=
  let parts := Raw.splitAt '/' (if Raw.begins path "/" then path else current ++ "/" ++ path)
  let kept := parts.foldl
    (fun kept part =>
      if part = "" ∨ part = "." then kept
      else if part = ".." then kept.drop 1
      else part :: kept)
    []
  "/" ++ "/".intercalate kept.reverse

def pathOf (place : Place) : String := "/" ++ "/".intercalate (place.map Raw.ofBytes)

def workingDirectory : Run String := do
  let sh ← get
  let known := sh.valueOf "PWD"
  if Raw.begins known "/" && sh.world.tree.place (Raw.toBytes known) matches .ok _ then return known
  else return pathOf sh.world.tree.cwd

def exportValue (name value : String) : Run PUnit := do
  Run.assign name value
  Run.mark name fun v => { v with exported := true }

def cd (arguments : List String) : Run Nat := do
  let (found, arguments) ← Run.optionsOf "LP" arguments
  let m := (← get).toMemory
  let wanted := (arguments.head?.orElse fun _ => m.valueOf? "HOME").getD ""
  let back := wanted = "-"
  let wanted := if back then m.valueOf "OLDPWD" else wanted
  let path := if wanted = "" then "." else wanted
  let current ← workingDirectory
  let physical := found.any fun (c, _) => c == 'P'
  let logical := if physical then path else normalized current path
  let tree := (← get).world.tree
  match tree.enter (Raw.toBytes logical) with
  | .ok tree =>
      modify fun sh => { sh with world := { sh.world with tree } }
      let reached := if physical then pathOf tree.cwd else logical
      exportValue "OLDPWD" current
      exportValue "PWD" reached
      if back then Run.print (reached ++ "\n") else return 0
  | .error _ => Run.fail ("can't cd to " ++ wanted)

def pwd (arguments : List String) : Run Nat := do
  let (found, _) ← Run.optionsOf "LP" arguments
  if found.head?.map (·.1) = some 'P' then
    Run.print (pathOf (← get).world.tree.cwd ++ "\n")
  else Run.print ((← workingDirectory) ++ "\n")

-- The characters of a line that was read, each with whether a backslash stood before it; a
-- backslash may join lines. Also how much was taken, and whether the line had an end.
def readChars (raw : Bool) : List Char → List (Char × Bool) → Nat → List (Char × Bool) × Nat × Bool
  | [], line, taken => (line.reverse, taken, false)
  | '\n' :: _, line, taken => (line.reverse, taken + 1, true)
  | '\\' :: c :: rest, line, taken =>
      if raw then readChars raw (c :: rest) (('\\', false) :: line) (taken + 1)
      else if c = '\n' then readChars raw rest line (taken + 2)
      else readChars raw rest ((c, true) :: line) (taken + 2)
  | [c], line, taken =>
      if c = '\x00' ∨ (c = '\\' ∧ !raw) then (line.reverse, taken + 1, false)
      else (((c, false) :: line).reverse, taken + 1, false)
  | c :: rest, line, taken =>
      if c = '\x00' then readChars raw rest line (taken + 1)
      else readChars raw rest ((c, false) :: line) (taken + 1)

-- The values of variables from the characters of a line. The last one takes all that is left.
def distribute (separators : List Char) : List String → List (Char × Bool) → List (String × String)
  | [], _ => []
  | name :: names, cs =>
      let separates (c : Char × Bool) : Bool := !c.2 && separators.contains c.1
      let blank (c : Char × Bool) : Bool := !c.2 && Field.isBlankSeparator separators c.1
      let cs := cs.dropWhile blank
      match names with
      | [] =>
          let text := (cs.reverse.dropWhile blank).reverse
          let text :=
            match text.reverse with
            | c :: before =>
                if separates c && !before.any separates then before.reverse else text
            | [] => text
          [(name, Field.text text)]
      | _ =>
          let value := cs.takeWhile (!separates ·)
          let rest := (cs.drop value.length).dropWhile blank
          let rest :=
            match rest with
            | c :: more => if separates c then more else rest
            | [] => []
          (name, Field.text value) :: distribute separators names rest

def read (arguments : List String) : Run Nat := do
  let (found, vars) ← Run.optionsOf "p:r" arguments
  if vars.isEmpty then Run.fail "arg count"
  let sh ← get
  match sh.descriptors.lookup 0 with
  | none => return 1
  | some id =>
      match sh.world.remaining id with
      | .error _ => return 1
      | .ok text =>
          let raw := found.any fun (c, _) => c == 'r'
          let (line, taken, ended) := readChars raw text.toList [] 0
          set { sh with world := sh.world.advance id taken }
          for (name, value) in distribute sh.separators vars line do
            if isName name then Run.assign name value
            else Run.fail (name ++ ": bad variable name")
          return if ended then 0 else 1

def listVariables (front : String) (p : Variable → Bool) : Run Nat := do
  let vars := (← get).vars.filter p
  let sorted := vars.mergeSort fun a b => decide (a.name ≤ b.name)
  Run.print (String.join (sorted.map fun v =>
    let value := (v.value.map fun text => "=" ++ singleQuote text).getD ""
    front ++ v.name ++ value ++ "\n"))

def splitAssignment (text : String) : String × Option String :=
  let name := text.toList.takeWhile (· ≠ '=')
  if name.length < text.length then
    (String.ofList name, some (Raw.drop text (name.length + 1)))
  else (text, none)

def declare (front : String) (isMarked : Variable → Bool) (change : Variable → Variable)
    (arguments : List String) : Run Nat := do
  let (found, arguments) ← Run.optionsOf "p" arguments
  if arguments.isEmpty || !found.isEmpty then listVariables front isMarked
  else
    for a in arguments do
      let (name, value) := splitAssignment a
      if !isName name then Run.fail (name ++ ": bad variable name")
      match value with
      | some text => Run.assign name text
      | none => pure ()
      Run.mark name change
    return 0

def exportNames (arguments : List String) : Run Nat :=
  declare "export " (·.exported) (fun v => { v with exported := true }) arguments

def readonly (arguments : List String) : Run Nat :=
  declare "readonly " (·.readOnly) (fun v => { v with readOnly := true }) arguments

def unset (arguments : List String) : Run Nat := do
  let (found, names) ← Run.optionsOf "vf" arguments
  for name in names do
    if found.head?.map (·.1) = some 'f' then
      modify fun sh => { sh with functions := sh.functions.filter fun (n, _) => n ≠ name }
    else if isName name then Run.unsetVariable name
    else Run.fail (name ++ ": bad variable name")
  return 0

def localNames (arguments : List String) : Run Nat := do
  match (← get).hidden with
  | [] => Run.fail "not in a function"
  | frame :: frames =>
      let mut frame := frame
      for a in arguments do
        let (name, value) := splitAssignment a
        if !isName name then Run.fail (name ++ ": bad variable name")
        let sh ← get
        if !frame.any fun (n, _) => n == name then
          frame := (name, sh.lookup? name) :: frame
          set { sh with hidden := frame :: frames }
        match value with
        | some text => Run.assign name text
        | none => pure ()
      return 0

def setArguments (arguments : List String) : Run Nat := do
  if arguments.isEmpty then listVariables "" fun v => v.value.isSome
  else
    let (_, dashes, rest) ← Run.followOptions false (arguments.length + 1) false arguments
    if dashes || !rest.isEmpty then modify fun sh => { sh with arguments := rest }
    return 0

def shift (arguments : List String) : Run Nat := do
  let count ← match arguments with
    | [] => pure 1
    | a :: _ => Run.number a
  let sh ← get
  if sh.arguments.length < count then Run.fail "can't shift that many"
  set { sh with arguments := sh.arguments.drop count }
  return 0

def nameless : Nat := 16

def signalOf? (text : String) (zeroToo : Bool) : Option Nat :=
  match Decimal.read? text.toList with
  | some n => if n ≤ Signal.last then some n else none
  | none =>
      if zeroToo && text.toUpper = "EXIT" then some 0
      else
        let found := (Signal.ofName? ("SIG" ++ text.toUpper)).map (·.number)
        found.filter (· ≠ nameless)

def signalName (n : Nat) : String :=
  if n = 0 then "EXIT"
  else
    match if n = nameless then none else (⟨n⟩ : Signal).name? with
    | some name => Raw.drop name 3
    | none =>
        if n = Signal.firstRealTime then "RTMIN"
        else if n = Signal.last then "RTMAX"
        else if n < Signal.firstRealTime then toString n
        else if n ≤ 49 then "RTMIN+" ++ toString (n - Signal.firstRealTime)
        else "RTMAX-" ++ toString (Signal.last - n)

def killUsage : String :=
  "Usage: kill [-s sigspec | -signum | -sigspec] [pid | job]... or\nkill -l [exitstatus]"

def sendAll (s : Nat) (pids : List String) : Run Nat := do
  let mut status := 0
  for text in pids do
    let sh ← get
    let isGroup := Raw.begins text "-"
    let pid ←
      if Raw.begins text "%" then
        match sh.jobs.head? with
        | some job => pure job.pid
        | none => Run.fail ("No such job: " ++ text)
      else Run.number (if isGroup then Raw.drop text 1 else text)
    let pid := if pid = 0 then sh.pid else pid
    let (sent, world) := sh.world.send ⟨s⟩ pid
    if sent then set { sh with world }
    else
      Run.report "No such process\n"
      status := 1
  return status

def kill (arguments : List String) : Run Nat := do
  let send (s : Nat) (pids : List String) : Run Nat :=
    if pids.isEmpty then Run.fail killUsage else sendAll s pids
  match arguments with
  | [] => Run.fail killUsage
  | first :: rest =>
      match first.toList with
      | '-' :: cs =>
          match signalOf? (String.ofList cs) false with
          | some s => send s rest
          | none =>
              let (found, rest) ← Run.optionsOf "ls:" arguments
              match found with
              | [] => send 15 rest
              | ('s', text) :: _ =>
                  match signalOf? text false with
                  | some s => send s rest
                  | none => Run.fail ("invalid signal number or name: " ++ text)
              | _ =>
                  match rest with
                  | [] =>
                      Run.print ("0\n" ++ String.join ((List.range Signal.last).map fun n =>
                        signalName (n + 1) ++ "\n"))
                  | text :: _ =>
                      let n ← Run.number text
                      let n := if 128 < n then n - 128 else n
                      if 0 < n ∧ n ≤ Signal.last then Run.print (signalName n ++ "\n")
                      else Run.fail ("invalid signal number or exit status: " ++ text)
      | _ => send 15 arguments

def setTrap (s : Nat) (action : Option String) : Run PUnit :=
  modify fun sh =>
    let others := sh.traps.filter fun (n, _) => n ≠ s
    { sh with traps := (action.map fun text => (s, text)).toList ++ others }

def trap (arguments : List String) : Run Nat := do
  let (_, arguments) ← Run.optionsOf "" arguments
  match arguments with
  | [] =>
      let traps := (← get).traps.mergeSort fun a b => decide (a.1 ≤ b.1)
      Run.print (String.join (traps.map fun (n, action) =>
        "trap -- " ++ singleQuote action ++ " " ++ signalName n ++ "\n"))
  | first :: rest =>
      let isNumber := (Decimal.read? first.toList).isSome
      let (action, signals) :=
        if rest.isEmpty || isNumber then (none, arguments)
        else (if first = "-" then none else some first, rest)
      let mut status := 0
      for text in signals do
        if status = 0 then
          match signalOf? text true with
          | some n => setTrap n action
          | none =>
              Run.mutter ("trap: " ++ text ++ ": bad trap\n")
              status := 1
      return status

-- Where in an argument the next option letter stands: the letters that are left, and the arguments
-- behind.
def optionLetters (arguments : List String) (number place : Nat) :
    Option (List Char × Nat × Bool) :=
  let whole := arguments[number - 1]?
  match whole.map String.toList with
  | none => none
  | some cs =>
      if 0 < place then some (cs.drop place, place, true)
      else
        match cs with
        | ['-', '-'] => some ([], 0, false)
        | '-' :: c :: rest => some (c :: rest, 1, true)
        | _ => none

def getopts (arguments : List String) : Run Nat := do
  match arguments with
  | [] | [_] => Run.fail "Usage: getopts optstring var [arg...]"
  | allowed :: name :: given =>
      let sh ← get
      let values := if given.isEmpty then sh.arguments else given
      let number := max ((Decimal.read? (sh.valueOf "OPTIND").toList).getD 1) 1
      let finish (number place : Nat) (found : String) (status : Nat) : Run Nat := do
        Run.assign "OPTIND" (toString number)
        Run.assign name found
        modify fun sh => { sh with optionPlace := place }
        return status
      match optionLetters values number sh.optionPlace with
      | none => finish number 0 "?" 1
      | some (_, _, false) => finish (number + 1) 0 "?" 1
      | some ([], _, true) => finish number 0 "?" 1
      | some (c :: cs, place, true) =>
          let following := if cs.isEmpty then (number + 1, 0) else (number, place + 1)
          let silent := Raw.begins allowed ":"
          match allowed.toList.dropWhile fun d => d ≠ c || d == ':' with
          | [] =>
              if silent then Run.assign "OPTARG" (String.singleton c)
              else
                Run.mutter ("Illegal option -" ++ String.singleton c ++ "\n")
                Run.unsetVariable "OPTARG"
              finish following.1 following.2 "?" 0
          | _ :: ':' :: _ =>
              match cs, values[number]? with
              | [], some value =>
                  Run.assign "OPTARG" value
                  finish (number + 2) 0 (String.singleton c) 0
              | [], none =>
                  if silent then
                    Run.assign "OPTARG" (String.singleton c)
                    finish (number + 1) 0 ":" 0
                  else
                    Run.mutter ("No arg for -" ++ String.singleton c ++ " option\n")
                    Run.unsetVariable "OPTARG"
                    finish (number + 1) 0 "?" 0
              | cs, _ =>
                  Run.assign "OPTARG" (String.ofList cs)
                  finish (number + 1) 0 (String.singleton c) 0
          | _ =>
              Run.assign "OPTARG" ""
              finish following.1 following.2 (String.singleton c) 0

def searchPath (m : Memory) : List String := Raw.splitAt ':' (m.valueOf "PATH")

def pathOfProgram (tree : FileTree) (directories : List String) (name : String) : Option String :=
  let paths := directories.map fun directory =>
    if directory = "" then name else directory ++ "/" ++ name
  paths.find? fun path => tree.isFile (Raw.toBytes path)

def knows (m : Memory) (name : String) : Bool :=
  name.toList.contains '/' || names.contains name || (m.functions.lookup name).isSome
    || (m.known.lookup name).isSome

def remember (name : String) : Run PUnit := do
  let sh ← get
  if knows sh.toMemory name then return ()
  match pathOfProgram sh.world.tree (searchPath sh.toMemory) name with
  | some path => set { sh with known := sh.known ++ [(name, path)] }
  | none => return ()

def describe (name : String) (inWords : Bool) : Run Nat := do
  let sh ← get
  let say (words short : String) : Run Nat :=
    Run.print ((if inWords then name ++ words else short) ++ "\n")
  if keywords.contains name then say " is a shell keyword" name
  else if let some text := sh.aliases.lookup name then
    say (" is an alias for " ++ text) ("alias " ++ name ++ "=" ++ singleQuote text)
  else if sh.functions.any fun (n, _) => n == name then say " is a shell function" name
  else if isSpecial name then say " is a special shell builtin" name
  else if names.contains name then say " is a shell builtin" name
  else if let some path := sh.known.lookup name then say (" is a tracked alias for " ++ path) path
  else
    remember name
    let found :=
      if name.toList.contains '/' then
        if sh.world.tree.isFile (Raw.toBytes name) then some name else none
      else pathOfProgram sh.world.tree (searchPath sh.toMemory) name
    match found with
    | some path => say (" is " ++ path) path
    | none =>
        if inWords then
          let _ ← Run.print (name ++ ": not found\n")
        return 127

def type (arguments : List String) : Run Nat := do
  let mut status := 0
  for name in arguments do
    let found ← describe name true
    if status = 0 then status := found
  return status

def usualMask : Nat := 18

-- Shows or sets the permissions that new files do not get; with letters, those that they get.
def umask (arguments : List String) : Run Nat := do
  let (found, rest) ← Run.optionsOf "S" arguments
  let granted := Mode.full - (← get).mask
  let setMask (mask : Nat) : Run Nat := do
    modify fun sh => { sh with mask }
    return 0
  match rest with
  | [] =>
      let mask := Mode.full - granted
      Run.print ((if found.isEmpty then Mode.inOctal mask else Mode.inLetters granted) ++ "\n")
  | text :: _ =>
      if (text.toList.head?.map Char.isDigit).getD false then
        match Mode.octal? text with
        | some mask => setMask mask
        | none => Run.fail ("Illegal number: " ++ text)
      else
        match Mode.changed? granted text with
        | some mode => setMask (Mode.full - mode)
        | none => Run.fail ("Illegal mode: " ++ text)

def loopCount (arguments : List String) : Run Nat := do
  match arguments with
  | [] => return 1
  | a :: _ =>
      let n ← Run.number a
      if n = 0 then Run.fail ("Illegal number: " ++ a)
      return n

def leaveLoops (arguments : List String) (stop : Nat → Stop) : Run Nat := do
  let count ← loopCount arguments
  let sh ← get
  if sh.loops = 0 then return 0
  else
    Run.setLast 0
    throw (stop (min count sh.loops))

-- The status that an argument spells; the last one if there is none.
def statusOf (arguments : List String) : Run Nat := do
  match arguments with
  | [] => return (← get).last
  | a :: _ => Run.number a

-- Shows the programs that are kept in mind, or looks for some; or forgets all.
def hash (arguments : List String) : Run Nat := do
  let (found, arguments) ← Run.optionsOf "r" arguments
  if !found.isEmpty then
    modify fun sh => { sh with known := [] }
    return 0
  if arguments.isEmpty then
    let ordered := inRows 31 (·.1) (← get).known
    let _ ← Run.print (String.join (ordered.map fun (_, path) => path ++ "\n"))
  let mut status := 0
  for name in arguments do
    remember name
    if !knows (← get).toMemory name then
      Run.report (name ++ ": not found")
      status := 1
  return status

def aliasLine (definition : String × String) : String :=
  definition.1 ++ "=" ++ singleQuote definition.2 ++ "\n"

def defineAliases (arguments : List String) : Run Nat := do
  if arguments.isEmpty then
    let _ ← Run.print (String.join ((inRows 39 (·.1) (← get).aliases).map aliasLine))
  let mut status := 0
  for a in arguments do
    let known := (← get).aliases
    let name := a.toList.take 1 ++ (a.toList.drop 1).takeWhile (· ≠ '=')
    let key := String.ofList name
    if name.length < a.length then
      let text := Raw.drop a (name.length + 1)
      let aliases :=
        if (known.lookup key).isSome then
          known.map fun (n, old) => (n, if n = key then text else old)
        else known ++ [(key, text)]
      modify fun sh => { sh with aliases }
    else
      match known.lookup a with
      | some text =>
          let _ ← Run.print (aliasLine (a, text))
      | none =>
          Run.mutter ("alias: " ++ a ++ " not found\n")
          status := 1
  return status

def dropAliases (arguments : List String) : Run Nat := do
  let (found, names) ← Run.optionsOf "a" arguments
  let mut status := 0
  if !found.isEmpty then modify fun sh => { sh with aliases := [] }
  else
    for name in names do
      if ((← get).aliases.lookup name).isNone then
        Run.mutter ("unalias: " ++ name ++ " not found\n")
        status := 1
      modify fun sh => { sh with aliases := sh.aliases.filter fun (n, _) => n ≠ name }
  return status

def run? (name : String) : Option (List String → Run Nat) :=
  match name with
  | ":" | "true" => some fun _ => return 0
  | "false" => some fun _ => return 1
  | "echo" => some echo
  | "printf" => some printf
  | "[" | "test" => some (test name)
  | "cd" | "chdir" => some cd
  | "pwd" => some pwd
  | "read" => some read
  | "export" => some exportNames
  | "readonly" => some readonly
  | "unset" => some unset
  | "local" => some localNames
  | "set" => some setArguments
  | "shift" => some shift
  | "kill" => some kill
  | "trap" => some trap
  | "getopts" => some getopts
  | "type" => some type
  | "umask" => some umask
  | "hash" => some hash
  | "break" => some fun arguments => leaveLoops arguments .leave
  | "continue" => some fun arguments => leaveLoops arguments .skip
  | "return" => some fun arguments => do
      Run.setLast (← statusOf arguments)
      throw .back
  | "exit" => some fun arguments => do
      Run.setLast (← statusOf arguments)
      throw (.exit (!arguments.isEmpty))
  | "alias" => some defineAliases
  | "unalias" => some dropAliases
  | "times" => some fun _ => Run.print "0m0.000000s 0m0.000000s\n0m0.000000s 0m0.000000s\n"
  | "ulimit" => some fun _ => Run.print "unlimited\n"
  | "jobs" => some fun arguments => do
      let (_, wanted) ← Run.optionsOf "lp" arguments
      match wanted with
      | [] => return 0
      | job :: _ => Run.fail ("No such job: " ++ job)
  | "bg" | "fg" => some fun arguments =>
      match arguments with
      | [] => Run.fail "No current job"
      | job :: _ => Run.fail ("No such job: " ++ job)
  | _ => none

end ProxyTunnel.Shell.Builtin
