import ProxyTunnel.Child.Linker
import ProxyTunnel.Child.Shell.Builtin
import ProxyTunnel.Child.Shell.Redirect
import ProxyTunnel.Child.Tool.Catalog

/-!
Execution of scripts. Every function takes an engine that runs nested parts; engines are built on
one another up to a depth, so that everything ends.
-/

set_option autoImplicit false

namespace ProxyTunnel.Shell

namespace Execution

def maxRounds : Nat := 200000

def killSignal : Signal := ⟨9⟩

def pipeSignal : Signal := ⟨13⟩

def runLines (e : Engine) : Nat → Bool → Source → Run Bool
  | 0, _, _ => throw .exhausted
  | n + 1, ran, source => do
      match Line.read (source.withAliases (← get).aliases) with
      | .finished => return ran
      | .mistake complaint =>
          modify fun sh => { sh with line := complaint.line }
          Run.fail complaint.text
      | .command none rest => runLines e n ran rest
      | .command (some command) rest =>
          modify fun sh => { sh with reading := rest.line }
          e.run .plain command
          runLines e n true rest

def runText (e : Engine) (text : String) : Run Bool := do
  let reading := (← get).reading
  let ran ← runLines e (text.length + 2) false (.ofText text 1)
  modify fun sh => { sh with reading }
  return ran

-- Runs the action of a trap; the status of the last command stays as it was.
def runAction (e : Engine) (action : String) : Run PUnit := do
  let before := (← get).last
  tryCatch
    (do
      let _ ← runText e action
      Run.setLast before)
    fun stop => do
      if stop = .exit false then Run.setLast before
      throw stop

def deliver (e : Engine) : Run PUnit := do
  let sh ← get
  if sh.world.pending.isEmpty then return ()
  let (signals, world) := sh.world.collect sh.pid
  set { sh with world }
  for s in signals do
    match if s = killSignal then none else sh.traps.lookup s.number with
    | some "" => pure ()
    | some action => runAction e action
    | none => if s.ends then throw (.killed s)

def Memory.withoutActions (m : Memory) : Memory :=
  { m with traps := m.traps.filter fun (n, action) => n ≠ 0 && action = "" }

def runJob (e : Engine) (job : Job) (conclude : Except Stop PUnit × Shell → World × WaitStatus)
    (w : World) : World × WaitStatus :=
  let cwd := w.tree.cwd
  let w := { w with tree := { w.tree with cwd := job.cwd } }
  let (w, status) := conclude (e.run ⟨false, true⟩ job.command ⟨job.memory, w, []⟩)
  ({ w with tree := { w.tree with cwd } }, status)

-- The end of a process: what is left of the world, and the status. The action for the end of the
-- shell comes first.
def conclude (e : Engine) (outcome : Except Stop PUnit × Shell) : World × WaitStatus :=
  let ended (status : Nat) (sh : Shell) : World × WaitStatus := (sh.world, .exited status)
  match outcome with
  | (.error (.killed s), sh) => (sh.world, .killed s)
  | (.error (.became status), sh) => (sh.world, status)
  | (.error .exhausted, sh) => (sh.world, .killed ⟨11⟩)
  | (_, sh) =>
      match sh.traps.lookup 0 with
      | none => ended sh.last sh
      | some action =>
          let quiet := { sh with traps := sh.traps.filter fun (n, _) => n ≠ 0 }
          match (runText e action).run.run quiet with
          | (.error (.killed s), after) => (after.world, .killed s)
          | (.error (.became status), after) => (after.world, status)
          | (.error (.exit true), after) => ended after.last after
          | (_, after) => ended sh.last after

-- Runs the jobs of a shell that are still to be run, in the order of their delays, as far as `p`
-- holds of them.
def settle (e : Engine) (p : Job → Bool) (sh : Shell) : Shell :=
  let open_ := (sh.jobs.filter fun job => job.status.isNone && p job).mergeSort
    fun a b => decide (a.delay ≤ b.delay)
  open_.foldl
    (fun sh job =>
      let (world, status) := runJob e job (conclude e) sh.world
      let jobs := sh.jobs.map fun other =>
        if other.pid = job.pid then { other with status := some status } else other
      { sh with world, jobs })
    sh

def finish (e : Engine) (outcome : Except Stop PUnit × Shell) : World × WaitStatus :=
  let (world, status) := conclude e outcome
  let left := settle e (fun _ => true) { outcome.2 with world }
  (left.world, status)

def pass (e : Engine) (milliseconds : Nat) : Run PUnit :=
  modify fun sh =>
    let sh := settle e (fun job => job.delay ≤ milliseconds) sh
    { sh with jobs := sh.jobs.map fun job => { job with delay := job.delay - milliseconds } }

def forked (sh : Shell) : Shell :=
  let (pid, world) := sh.world.newProcess
  { Memory.withoutActions sh.toMemory with pid, parent := sh.pid, world, jobs := [] }

def fork (e : Engine) (change : Shell → Shell) (body : Run PUnit) : Run WaitStatus := fun sh =>
  let child := change (forked sh)
  let (w, status) := finish e (body child)
  let world := { w.reap child.pid with tree := { w.tree with cwd := sh.world.tree.cwd } }
  (.ok status, { sh with world })

def tellEnd (status : WaitStatus) : Run PUnit := do
  match status.signal? with
  | some s => if s ≠ .interrupt ∧ s ≠ pipeSignal then Run.mutter (s.farewell ++ "\n")
  | none => return ()

def acknowledge (status : WaitStatus) : Run PUnit := do
  tellEnd status
  Run.setLast status.exitCode

def faultText (fault : PathFault) : String :=
  if fault = .notFound ∨ fault = .notDirectory then "not found" else fault.text

def faultStatus (fault : PathFault) : Nat :=
  match fault with
  | .notFound | .notDirectory | .tooManyLinks | .nameTooLong => 127
  | _ => 126

-- Tries paths one after another. Of what is wrong with them the last that is more than absence is
-- reported.
def firstOf (tree : FileTree) (fault : PathFault) : List String → Except PathFault Found
  | [] => .error fault
  | path :: rest =>
      match Search.atPath tree (Raw.toBytes path) with
      | .ok found => .ok found
      | .error .notFound | .error .notDirectory => firstOf tree fault rest
      | .error fault => firstOf tree fault rest

def program (tree : FileTree) (directories : List String) (name : String) :
    Except (PathFault × Nat) Found :=
  if name.toList.contains '/' then
    match Search.atPath tree (Raw.toBytes name) with
    | .ok found => .ok found
    | .error fault => .error (fault, faultStatus fault)
  else
    let paths := directories.map fun directory =>
      if directory = "" then name else directory ++ "/" ++ name
    let behind := paths.dropWhile fun path => !tree.isFile (Raw.toBytes path)
    match firstOf tree .notFound (if behind.isEmpty then paths else behind) with
    | .ok found => .ok found
    | .error fault => .error (fault, if behind.isEmpty then 127 else faultStatus fault)

def startOf (sh : Shell) (pid parent : Nat) (name : String) (arguments : List String) : Start :=
  ⟨pid, parent, name, arguments, sh.toMemory.environment, sh.descriptors,
    (sh.traps.filter fun (_, action) => action = "").map (·.1)⟩

def become (e : Engine) (found : Found) (name : String) (arguments : List String) :
    Run PUnit := do
  let sh ← get
  let (world, status) := e.execute found (startOf sh sh.pid sh.parent name arguments) sh.world
  set { sh with world }
  throw (.became status)

def call (e : Engine) (found : Found) (name : String) (arguments : List String) : Run PUnit := do
  if found matches .program (.tool "sleep") then pass e (Tool.sleepTime arguments)
  let sh ← get
  let (pid, world) := sh.world.newProcess
  let (w, status) := e.execute found (startOf sh pid sh.pid name arguments) world
  set { sh with
    world := { w.reap pid with tree := { w.tree with cwd := sh.world.tree.cwd } } }
  acknowledge status

def external (e : Engine) (setting : Setting) (name : String) (arguments : List String) :
    Run PUnit := do
  let sh ← get
  match program sh.world.tree (Builtin.searchPath sh.toMemory) name with
  | .ok found =>
      Builtin.remember name
      if setting.final && sh.traps.isEmpty then become e found name arguments
      else call e found name arguments
  | .error (fault, status) =>
      Run.report (name ++ ": " ++ faultText fault)
      Run.setLast status

def builtin (name : String) (special : Bool) (action : Run Nat) : Run PUnit := fun sh =>
  let (result, after) := action { sh with builtin := some name }
  let after := { after with builtin := sh.builtin }
  match result with
  | .ok status => (.ok (), { after with last := status })
  | .error .failure => (if special then .error .failure else .ok (), after)
  | .error stop => (.error stop, after)

def restoreVariables (old : List (String × Option Variable)) (sh : Shell) : Shell :=
  old.foldl
    (fun sh (name, v) =>
      let vars :=
        match v with
        | some v => replaceVariable sh.vars v
        | none => sh.vars.filter fun v => v.name ≠ name
      { sh with vars })
    sh

def maxFunctions : Nat := 1000

-- Runs a computation with arguments of its own. Variables that it hides come back at its end.
def inFrame (arguments : List String) (body : Run PUnit) : Run PUnit := fun sh =>
  let inside := { sh with arguments, loops := 0, hidden := [] :: sh.hidden }
  let (result, after) := body inside
  let after := restoreVariables (after.hidden.headD []) after
  let after := { after with arguments := sh.arguments, loops := sh.loops, hidden := sh.hidden }
  match result with
  | .error .back => (.ok (), after)
  | result => (result, after)

def function (e : Engine) (setting : Setting) (body : Command) (arguments : List String) :
    Run PUnit := do
  if maxFunctions ≤ (← get).hidden.length then
    Run.fail s!"Maximum function recursion depth ({maxFunctions}) reached"
  inFrame arguments (e.run ⟨setting.tested, false⟩ body)

def sourcePath (name : String) : Run String := do
  if name.toList.contains '/' then return name
  else
    let sh ← get
    match Builtin.pathOfProgram sh.world.tree (Builtin.searchPath sh.toMemory) name with
    | some path => return path
    | none => Run.fail (name ++ ": not found")

def source (e : Engine) (arguments : List String) : Run Nat := do
  match arguments with
  | [] => return 0
  | name :: _ =>
      let path ← sourcePath name
      let sh ← get
      match sh.world.tree.place (Raw.toBytes path) with
      | .error fault => Redirect.cannot "open" path fault "No such file"
      | .ok place =>
          let text := Raw.ofBytes (sh.world.tree.contents place)
          set { sh with builtin := some path }
          let ran ← tryCatch (runText e text) fun stop =>
            if stop = .back then return true else throw stop
          if ran then return (← get).last else return 0

def wait (e : Engine) (arguments : List String) : Run Nat := do
  match arguments with
  | [] =>
      modify fun sh =>
        let sh := settle e (fun _ => true) sh
        { sh with
          world := sh.jobs.foldl (fun w job => w.reap job.pid) sh.world
          jobs := [] }
      deliver e
      return 0
  | _ =>
      let mut status := 0
      for text in arguments do
        let sh ← get
        let pid ←
          if Raw.begins text "%" then
            match sh.jobs.head? with
            | some job => pure job.pid
            | none => Run.fail ("No such job: " ++ text)
          else Run.number text
        modify (settle e fun job => job.pid = pid)
        let sh ← get
        match sh.jobs.find? fun job => job.pid = pid with
        | none => status := 127
        | some job =>
            let ended := job.status.getD (.exited 127)
            tellEnd ended
            status := ended.exitCode
            modify fun sh => { sh with
              world := sh.world.reap pid
              jobs := sh.jobs.filter fun job => job.pid ≠ pid }
      deliver e
      return status

def running? (e : Engine) (setting : Setting) (name : String) : Option (List String → Run Nat) :=
  match name with
  | "eval" => some fun arguments => do
      let ran ← runText { e with run := fun s c => e.run ⟨s.tested || setting.tested, s.final⟩ c }
        (" ".intercalate arguments)
      if ran then return (← get).last else return 0
  | "." => some (source e)
  | "wait" => some (wait e)
  | "command" => some fun arguments => do
      let (found, rest) ← Run.optionsOf "pvV" arguments
      match rest with
      | [] => return 0
      | name :: _ => Builtin.describe name (found.any fun (c, _) => c == 'V')
  | "exec" => some fun arguments => do
      let arguments := if arguments.head? = some "--" then arguments.tail else arguments
      match arguments with
      | [] => return 0
      | name :: rest =>
          let sh ← get
          match program sh.world.tree (Builtin.searchPath sh.toMemory) name with
          | .ok found =>
              become e found name rest
              return 0
          | .error (fault, status) =>
              Run.report (name ++ ": " ++ faultText fault)
              Run.setLast (faultStatus fault |> max status)
              throw (.exit false)
  | name => Builtin.run? name

-- The words of a simple command as texts. Arguments of some commands stay whole where they are
-- assignments.
def arguments (e : Engine) : List Word → Run (List String)
  | [] => return []
  | word :: rest => do
      match ← Expansion.fields e [word] with
      | [] => arguments e rest
      | first :: others =>
          let name := first
          if Builtin.assigns name then
            let mut found := first :: others
            for word in rest do
              match Word.assignment? word with
              | some (given, value) =>
                  found := found ++ [given ++ "=" ++ (← Expansion.whole e value)]
              | none => found := found ++ (← Expansion.fields e [word])
            return found
          else return first :: others ++ (← Expansion.fields e rest)

-- Removes the command that asks for a command of the shell or a program, not for a function; says
-- whether it was there.
def withoutPrefix : Nat → Bool → List String → Bool × List String
  | n + 1, _, "command" :: "-p" :: a :: rest => withoutPrefix n true (a :: rest)
  | n + 1, _, "command" :: "--" :: a :: rest => withoutPrefix n true (a :: rest)
  | n + 1, direct, "command" :: a :: rest =>
      if Raw.begins a "-" then (direct, "command" :: a :: rest)
      else withoutPrefix n true (a :: rest)
  | _, direct, words => (direct, words)

def trace (target : Option Nat) (parts : List String) : Run PUnit := do
  let sh ← get
  match target with
  | some id =>
      let line := sh.valueOf "PS4" ++ " ".intercalate parts ++ "\n"
      set { sh with world := (sh.world.write id line).getD sh.world }
  | none => return ()

def assignAll (e : Engine) (temporary : Bool) (exported : Bool)
    (assignments : List (String × Word)) : Run (List (String × Option Variable) × List String) := do
  let mut hidden := []
  let mut shown := []
  for (name, word) in assignments do
    let value ← Expansion.whole e word
    let old := (← get).lookup? name
    Run.assign name value
    if temporary || exported then Run.mark name fun v => { v with exported := true }
    hidden := (name, old) :: hidden
    shown := shown ++ [name ++ "=" ++ value]
  return (if temporary then hidden else [], shown)

def undoing (hidden : List (String × Option Variable)) (body : Run PUnit) : Run PUnit := fun sh =>
  let (result, after) := body sh
  (result, restoreVariables hidden after)

def opens (openings : List Redirect.Opening) : Run Bool := do
  tryCatch
    (do
      for o in openings do Redirect.apply o
      return true)
    fun stop => if stop = .failure then return false else throw stop

def dispatch (e : Engine) (setting : Setting) (direct : Bool) (words : List String) :
    Run PUnit := do
  match words with
  | [] =>
      let sh ← get
      set { sh with last := sh.captured.getD 0 }
  | name :: arguments =>
      let sh ← get
      let special := Builtin.isSpecial name
      let own := (running? e setting name).map fun action =>
        builtin name (special && !direct) (action arguments)
      match if special || direct then none else sh.functions.lookup name, own with
      | some body, _ => function e setting body arguments
      | none, some body => body
      | none, none => external e setting name arguments

def simple (e : Engine) (setting : Setting) (assignments : List (String × Word))
    (words : List Word) (redirections : List Redirection) : Run PUnit := do
  modify fun sh => { sh with captured := none }
  let words ← arguments e words
  let (direct, words) := withoutPrefix words.length false words
  let name := words.headD ""
  let special := !direct && Builtin.isSpecial name
  let permanent := name = "exec" && words.length = 1
  let openings ← redirections.mapM (Redirect.expand e)
  let before := (← get).descriptors
  let body : Run PUnit := do
    if ← opens openings then
      let temporary := !words.isEmpty && !special
      let (hidden, shown) ← assignAll e temporary (name = "exec" && 1 < words.length) assignments
      undoing hidden do
        if (← get).options.contains 'x' then trace (before.lookup 2) (shown ++ words)
        dispatch e setting direct words
    else
      Run.setLast 2
      if special then throw .failure
  if permanent then body else Redirect.restoring body

def afterRound (result : Except Stop PUnit) (sh : Shell) : Except Stop (Option Nat) :=
  match result with
  | .ok () => .ok (some sh.last)
  | .error (.skip n) => if n ≤ 1 then .ok (some sh.last) else .error (.skip (n - 1))
  | .error (.leave n) => if n ≤ 1 then .ok none else .error (.leave (n - 1))
  | .error stop => .error stop

def rounds (e : Engine) (tested whileFailing : Bool) (condition body : Command) :
    Nat → Nat → Shell → Except Stop PUnit × Shell
  | 0, _, sh => (.error .exhausted, sh)
  | n + 1, status, sh =>
      let (result, sh) := e.run .testing condition sh
      let skipped := result matches .error (.skip 1)
      match afterRound result sh with
      | .error stop => (.error stop, sh)
      | .ok none => (.ok (), { sh with last := status })
      | .ok (some answer) =>
          if skipped then rounds e tested whileFailing condition body n status sh
          else if (answer = 0) = whileFailing then (.ok (), { sh with last := status })
          else
            let (result, sh) := e.run ⟨tested, false⟩ body sh
            match afterRound result sh with
            | .error stop => (.error stop, sh)
            | .ok none => (.ok (), sh)
            | .ok (some status) => rounds e tested whileFailing condition body n status sh

def overWords (e : Engine) (tested : Bool) (name : String) (body : Command) :
    List String → Shell → Except Stop PUnit × Shell
  | [], sh => (.ok (), sh)
  | word :: rest, sh =>
      match (Run.assign name word).run.run sh with
      | (.error stop, sh) => (.error stop, sh)
      | (.ok _, sh) =>
          let (result, sh) := e.run ⟨tested, false⟩ body sh
          match afterRound result sh with
          | .error stop => (.error stop, sh)
          | .ok none => (.ok (), sh)
          | .ok (some _) => overWords e tested name body rest sh

def asLoop (body : Shell → Except Stop PUnit × Shell) : Run PUnit := fun sh =>
  let (result, after) := body { sh with loops := sh.loops + 1 }
  (result, { after with loops := sh.loops })

def sequence (e : Engine) (setting : Setting) : List Command → Shell → Except Stop PUnit × Shell
  | [], sh => (.ok (), sh)
  | [command], sh => e.run setting command sh
  | command :: rest, sh =>
      match e.run ⟨setting.tested, false⟩ command sh with
      | (.ok _, sh) => sequence e setting rest sh
      | stopped => stopped

def rememberProgram (command : Command) : Run PUnit := do
  match command with
  | .simple _ _ ([.literal name false] :: _) _ => if isName name then Builtin.remember name
  | _ => return ()

def stages (e : Engine) (tested : Bool) : Option Nat → List Command → Run PUnit
  | _, [] => return ()
  | input, stage :: rest => do
      rememberProgram stage
      let sh ← get
      let (id, world) := sh.world.addFile World.pipe
      set { sh with world }
      let change (child : Shell) : Shell :=
        let fds := child.descriptors
        let fds := (input.map fun id => (0, id) :: fds.filter fun (n, _) => n ≠ 0).getD fds
        let fds := if rest.isEmpty then fds else (1, id) :: fds.filter fun (n, _) => n ≠ 1
        { child with descriptors := fds }
      acknowledge (← fork e change (e.run ⟨tested, true⟩ stage))
      stages e tested (some id) rest

def subshell (e : Engine) (setting : Setting) (command : Command) : Run PUnit := do
  let sh ← get
  if setting.final && sh.traps.isEmpty then
    e.run setting command
    throw (.exit false)
  else acknowledge (← fork e id (e.run ⟨setting.tested, true⟩ command))

def sleepOf : Nat → Command → Option Nat
  | 0, _ => none
  | n + 1, command =>
      match command with
      | .simple _ _ words _ =>
          match words.map Word.plain? with
          | some "sleep" :: arguments => some (Tool.sleepTime (arguments.filterMap id))
          | some "exec" :: some "sleep" :: arguments =>
              some (Tool.sleepTime (arguments.filterMap id))
          | _ => none
      | .sequence commands | .pipeline commands => commands.findSome? (sleepOf n)
      | .both a b | .either a b | .loop _ a b => (sleepOf n a).orElse fun _ => sleepOf n b
      | .conditional a b _ => (sleepOf n a).orElse fun _ => sleepOf n b
      | .negation a | .background a | .subshell a | .redirected _ a _ | .each _ _ _ a => sleepOf n a
      | _ => none

def background (e : Engine) (command : Command) : Run PUnit := do
  let sh ← get
  let child := forked sh
  let fds := child.descriptors.filter fun (n, _) => n ≠ 0
  let memory := { child.toMemory with descriptors := (0, World.nowhere) :: fds }
  let delay := sleepOf 50 command
  let job : Job := ⟨child.pid, command, memory, sh.world.tree.cwd, delay.getD 0, none⟩
  set { sh with world := child.world, jobs := job :: sh.jobs, background := some child.pid }
  if delay.isNone then modify (settle e fun other => other.pid = child.pid)
  Run.setLast 0

def matchesAny (e : Engine) (text : String) : List Word → Run Bool
  | [] => return false
  | word :: rest => do
      if (← Expansion.pattern e word).accepts text.toList then return true
      else matchesAny e text rest

def choose (e : Engine) (setting : Setting) (text : String) :
    List (List Word × Option Command) → Run PUnit
  | [] => Run.setLast 0
  | (patterns, body) :: rest => do
      if ← matchesAny e text patterns then
        match body with
        | some command => e.run setting command
        | none => Run.setLast 0
      else choose e setting text rest

def runBare (e : Engine) (setting : Setting) (command : Command) : Run PUnit := do
  match command with
  | .simple line assignments words redirections =>
      modify fun sh => { sh with line }
      simple e setting assignments words redirections
  | .sequence commands => fun sh => sequence e setting commands sh
  | .both first second =>
      e.run .testing first
      if (← get).last = 0 then e.run setting second
  | .either first second =>
      e.run .testing first
      if (← get).last ≠ 0 then e.run setting second
  | .negation command =>
      e.run .testing command
      Run.setLast (if (← get).last = 0 then 1 else 0)
  | .pipeline commands => stages e setting.tested none commands
  | .background command => background e command
  | .subshell command => subshell e setting command
  | .redirected line command redirections =>
      modify fun sh => { sh with line }
      let openings ← redirections.mapM (Redirect.expand e)
      Redirect.restoring do
        if ← opens openings then e.run ⟨setting.tested, false⟩ command else Run.setLast 2
  | .conditional condition consequence alternative =>
      e.run .testing condition
      if (← get).last = 0 then e.run setting consequence
      else
        match alternative with
        | some command => e.run setting command
        | none => Run.setLast 0
  | .loop whileFailing condition body =>
      asLoop (rounds e setting.tested whileFailing condition body maxRounds 0)
  | .each line name words body =>
      modify fun sh => { sh with line }
      let texts ← Expansion.fields e words
      Run.setLast 0
      asLoop (overWords e setting.tested name body texts)
  | .choice line word cases =>
      modify fun sh => { sh with line }
      choose e setting (← Expansion.whole e word) cases
  | .define name body =>
      modify fun sh =>
        { sh with functions := (name, body) :: sh.functions.filter fun (n, _) => n ≠ name }
      Run.setLast 0

def isChecked : Command → Bool
  | .simple .. | .pipeline _ | .background _ | .subshell _ => true
  | _ => false

def run (e : Engine) (setting : Setting) (command : Command) : Run PUnit := do
  if (← get).options.contains 'n' then return ()
  deliver e
  runBare e setting command
  deliver e
  let sh ← get
  if isChecked command && !setting.tested && sh.options.contains 'e' && sh.last ≠ 0 then
    throw (.exit false)
  if setting.final then throw (.exit false)

def capture (e : Engine) (command : Command) : Run String := do
  let sh ← get
  let (id, world) := sh.world.addFile World.pipe
  set { sh with world }
  let change (child : Shell) : Shell :=
    { child with descriptors := (1, id) :: child.descriptors.filter fun (n, _) => n ≠ 1 }
  let status ← fork e change (e.run ⟨false, true⟩ command)
  let last := (← get).last
  acknowledge status
  modify fun sh => { sh with last, captured := some status.exitCode }
  return (← get).world.written id

def firstVariables (s : Start) (w : World) : List Variable :=
  let imported := importVariables s.env
  let known := imported.find? fun v => v.name = "PWD"
  let physical := Builtin.pathOf w.tree.cwd
  let pwd :=
    match known.bind (·.value) with
    | some text =>
        let leads := w.tree.place (Raw.toBytes text)
        if Raw.begins text "/" && leads.toOption == some w.tree.cwd then text else physical
    | none => physical
  let path := (imported.find? fun v => v.name = "PATH").bind (·.value)
  let standard := "/usr/local/sbin:/usr/local/bin:/usr/sbin:/usr/bin:/sbin:/bin"
  let keep (name value : String) (exported : Bool) : Variable :=
    let old := imported.find? fun v => v.name = name
    ⟨name, some value, exported || (old.map (·.exported)).getD false, false⟩
  [keep "IFS" " \t\n" false, keep "OPTIND" "1" false, keep "PPID" (toString s.parent) false,
      keep "PWD" pwd true, keep "PS1" "# " false, keep "PS2" "> " false, keep "PS4" "+ " false,
      keep "PATH" (path.getD standard) path.isSome].foldl
    replaceVariable imported

def first (s : Start) (w : World) : Shell :=
  let memory : Memory :=
    ⟨s.pid, s.parent, s.pid, s.name, [], firstVariables s w, [], [], [], [], [],
      s.ignored.map (·, ""), 0, none, none, 0, 1, 0, s.descriptors, none, 0, Builtin.usualMask⟩
  ⟨memory, w, []⟩

def scriptText (path : Option String) : Run String := do
  let sh ← get
  match path with
  | some path =>
      match sh.world.tree.resolve (Raw.toBytes path), sh.world.tree.place (Raw.toBytes path) with
      | .ok _, .ok place => return Raw.ofBytes (sh.world.tree.contents place)
      | .error fault, _ | _, .error fault => Redirect.cannot "open" path fault "No such file"
  | none =>
      match sh.descriptors.lookup 0 with
      | none => return ""
      | some id =>
          match sh.world.remaining id with
          | .error _ => return ""
          | .ok text =>
              set { sh with world := sh.world.advance id text.length }
              return text

def main (e : Engine) (given : List String) : Run PUnit := do
  let (announced, _, rest) ← Run.followOptions true (given.length + 1) false given
  let fromInput := (← get).options.contains 's'
  let perform (text : String) : Run PUnit := do
    let _ ← runText e text
  match announced, rest with
  | true, [] => Run.fail "-c requires an argument"
  | true, text :: rest =>
      match rest with
      | name :: arguments => modify fun sh => { sh with name, arguments }
      | [] => pure ()
      perform text
  | false, path :: arguments =>
      if fromInput then
        modify fun sh => { sh with arguments := rest }
        perform (← scriptText none)
      else
        let text ← scriptText (some path)
        modify fun sh => { sh with name := path, arguments }
        perform text
  | false, [] =>
      modify fun sh => { sh with options := 's' :: sh.options }
      perform (← scriptText none)

-- The interpreter that the first line of a script names, and the arguments in front of the path of
-- the script.
def interpreterOf (text : String) : Option (String × List String) :=
  match text.toList with
  | '#' :: '!' :: cs =>
      let isBlank (c : Char) : Bool := c == ' ' || c == '\t'
      let line := (cs.takeWhile (· ≠ '\n')).dropWhile isBlank
      let path := line.takeWhile fun c => !isBlank c
      let rest := ((line.drop path.length).dropWhile isBlank).reverse.dropWhile isBlank
      let arguments := if rest.isEmpty then [] else [String.ofList rest.reverse]
      some (String.ofList path, arguments)
  | _ => none

def programFor (w : World) (env : Environment) (name : String) : Except PathFault Found :=
  Search.find w.tree env (Raw.toBytes name)

-- Runs the commands of a tool one after another; the status tells of failures.
def runEach (e : Engine) (s : Start) (complaint : String) :
    Nat → List (List String) → World → World × Nat
  | status, [], w => (w, status)
  | status, command :: rest, w =>
      match programFor w s.env (command.headD "") with
      | .error fault =>
          let line := complaint ++ ": " ++ fault.text ++ "\n"
          ((Tool.emit s w 2 line).getD w, faultStatus fault)
      | .ok found =>
          let (pid, w) := w.newProcess
          let start := { s with
            pid, parent := s.pid, name := command.headD "", arguments := command.tail
            descriptors := (0, World.nowhere) :: s.descriptors.filter fun (n, _) => n ≠ 0 }
          let (w, ended) := e.execute found start w
          let status := if ended.exitCode = 0 then status else 123
          runEach e s complaint status rest (w.reap pid)

def endTool (s : Start) (status : Nat) (w : World) : World × WaitStatus :=
  let (signals, w) := w.collect s.pid
  match signals.find? fun signal => signal.ends && !s.ignored.contains signal.number with
  | some signal => (w, .killed signal)
  | none => (w, .exited status)

def execute (e : Engine) (found : Found) (s : Start) (w : World) : World × WaitStatus :=
  match found with
  | .program .shell =>
      let w := Linker.report s w
      finish e (main e s.arguments (first s w))
  | .program (.tool name) =>
      match Tool.run name s (Linker.report s w) with
      | (w, .status status) => endTool s status w
      | (w, .killed s) => (w, .killed s)
      | (w, .becomes env command complaint) =>
          match programFor w env (command.headD "") with
          | .ok found =>
              e.execute found { s with env, name := command.headD "", arguments := command.tail } w
          | .error fault =>
              endTool s (faultStatus fault) ((Tool.emit s w 2 (complaint fault)).getD w)
      | (w, .runs commands complaint) =>
          let (w, status) := runEach e s complaint 0 commands w
          endTool s status w
  | .script path contents =>
      let path := Raw.ofBytes path
      match interpreterOf (Raw.ofBytes contents) with
      | none => e.execute (.program .shell) { s with arguments := path :: s.arguments } w
      | some (interpreter, front) =>
          match Search.atPath w.tree (Raw.toBytes interpreter) with
          | .ok found =>
              e.execute found
                { s with name := interpreter, arguments := front ++ path :: s.arguments } w
          | .error fault =>
              let line := s.name ++ ": " ++ faultText fault ++ "\n"
              ((Tool.emit s w 2 line).getD w, .exited (faultStatus fault))

end Execution

def Engine.empty : Engine :=
  ⟨fun _ _ => throw .exhausted, fun _ => throw .exhausted, fun _ => throw .exhausted,
    fun _ _ w => (w, .killed ⟨11⟩)⟩

def Engine.ofDepth : Nat → Engine
  | 0 => .empty
  | depth + 1 =>
      let e := Engine.ofDepth depth
      ⟨Execution.run e, Expansion.expand e, Execution.capture e, Execution.execute e⟩

def maxNesting : Nat := 20000

def Engine.standard : Engine := Engine.ofDepth maxNesting

end ProxyTunnel.Shell
