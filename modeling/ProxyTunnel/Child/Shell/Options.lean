import ProxyTunnel.Child.Shell.State

/-!
The options of a shell, and the reading of options of its own commands.
-/

set_option autoImplicit false

namespace ProxyTunnel.Shell

def optionNames : List (Char × String) :=
  [('e', "errexit"), ('f', "noglob"), ('I', "ignoreeof"), ('i', "interactive"), ('m', "monitor"),
    ('n', "noexec"), ('s', "stdin"), ('x', "xtrace"), ('v', "verbose"), ('V', "vi"), ('E', "emacs"),
    ('C', "noclobber"), ('a', "allexport"), ('b', "notify"), ('u', "nounset"),
    ('p', "privileged")]

def idleOptions : List String := ["nolog", "debug"]

namespace Run

def print (text : String) : Run Nat := do
  if text = "" then return 0
  if ← emit 1 text then return 0
  let name := ((← get).builtin).getD ""
  report (name ++ ": I/O error")
  return 1

def number (text : String) : Run Nat := do
  match Decimal.read? text.toList with
  | some n => if n < Nat.pow 2 31 then return n else fail ("Illegal number: " ++ text)
  | none => fail ("Illegal number: " ++ text)

def setOption (on : Bool) (c : Char) : Run PUnit := do
  if optionNames.any fun (letter, _) => letter == c then
    modify fun sh =>
      let others := sh.options.filter (· ≠ c)
      { sh with options := if on then c :: others else others }
  else fail ("Illegal option -" ++ String.singleton c)

def setNamed (on : Bool) (name : String) : Run PUnit := do
  match optionNames.find? fun (_, n) => n == name with
  | some (letter, _) => setOption on letter
  | none =>
      if idleOptions.contains name then return ()
      else fail ("Illegal option -o " ++ name)

def listOptions (asTable : Bool) : Run PUnit := do
  let on := (← get).options
  let states := optionNames.map (fun (c, name) => (name, on.contains c))
    ++ idleOptions.map (·, false)
  let width := 16
  let lines := states.map fun (name, on) =>
    if asTable then
      let gap := String.ofList (List.replicate (width - name.length) ' ')
      name ++ gap ++ (if on then "on" else "off")
    else "set " ++ (if on then "-o " else "+o ") ++ name
  let title := if asTable then ["Current option settings"] else []
  let _ ← print (String.join ((title ++ lines).map (· ++ "\n")))

-- Follows a row of option letters. The names that go with `o` come from the next arguments; a `c`
-- on the command line of a shell announces a script.
def followLetters (atStart on : Bool) : List Char → Bool → List String → Run (Bool × List String)
  | [], script, rest => return (script, rest)
  | 'o' :: cs, script, rest => do
      match rest with
      | [] =>
          listOptions on
          followLetters atStart on cs script []
      | name :: rest =>
          setNamed on name
          followLetters atStart on cs script rest
  | c :: cs, script, rest => do
      if c = 'c' ∧ atStart then followLetters atStart on cs true rest
      else
        setOption on c
        followLetters atStart on cs script rest

-- Follows options: whether a script was announced, whether a double dash was read, and the other
-- arguments.
def followOptions (atStart : Bool) : Nat → Bool → List String → Run (Bool × Bool × List String)
  | 0, script, rest => return (script, false, rest)
  | _, script, [] => return (script, false, [])
  | n + 1, script, a :: rest => do
      match a.toList with
      | ['-'] => return (script, false, rest)
      | ['-', '-'] => return (script, true, rest)
      | '-' :: cs =>
          let (script, rest) ← followLetters atStart true cs script rest
          followOptions atStart n script rest
      | '+' :: cs =>
          let (script, rest) ← followLetters atStart false cs script rest
          followOptions atStart n script rest
      | _ => return (script, false, a :: rest)

-- Reads the letters of an argument of a command of the shell; a letter in front of a colon takes a
-- value.
def commandLetters (allowed : List Char) :
    List Char → List String → List (Char × String) → Run (List (Char × String) × List String)
  | [], rest, found => return (found, rest)
  | c :: cs, rest, found => do
      match allowed.dropWhile (· ≠ c) with
      | [] => fail ("Illegal option -" ++ String.singleton c)
      | _ :: ':' :: _ =>
          match cs, rest with
          | [], value :: rest => return ((c, value) :: found, rest)
          | [], [] => fail ("No arg for -" ++ String.singleton c ++ " option")
          | cs, rest => return ((c, String.ofList cs) :: found, rest)
      | _ => commandLetters allowed cs rest ((c, "") :: found)

def commandOptions (allowed : String) :
    Nat → List String → List (Char × String) → Run (List (Char × String) × List String)
  | 0, rest, found => return (found, rest)
  | _, [], found => return (found, [])
  | n + 1, a :: rest, found => do
      match a.toList with
      | ['-', '-'] => return (found, rest)
      | '-' :: c :: cs =>
          let (found, rest) ← commandLetters allowed.toList (c :: cs) rest found
          commandOptions allowed n rest found
      | _ => return (found, a :: rest)

def optionsOf (allowed : String) (arguments : List String) :
    Run (List (Char × String) × List String) :=
  commandOptions allowed (arguments.length + 1) arguments []

end Run

def Memory.letters (m : Memory) : String :=
  String.ofList ((optionNames.map (·.1)).filter m.options.contains)

-- A text between single quotes, for a script; single quotes stand between double ones.
def singleQuote (text : String) : String :=
  let rec go (n : Nat) (cs : List Char) : String :=
    match n with
    | 0 => ""
    | n + 1 =>
        let plain := cs.takeWhile (· ≠ '\'')
        let rest := cs.drop plain.length
        let marks := rest.takeWhile (· = '\'')
        let first := "'" ++ String.ofList plain ++ "'"
        if rest.isEmpty then first
        else
          let rest := rest.drop marks.length
          let both := first ++ "\"" ++ String.ofList marks ++ "\""
          if rest.isEmpty then both else both ++ go n rest
  go (text.length + 1) text.toList

end ProxyTunnel.Shell
