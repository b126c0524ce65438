import BlockCalc.Text.WordChar

/-! # Command-line arguments

An argument that starts with a dash and is not a dash alone is made of switches: a long name, with
an optional value after an equals sign, or a dash and short names in a row. A switch that takes a
value takes the rest of its argument, or else the next argument whatever that looks like. Two dashes
end the switches. All other arguments are operands.

* `Arguments.ofList`: the switches and operands of a list of arguments.
* `Command.ofList`: the command that a list of arguments asks for. -/

namespace BlockCalc

/-- A switch that a command knows. -/
structure Switch where
  long : String
  short : Option Char
  takesValue : Bool

/-- A switch that was given, by its long name, with its value if it takes one. -/
structure Given where
  long : String
  value : Option String
deriving DecidableEq, Repr

/-- What a list of arguments consists of. -/
structure Arguments where
  given : List Given
  operands : List String
deriving DecidableEq, Repr

namespace Arguments

/-- Whether an argument is made of switches. -/
def isSwitch (arg : List Char) : Bool := arg.head? == some '-' && 1 < arg.length

/-- Short names in a row: the switches given, and the one that waits for its value. -/
def ofShort (switches : List Switch) (given : List Given) :
    List Char → Option (List Given × Option String)
  | [] => some (given, none)
  | c :: r =>
    match switches.find? (·.short == some c) with
    | none => none
    | some s =>
      if s.takesValue then
        if r.isEmpty then some (given, some s.long)
        else some (given ++ [⟨s.long, some (String.ofList r)⟩], none)
      else ofShort switches (given ++ [⟨s.long, none⟩]) r

/-- The switches of one argument, and the one that waits for its value. -/
def ofSwitch (switches : List Switch) (arg : List Char) : Option (List Given × Option String) :=
  let name := arg.takeWhile (· != '=')
  let value := match arg.dropWhile (· != '=') with
    | [] => none
    | _ :: v => some (String.ofList v)
  match switches.find? (·.long.toList == name) with
  | some s =>
    match s.takesValue, value with
    | true, some v => some ([⟨s.long, some v⟩], none)
    | true, none => some ([], some s.long)
    | false, some _ => none
    | false, none => some ([⟨s.long, none⟩], none)
  | none => if arg.take 2 == ['-', '-'] then none else ofShort switches [] (arg.drop 1)

/-- The switches and operands of a list of arguments. Unless `mixed` is set, the first operand ends
the switches. -/
def ofList (switches : List Switch) (mixed : Bool) : List String → Option Arguments
  | [] => some ⟨[], []⟩
  | arg :: rest =>
    if arg = "--" then some ⟨[], rest⟩
    else if isSwitch arg.toList then
      match ofSwitch switches arg.toList with
      | none => none
      | some (given, none) =>
        (ofList switches mixed rest).map fun a => { a with given := given ++ a.given }
      | some (given, some long) =>
        match rest with
        | [] => none
        | v :: rest' =>
          (ofList switches mixed rest').map fun a =>
            { a with given := given ++ ⟨long, some v⟩ :: a.given }
    else if mixed then
      (ofList switches mixed rest).map fun a => { a with operands := arg :: a.operands }
    else some ⟨[], arg :: rest⟩

/-- Whether a switch was given. -/
def has (a : Arguments) (long : String) : Bool := a.given.any (·.long == long)

/-- The value of a switch; the last one counts. -/
def value? (a : Arguments) (long : String) : Option String :=
  a.given.reverse.findSome? fun g => if g.long == long then g.value else none

end Arguments

/-! ### Commands -/

/-- What the program can be asked for. -/
inductive Command
  /-- The version of the program. -/
  | version
  /-- The result of a program file. -/
  | run (file : String) (config : Option String) (outline verbose : Bool)
  /-- The value of an expression. -/
  | eval (expression : String) (verbose : Bool)
  /-- The tokens of a file. -/
  | tokens (file : String)
  /-- The tree of a program file. -/
  | tree (file : String)
deriving DecidableEq, Repr

namespace Command

/-- The switch that asks for the version. -/
def versionSwitch : Switch := ⟨"--version", some 'v', false⟩

/-- The switch that asks for all log records. -/
def verboseSwitch : Switch := ⟨"--verbose", some 'V', false⟩

/-- The switch that names a settings file. -/
def configSwitch : Switch := ⟨"--config", some 'c', true⟩

/-- The switch that asks for the tree before the result. -/
def outlineSwitch : Switch := ⟨"--show-ast", none, false⟩

/-- The arguments of a command with one operand. -/
def withOperand (switches : List Switch) (args : List String) : Option (Arguments × String) := do
  let a ← Arguments.ofList switches true args
  match a.operands with
  | [x] => return (a, x)
  | _ => none

/-- A file may have this name: it holds no null character. -/
def isFileName (s : String) : Bool := !s.toList.contains (Char.ofNat 0)

/-- The arguments of a command whose operand is a file. -/
def withFile (switches : List Switch) (args : List String) : Option (Arguments × String) :=
  (withOperand switches args).filter fun (_, file) => isFileName file

/-- A command by its name, with the arguments after it. -/
def ofName (name : String) (args : List String) : Option Command :=
  if name = "run" then do
    let (a, file) ← withFile [configSwitch, outlineSwitch, verboseSwitch] args
    let config := a.value? configSwitch.long
    if config.all isFileName then
      return run file config (a.has outlineSwitch.long) (a.has verboseSwitch.long)
    else none
  else if name = "eval" then
    (withOperand [verboseSwitch] args).map fun (a, x) => eval x (a.has verboseSwitch.long)
  else if name = "tokens" then (withFile [] args).map fun (_, file) => tokens file
  else if name = "ast" then (withFile [] args).map fun (_, file) => tree file
  else none

/-- A name that could not be that of a command. -/
def isOdd (name : String) : Bool :=
  match name.toList with
  | [] => false
  | c :: _ => c == '_' || !wordChars.contains c

/-- The command that a list of arguments asks for, if they make sense. If the first operand could
not be the name of a command, the operands are looked at for switches once more, so the version can
be asked for behind two dashes. -/
def ofList (args : List String) : Option Command := do
  let a ← Arguments.ofList [versionSwitch] false args
  if a.has versionSwitch.long then return version
  match a.operands with
  | [] => none
  | name :: rest =>
    if isOdd name then
      let b ← Arguments.ofList [versionSwitch] false (name :: rest)
      if b.has versionSwitch.long then return version else none
    else ofName name rest

end Command

end BlockCalc
