import BlockCalc.Disk
import BlockCalc.Logging.Template
import BlockCalc.Platform
import BlockCalc.Text.Words
import BlockCalc.Token.Lexer
import BlockCalc.Toml.Reader
import BlockCalc.Tree.Bounded

/-! # Settings

The settings of the command line come from a TOML file with two sections:

    [interpreter]
    result_variable = "result"

    [logging]
    level = "WARNING"
    format = "[%(asctime)s] %(name)s - %(levelname)s - %(message)s"

What the file does not say has the value shown. A level given from outside wins over that of the
file, but the file is checked all the same.

* `Settings.ofTable`: the settings of a table.
* `Settings.load`: the settings of a file, or the default ones.
* `Settings.find?`: the settings file that belongs to a program. -/

namespace BlockCalc

/-- The name of a settings file. -/
def settingsName : String := "ember.toml"

/-- The settings of the command line, and the file they come from. -/
structure Settings where
  resultVariable : String
  level : Level
  format : String
  path : Option Path
deriving DecidableEq

namespace Settings

/-- The settings where nothing is said. -/
def default : Settings :=
  ⟨"result", .warning, "[%(asctime)s] %(name)s - %(levelname)s - %(message)s", none⟩

/-! ### Checks -/

/-- A failure with a cause of the settings. -/
def failure (c : Cause) : Failure := .fault (Fault.of c)

/-- The failure of a value that cannot be shown. -/
def stopped : TomlStop → Failure
  | .oversized => .numeral
  | _ => .depth

/-- A section of a table; one that is missing is empty. -/
def section? (table : List (String × Toml)) (name : String) :
    Except Failure (List (String × Toml)) :=
  match Toml.find? name table with
  | none => .ok []
  | some (.table entries) => .ok entries
  | some v => .error (failure (.notTable name v.typeLabel))

/-- A value as text, if it can be shown. -/
def shown (limit : Nat) (text : Toml → String) (v : Toml) : Except Failure String :=
  match v.obstacle? limit with
  | some stop => .error (stopped stop)
  | none => .ok (text v)

/-- A result variable has to be a name of the language. -/
def checkResultVariable (limit : Nat) : Option Toml → Except Failure String
  | none => .ok default.resultVariable
  | some (.text s) =>
    if isName s.toList then .ok s else .error (failure (.badResultVariable (quoted s)))
  | some v =>
    match shown limit Toml.detail v with
    | .ok s => .error (failure (.badResultVariable s))
    | .error why => .error why

/-- A level has to be one of the five, in any case of its letters. -/
def checkLevel (s : String) : Except Failure Level :=
  match Level.ofName? s with
  | some l => .ok l
  | none => .error (failure (.unknownLevel s))

/-- The level of a table; any value is taken as text. -/
def levelOf (limit : Nat) : Option Toml → Except Failure Level
  | none => .ok default.level
  | some v =>
    match shown limit Toml.plain v with
    | .ok s => checkLevel s
    | .error why => .error why

/-- A format has to be an acceptable template. -/
def checkFormat : Option Toml → Except Failure String
  | none => .ok default.format
  | some (.text s) => if Template.isAccepted s then .ok s else .error (failure (.badFormat s))
  | some v => .error (failure (.formatNotText v.typeLabel))

/-- The settings of a table. -/
def ofTable (limit : Nat) (table : List (String × Toml)) : Except Failure Settings := do
  let interpreter ← section? table "interpreter"
  let logging ← section? table "logging"
  let resultVariable ← checkResultVariable limit (Toml.find? "result_variable" interpreter)
  let level ← levelOf limit (Toml.find? "level" logging)
  let format ← checkFormat (Toml.find? "format" logging)
  return ⟨resultVariable, level, format, none⟩

/-- The settings with a level given from outside, which may be blank. -/
def withLevel (outside : Option String) (s : Settings) : Except Failure Settings :=
  let name := trimBlanks (outside.getD "")
  if name.toList.isEmpty then .ok s
  else
    match checkLevel name with
    | .ok l => .ok { s with level := l }
    | .error c => .error c

/-! ### Files -/

/-- The table of a settings file. -/
def readTable (limit : Nat) (disk : Disk) (path : Path) :
    Except Failure (List (String × Toml)) :=
  match (disk.look path).read with
  | .error .undecodable => .error .undecodable
  | .error .unnameable => .error .unnameable
  | .error (.refused code reason) =>
    .error (failure (.unreadableSettings path.text
      ("[Errno " ++ toString code ++ "] " ++ reason ++ ": " ++ quoted path.text)))
  | .ok text =>
    match Toml.read limit text with
    | .ok table => .ok table
    | .error (.malformed problem left) =>
      .error (failure (.malformedSettings path.text (Toml.complaint text problem left)))
    | .error stop => .error (stopped stop)

/-- The settings of a file, or the default ones if there is none, under a level from outside. -/
def load (platform : Platform) (disk : Disk) (path : Option Path) (outside : Option String) :
    Except Failure Settings :=
  match path with
  | none => withLevel outside default
  | some p =>
    match readTable platform.reading disk p with
    | .error f => .error f
    | .ok table =>
      match ofTable platform.quoting table with
      | .error f => .error f
      | .ok s => withLevel outside { s with path := some p }

/-- What stands at a path, unless the machine refuses to say so for another reason than that nothing
is there. -/
def examine (disk : Disk) (path : Path) : Except Failure Entry :=
  match disk.look path with
  | .absent code reason =>
    if code ∈ Entry.missingCodes then .ok (.absent code reason) else .error (.refused code reason)
  | entry => .ok entry

/-- The settings file in a folder, or beside something that is none. -/
def find? (disk : Disk) (start : Path) : Except Failure (Option Path) := do
  let entry ← examine disk start
  let folder := if entry.isFolder then start else start.parent
  let candidate := folder.child settingsName
  let found ← examine disk candidate
  return if found.isFile then some candidate else none

end Settings

end BlockCalc
