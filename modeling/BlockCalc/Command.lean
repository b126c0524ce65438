import BlockCalc.Command.Arguments
import BlockCalc.Command.Table
import BlockCalc.Platform
import BlockCalc.Session
import BlockCalc.Settings
import BlockCalc.Text.ControlSequence

/-! # Commands

What the program does when it is asked for something: `Command.perform` gives what goes to the two
outputs and how the program ends. Results go to the first output, messages and log lines to the
second.

* `run FILE` prints the result variable and its value; before that the tree, if it was asked for.
* `eval EXPRESSION` prints a value.
* `tokens FILE` prints a table of tokens.
* `ast FILE` prints a tree.

A fault of the language or of the settings is reported as `Error: …`, a file that cannot be read as
`Cannot read …`; both end with code one, and control sequences are left out of them. Bytes that are
not text, a tree too high to be shown and other failures are not reported at all: the program breaks
off. -/

namespace BlockCalc

/-- The version of the program. -/
def versionText : String := "Ember version 0.1.0"

/-- How the program ends. -/
inductive Ending
  /-- With a code. -/
  | code (n : Nat)
  /-- Its arguments make no sense. -/
  | usage
  /-- By breaking off. -/
  | broken (why : Failure)
deriving DecidableEq, Repr

/-- What a command leaves behind. -/
structure Report where
  out : String
  err : String
  ending : Ending
deriving DecidableEq, Repr

/-- Where a command runs: the disk, the log level from outside if there is one, and the time. -/
structure Host where
  disk : Disk
  outsideLevel : Option String
  time : String

namespace Command

/-! ### Log lines -/

/-- A record, not yet at any time. -/
structure Remark where
  level : Level
  source : String
  phrases : List Phrase

/-- The line of a remark, if the log is that talkative. -/
def logLine (host : Host) (threshold : Level) (format : String) (r : Remark) : String :=
  if threshold.weight ≤ r.level.weight then
    match Template.render? format ⟨r.level, r.source, host.time, r.phrases, .untold⟩ with
    | some s => s ++ "\n"
    | none => "--- Logging error ---\n"
  else ""

/-- The remarks of reading a program. -/
def readingRemarks (file : Path) (source : List Char) : List Remark :=
  [⟨.info, "ember.cli", [.words "reading file: ", .filled 's' (.path file)]⟩,
    ⟨.debug, "ember.cli", [.words "interpreting:\n", .filled 's' (.text (String.ofList source))]⟩]

/-- The number of statements of a program. -/
def statementCount : Tree → Nat
  | .block _ cs => cs.length
  | _ => 0

/-- The remark of a program that was parsed. -/
def parsedRemark (t : Tree) : Remark :=
  ⟨.debug, "ember.core.lang.parser", [.words "Parsed program with ",
    .filled 'd' (.count (statementCount t)), .words " top-level statements"]⟩

/-- The remarks of running a program. -/
def runRemarks (resultVariable : String) (r : Run) : List Remark :=
  let say := Remark.mk .debug "ember.core.lang.interpreter"
  let assignments := r.progress.journal.map fun (x, v) =>
    say [.words "assign ", .filled 's' (.text x), .words " = ", .filled 'r' (.result (some v))]
  let result := match r.result with
    | .ok v => [say [.filled 's' (.text resultVariable), .words " = ", .filled 's' (.result v)]]
    | .error _ => []
  assignments ++ result

/-! ### Ways to end -/

/-- Ends well. -/
def done (out err : String) : Report := ⟨out, err, .code 0⟩

/-- Ends with a message. -/
def complain (out err message : String) : Report :=
  ⟨out, err ++ String.ofList (withoutSequences message.toList) ++ "\n", .code 1⟩

/-- Ends with a fault. -/
def faulty (out err : String) (f : Fault) : Report := complain out err ("Error: " ++ f.message)

/-- Ends with a failure. -/
def failed (out err : String) : Failure → Report
  | .fault f => faulty out err f
  | why => ⟨out, err, .broken why⟩

/-- The text of a program file, or the end of the command. -/
def readSource (host : Host) (file : Path) : Except Report (List Char) :=
  match (host.disk.look file).read with
  | .ok cs => .ok cs
  | .error (.refused _ reason) =>
    .error (complain "" "" ("Cannot read " ++ file.text ++ ": " ++ reason))
  | .error .undecodable => .error ⟨"", "", .broken .undecodable⟩
  | .error .unnameable => .error ⟨"", "", .broken .unnameable⟩

/-- The settings file of a command: the one that is named, or the one beside the program, or the one
in the working folder. -/
def settingsPath (host : Host) (config : Option Path) (file : Option Path) :
    Except Failure (Option Path) :=
  match config, file with
  | some p, _ => .ok (some p)
  | none, none => Settings.find? host.disk host.disk.cwd
  | none, some f =>
    match Settings.find? host.disk f with
    | .ok none => Settings.find? host.disk host.disk.cwd
    | found => found

/-- The settings of a command. -/
def loadSettings (platform : Platform) (host : Host) (config : Option Path)
    (file : Option Path) : Except Failure Settings :=
  match settingsPath host config file with
  | .ok path => Settings.load platform host.disk path host.outsideLevel
  | .error why => .error why

/-! ### The commands -/

/-- The text of a result. -/
def resultText (v : Option Binary64) : String := (v.map Binary64.text).getD "null"

/-- A tree as it is printed. -/
def printed (t : Tree) : String := t.outline 0 ++ "\n"

/-- Runs a program that was parsed, after what was written already. -/
def runTree (platform : Platform) (settings : Settings) (log : Remark → String) (t : Tree)
    (out err : String) : Report :=
  let r := runProgram platform.running settings.resultVariable t
  let err := err ++ String.join ((runRemarks settings.resultVariable r).map log)
  match r.result with
  | .ok v => done (out ++ settings.resultVariable ++ " = " ++ resultText v ++ "\n") err
  | .error c => faulty out err (Fault.of c)

/-- Runs a program text. -/
def runSource (platform : Platform) (settings : Settings) (log : Remark → String) (file : Path)
    (outline : Bool) (source : List Char) : Report :=
  let err := String.join ((readingRemarks file source).map log)
  match parseProgram platform.parsing source (some file.text) with
  | .error f => faulty "" err f
  | .ok t =>
    let err := err ++ log (parsedRemark t)
    if outline then
      match Tree.within platform.showing printed t with
      | .error why => failed "" err why
      | .ok out => runTree platform settings log t out err
    else runTree platform settings log t "" err

/-- Runs a program file. -/
def performRun (platform : Platform) (host : Host) (file : Path) (config : Option Path)
    (outline verbose : Bool) : Report :=
  match loadSettings platform host config (some file) with
  | .error why => failed "" "" why
  | .ok settings =>
    match readSource host file with
    | .error report => report
    | .ok source =>
      let threshold := if verbose then .debug else settings.level
      runSource platform settings (logLine host threshold settings.format) file outline source

/-- Evaluates an expression; it has no variables. -/
def performEval (platform : Platform) (host : Host) (expression : String) : Report :=
  match loadSettings platform host none none with
  | .error why => failed "" "" why
  | .ok _ =>
    match parseExpression platform.parsing expression.toList with
    | .error f => faulty "" "" f
    | .ok t =>
      match evaluate platform.running t Environment.empty with
      | .ok x => done (x.text ++ "\n") ""
      | .error c => faulty "" "" (Fault.of c)

/-- The columns of the table of tokens. -/
def tokenColumns : List Column :=
  [⟨"#", true⟩, ⟨"Kind", false⟩, ⟨"Value", false⟩, ⟨"Offset", true⟩]

/-- The payload of a token in the table. -/
def payloadCell : Lexeme → String
  | .number x => x.text
  | .name s => s
  | _ => ""

/-- The row of a token. -/
def tokenRow (t : Token) (index : Nat) : List String :=
  [toString index, t.kind.label, payloadCell t.lexeme, toString t.offset]

/-- Prints the tokens of a file. Its path is the title of the table. -/
def performTokens (platform : Platform) (host : Host) (file : Path) : Report :=
  match readSource host file with
  | .error report => report
  | .ok source =>
    match tokenize source with
    | .error e => faulty "" "" (e.locate source (some file.text))
    | .ok ts =>
      match platform.title file.text.toList with
      | .ok title =>
        done (Table.render title tokenColumns (ts.zipIdx.map fun (t, i) => tokenRow t i)) ""
      | .error why => ⟨"", "", .broken why⟩

/-- Prints the tree of a program file. -/
def performTree (platform : Platform) (host : Host) (file : Path) : Report :=
  match readSource host file with
  | .error report => report
  | .ok source =>
    match parseProgram platform.parsing source (some file.text) with
    | .error f => faulty "" "" f
    | .ok t =>
      match Tree.within platform.showing printed t with
      | .ok out => done out ""
      | .error why => failed "" "" why

/-- Does what a command asks for. -/
def perform (platform : Platform) (host : Host) : Command → Report
  | version => done (versionText ++ "\n") ""
  | run file config outline verbose =>
    performRun platform host (Path.ofText file) (config.map Path.ofText) outline verbose
  | eval expression _ => performEval platform host expression
  | tokens file => performTokens platform host (Path.ofText file)
  | tree file => performTree platform host (Path.ofText file)

end Command

/-- Does what a list of arguments asks for. -/
def performArguments (platform : Platform) (host : Host) (args : List String) : Report :=
  match Command.ofList args with
  | some c => c.perform platform host
  | none => ⟨"", "", .usage⟩

end BlockCalc
