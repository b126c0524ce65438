import BlockCalc.Disk.Path
import BlockCalc.Logging.Level
import BlockCalc.Number.Text
import BlockCalc.Text.Quoted

/-! # Log records

A record is what is written to the log at once. Its message is kept in phrases: words of its own,
and arguments that are still to be filled in. A template asks for the parts of a record by name
(`Record.field?`); each of them is a text, a number or an object that can only be shown. -/

namespace BlockCalc

/-! ### Messages -/

/-- What a message tells of. -/
inductive Argument
  | text (s : String)
  | path (p : Path)
  | count (n : Nat)
  | result (v : Option Binary64)

namespace Argument

/-- An argument in plain words. -/
def plain : Argument → String
  | text s => s
  | path p => p.text
  | count n => toString n
  | result v => (v.map Binary64.pointText).getD "None"

/-- An argument as it is shown to a reader who has to tell it from others. -/
def shown : Argument → String
  | text s => quoted s
  | path p => "PosixPath(" ++ quoted p.text ++ ")"
  | a => a.plain

end Argument

/-- A part of a message: words, or an argument behind the letter of its conversion. -/
inductive Phrase
  | words (s : String)
  | filled (type : Char) (a : Argument)

namespace Phrase

/-- The phrase before its argument is filled in. -/
def pattern : Phrase → String
  | words s => s
  | filled type _ => String.ofList ['%', type]

/-- The phrase once its argument is filled in. -/
def text : Phrase → String
  | words s => s
  | filled type a => if type = 'r' then a.shown else a.plain

/-- The argument of a phrase. -/
def argument? : Phrase → Option Argument
  | words _ => none
  | filled _ a => some a

end Phrase

/-- Texts in parentheses; a comma follows a single one. -/
def tupled : List String → String
  | [s] => "(" ++ s ++ ",)"
  | ss => "(" ++ ", ".intercalate ss ++ ")"

/-! ### Records -/

/-- Where a record was made, when, and by whom, as the machine tells it. -/
structure Origin where
  path : String
  file : String
  unit : String
  function : String
  line : UInt64
  created : Binary64
  milliseconds : Binary64
  sinceStart : Binary64
  thread : UInt64
  threadName : String
  process : UInt64
  processName : String

/-- What stands for the origin of a record that nobody asked the machine for. -/
def Origin.untold : Origin where
  path := ""
  file := ""
  unit := ""
  function := ""
  line := .ofNat 0
  created := .zero false
  milliseconds := .zero false
  sinceStart := .zero false
  thread := .ofNat 0x100000000
  threadName := "MainThread"
  process := .ofNat 0
  processName := "MainProcess"

/-- What is logged: its level, the part of the program it comes from, the time, the phrases of its
message and its origin. -/
structure Record where
  level : Level
  source : String
  time : String
  phrases : List Phrase
  origin : Origin

/-- The value of a field. -/
inductive FieldValue
  | text (s : String)
  | number (n : UInt64)
  | real (x : Binary64)
  /-- Anything else, as it is shown. -/
  | object (shown : String)

/-- How a value is shown to a reader who has to tell it from others. -/
def FieldValue.shown : FieldValue → String
  | text s => quoted s
  | number n => toString n
  | real x => x.pointText
  | object s => s

namespace Record

/-- The message with places for its arguments. -/
def pattern (r : Record) : String := String.join (r.phrases.map Phrase.pattern)

/-- The arguments of the message. -/
def arguments (r : Record) : List Argument := r.phrases.filterMap Phrase.argument?

/-- The message. -/
def message (r : Record) : String := String.join (r.phrases.map Phrase.text)

/-- The fields of a record by name; no record is about a failure. -/
def fields (r : Record) : List (String × FieldValue) :=
  [("name", .text r.source),
    ("msg", .text r.pattern),
    ("args", .object (tupled (r.arguments.map Argument.shown))),
    ("levelname", .text r.level.label),
    ("levelno", .number r.level.weight.toUInt64),
    ("pathname", .text r.origin.path),
    ("filename", .text r.origin.file),
    ("module", .text r.origin.unit),
    ("exc_info", .object "None"),
    ("exc_text", .object "None"),
    ("stack_info", .object "None"),
    ("lineno", .number r.origin.line),
    ("funcName", .text r.origin.function),
    ("created", .real r.origin.created),
    ("msecs", .real r.origin.milliseconds),
    ("relativeCreated", .real r.origin.sinceStart),
    ("thread", .number r.origin.thread),
    ("threadName", .text r.origin.threadName),
    ("processName", .text r.origin.processName),
    ("process", .number r.origin.process),
    ("message", .text r.message),
    ("asctime", .text r.time)]

/-- The field of a record that a name stands for. -/
def field? (r : Record) (name : String) : Option FieldValue := r.fields.lookup name

/-- The record as a whole; it has the time only if that is asked for. -/
def whole (r : Record) (timed : Bool) : FieldValue :=
  let fields := r.fields.filter fun f => timed || f.1 != "asctime"
  let entries := fields.map fun f => quoted f.1 ++ ": " ++ f.2.shown
  .object ("\x7b" ++ ", ".intercalate entries ++ "\x7d")

end Record

end BlockCalc
