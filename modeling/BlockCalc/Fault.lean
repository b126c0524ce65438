import BlockCalc.Location
import BlockCalc.Logging.Level
import BlockCalc.Token

/-! # Faults

Everything that can go wrong in the language is a *cause*; a fault is a cause with the location at
which it arose, if it has one. The wording of every cause is in `Cause.message`.

Besides faults, an operation may stop because a depth limit was reached (`Stop`), or because its
input is not of the right form at all (`Failure`). -/

namespace BlockCalc

/-- What would have been accepted in place of a token. -/
inductive Expected
  | exactly (kind : Kind)
  | oneOf (kinds : List Kind)
deriving DecidableEq, Repr

namespace Expected

/-- The kinds that would have been accepted. -/
def kinds : Expected → List Kind
  | exactly k => [k]
  | oneOf ks => ks

/-- The words for what would have been accepted. -/
def text : Expected → String
  | exactly k => k.label
  | oneOf ks => "one of " ++ ", ".intercalate (ks.map Kind.label)

end Expected

/-- The parts of the language in which faults arise. -/
inductive Family
  | lexical
  | syntactic
  | construction
  | evaluation
  | payload
  | settings
  | general
deriving DecidableEq, Repr

/-- What went wrong. -/
inductive Cause
  /-- No token starts with this symbol. -/
  | unknownSymbol (symbol : String)
  /-- Digits and points that spell no number. -/
  | malformedNumber (text : String)
  /-- The grammar does not go on with this kind of token. -/
  | unexpectedToken (expected : Expected) (actual : Kind)
  /-- The source is nested beyond the limit. -/
  | nestingTooDeep
  /-- A node of the first type has no token of the second kind. -/
  | badToken (node kind : String)
  /-- Only a variable can be assigned to. -/
  | badTarget (node : String)
  /-- A variable is read that has no value. -/
  | unbound (name : String)
  /-- A node in the place of a statement is none. -/
  | notStatement (node : String)
  /-- A node in the place of an expression is none. -/
  | notExpression (node : String)
  /-- The tree is nested beyond the limit. -/
  | evaluationTooDeep
  /-- A token of this kind cannot do without its payload. -/
  | payloadMissing (kind : Kind)
  /-- A token of this kind holds no number. -/
  | noNumber (kind : Kind)
  /-- A token of this kind holds no name. -/
  | noName (kind : Kind)
  /-- A settings file cannot be read. -/
  | unreadableSettings (path reason : String)
  /-- A settings file is not well-formed. -/
  | malformedSettings (path complaint : String)
  /-- A section of the settings is something other than a table. -/
  | notTable (name type : String)
  /-- The result variable of the settings is no name of the language. -/
  | badResultVariable (value : String)
  /-- There is no log level of this name. -/
  | unknownLevel (level : String)
  /-- The log format of the settings is something other than a text. -/
  | formatNotText (type : String)
  /-- The log format of the settings has no field. -/
  | badFormat (format : String)
  /-- A cause with a wording of its own. -/
  | other (family : Family) (message : String)
deriving DecidableEq, Repr

namespace Cause

/-- The part of the language to which a cause belongs. -/
def family : Cause → Family
  | unknownSymbol _ | malformedNumber _ => .lexical
  | unexpectedToken _ _ | nestingTooDeep => .syntactic
  | badToken _ _ | badTarget _ => .construction
  | unbound _ | notStatement _ | notExpression _ | evaluationTooDeep => .evaluation
  | payloadMissing _ | noNumber _ | noName _ => .payload
  | unreadableSettings _ _ | malformedSettings _ _ | notTable _ _ | badResultVariable _
  | unknownLevel _ | formatNotText _ | badFormat _ => .settings
  | other f _ => f

/-- The wording of a cause. -/
def message : Cause → String
  | unknownSymbol s => "Unknown symbol: " ++ quoted s
  | malformedNumber s => "Malformed number literal: " ++ quoted s
  | unexpectedToken e k => "Expected " ++ e.text ++ ", got " ++ k.label
  | nestingTooDeep => "Expression nesting is too deep"
  | badToken n k => "Cannot build " ++ n ++ " node from " ++ k ++ " token"
  | badTarget n => "Assignment target must be a Variable, got " ++ n
  | unbound x => "Variable does not exist: " ++ x
  | notStatement n => n ++ " is not a statement"
  | notExpression n => n ++ " is not an expression"
  | evaluationTooDeep => "Tree nesting is too deep to evaluate"
  | payloadMissing k => k.label ++ " tokens carry a payload"
  | noNumber k => k.label ++ " token has no number payload"
  | noName k => k.label ++ " token has no identifier payload"
  | unreadableSettings p r => "Cannot read " ++ p ++ ": " ++ r
  | malformedSettings p c => "Invalid TOML in " ++ p ++ ": " ++ c
  | notTable n t => "[" ++ n ++ "] must be a table, got " ++ t
  | badResultVariable v => "result_variable must be an identifier, got " ++ v
  | unknownLevel l =>
    "Unknown log level " ++ quoted l ++ "; expected one of " ++
      ", ".intercalate (Level.all.map Level.label)
  | formatNotText t => "logging.format must be a string, got " ++ t
  | badFormat f => "Invalid logging.format: Invalid format '" ++ f ++ "' for '%' style"
  | other _ m => m

end Cause

/-- A cause and the place where it arose. -/
structure Fault where
  cause : Cause
  location : Option Location
deriving DecidableEq, Repr

namespace Fault

/-- A fault that belongs to no place in a source. -/
def of (cause : Cause) : Fault := ⟨cause, none⟩

/-- The text of a fault: its location, if it has one, then the wording of its cause. -/
def message (f : Fault) : String :=
  match f.location with
  | none => f.cause.message
  | some l => l.render ++ "\n" ++ f.cause.message

end Fault

/-- A cause at an offset of a source text. -/
structure SourceFault where
  cause : Cause
  offset : Int
deriving DecidableEq, Repr

/-- The fault of a named source text. -/
def SourceFault.locate (source : List Char) (file : Option String) (f : SourceFault) : Fault :=
  ⟨f.cause, some (Location.ofOffset source f.offset file)⟩

/-- Why a recursive operation stopped: a fault, or its depth limit. -/
inductive Stop (ε : Type)
  | fault (e : ε)
  | depth
deriving DecidableEq, Repr

/-- Why an operation has no result. -/
inductive Failure
  /-- A fault of the language. -/
  | fault (f : Fault)
  /-- A depth limit was reached where no fault of the language stands for it. -/
  | depth
  /-- There is no token kind of this name. -/
  | unknownKind (label : String)
  /-- A node lacks one of its parts. -/
  | missingPart
  /-- Bytes that are not text. -/
  | undecodable
  /-- Marked text whose tags do not match. -/
  | markup
  /-- A number that has too many digits, or none. -/
  | numeral
  /-- A path that no file can have. -/
  | unnameable
  /-- The machine does not say what stands at a path. -/
  | refused (code : Nat) (reason : String)
deriving DecidableEq, Repr

/-- The message for a word that names no kind of token. -/
def unknownKindMessage (label : String) : String := quoted label ++ " is not a valid TokenKind"

namespace Token

/-- A token without payload. -/
def plain (kind : Kind) (offset : Int) : Except Cause Token :=
  match Lexeme.ofKind? kind with
  | some l => .ok ⟨l, offset⟩
  | none => .error (.payloadMissing kind)

/-- The number that a token holds. -/
def number? (t : Token) : Except Cause Binary64 :=
  match t.lexeme with
  | .number x => .ok x
  | l => .error (.noNumber l.kind)

/-- The name that a token holds. -/
def name? (t : Token) : Except Cause String :=
  match t.lexeme with
  | .name s => .ok s
  | l => .error (.noName l.kind)

end Token

end BlockCalc
