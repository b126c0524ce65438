import BlockCalc.Evaluation
import BlockCalc.Tree.Parser

/-! # Sessions

A session runs programs one after the other. Every program starts in an empty environment, and the
environment of the last one that succeeded stays with the session; a program that fails leaves the
session as it was. A statement executed directly goes on in the environment of the session, and what
it assigned stays, even if it failed. The result of a program is the last value of one variable. -/

namespace BlockCalc

/-- The variable whose value is the result of a program, unless another is chosen. -/
def defaultResultVariable : String := "result"

/-- The name of the result variable and the environment of the last program that succeeded. -/
structure Session where
  resultVariable : String
  environment : Environment

/-- The outcome of a program, whether or not it succeeded: its result, if there is one, and the
assignments that were completed. -/
structure Run where
  result : Except Cause (Option Binary64)
  progress : Progress

/-- Runs a program in an empty environment. -/
def runProgram (limit : Nat) (resultVariable : String) (t : Tree) : Run :=
  match t.execute limit (Progress.start Environment.empty) with
  | (.ok (), p) => ⟨.ok (p.environment.get? resultVariable), p⟩
  | (.error e, p) => ⟨.error e.toCause, p⟩

namespace Session

/-- A session in which nothing ran yet. -/
def start (resultVariable : String) : Session := ⟨resultVariable, Environment.empty⟩

/-- Runs a program and keeps its environment if it succeeds. -/
def run (limit : Nat) (s : Session) (t : Tree) : Except Cause (Option Binary64) × Session :=
  let r := runProgram limit s.resultVariable t
  match r.result with
  | .ok v => (.ok v, { s with environment := r.progress.environment })
  | .error c => (.error c, s)

/-- Parses and runs a program. -/
def interpret (limit : Nat) (s : Session) (source : List Char) (file : Option String) :
    Except Fault (Option Binary64) × Session :=
  match parseProgram limit source file with
  | .error f => (.error f, s)
  | .ok t =>
    match s.run limit t with
    | (.ok v, s') => (.ok v, s')
    | (.error c, s') => (.error (Fault.of c), s')

/-- Executes a statement in the environment of the session. -/
def execute (limit : Nat) (s : Session) (t : Tree) : Except (Stop Cause) Unit × Session :=
  let (r, p) := t.execute limit (Progress.start s.environment)
  (r, { s with environment := p.environment })

/-- Chooses another result variable. -/
def choose (s : Session) (resultVariable : String) : Session :=
  { s with resultVariable := resultVariable }

end Session

/-- The result of a program text. -/
def interpret (limit : Nat) (source : List Char) (resultVariable : String) :
    Except Fault (Option Binary64) :=
  ((Session.start resultVariable).interpret limit source none).1

/-- The value of an expression text in an environment. -/
def evaluateSource (limit : Nat) (source : List Char) (env : Environment) :
    Except Fault Binary64 :=
  match parseExpression limit source with
  | .error f => .error f
  | .ok t =>
    match evaluate limit t env with
    | .ok x => .ok x
    | .error c => .error (Fault.of c)

end BlockCalc
