import BlockCalc.Command
import Std.Time

/-! # The program

Reads what a command may want to know of the machine, lets the command do its work, and passes on
what it leaves behind. -/

namespace BlockCalc

/-- The paths that a command may look at. -/
def Command.paths (cwd : Path) : Command → List Path
  | .version => []
  | .run file config _ _ =>
    let p := Path.ofText file
    let settings := match config with
      | some c => [Path.ofText c]
      | none => [p.child settingsName, p.parent.child settingsName, cwd, cwd.child settingsName]
    p :: settings
  | .eval _ _ => [cwd, cwd.child settingsName]
  | .tokens file => [Path.ofText file]
  | .tree file => [Path.ofText file]

/-- The code and the reason with which the machine refuses. -/
def refusal : IO.Error → Nat × String
  | .alreadyExists _ code reason | .interrupted _ code reason | .noFileOrDirectory _ code reason
  | .invalidArgument _ code reason | .permissionDenied _ code reason
  | .resourceExhausted _ code reason | .inappropriateType _ code reason
  | .noSuchThing _ code reason | .otherError code reason | .resourceBusy code reason
  | .resourceVanished code reason | .unsupportedOperation code reason
  | .hardwareFault code reason | .unsatisfiedConstraints code reason
  | .illegalOperation code reason | .protocolError code reason | .timeExpired code reason =>
    (code.toNat, reason)
  | .unexpectedEof | .userError _ => (5, "Input/output error")

/-- What the machine has at a path: first it says what stands there, and then a file is opened. -/
def entryAt (p : Path) : IO Entry := do
  if p.text.toList.contains (Char.ofNat 0) then return .unnameable
  let place := (← IO.currentDir) / p.text
  match ← place.metadata.toBaseIO with
  | .error e => return .absent (refusal e).1 (refusal e).2
  | .ok about =>
    match about.type with
    | .dir => return .folder
    | _ =>
      match ← (IO.FS.readBinFile place).toBaseIO with
      | .ok content => return .file content
      | .error e => return .locked (refusal e).1 (refusal e).2

/-- The machine as far as some paths go. -/
def diskOf (cwd : Path) (paths : List Path) : IO Disk := do
  let known ← paths.mapM fun p => do return (p, ← entryAt p)
  return ⟨cwd, fun p => (known.lookup p).getD .notFound⟩

/-- Performs the command that the arguments ask for. -/
def runMain (args : List String) : IO UInt32 := do
  let cwd := Path.ofText (toString (← IO.currentDir))
  let paths := ((Command.ofList args).map (Command.paths cwd)).getD []
  let disk ← diskOf cwd paths
  let now ← Std.Time.PlainDateTime.now
  let host : Host := ⟨disk, ← IO.getEnv "EMBER_LOG_LEVEL", now.format "uuuu-MM-dd HH:mm:ss,SSS"⟩
  let report := performArguments depthLimit host args
  IO.print report.out
  IO.eprint report.err
  match report.ending with
  | .code n => return n.toUInt32
  | .usage =>
    IO.eprintln "Usage: ember [--version] run|eval|tokens|ast ..."
    return 2
  | .broken _ => return 1

end BlockCalc

/-- The entry point. -/
def main (args : List String) : IO UInt32 := BlockCalc.runMain args
