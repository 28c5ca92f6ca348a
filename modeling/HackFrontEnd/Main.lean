import HackFrontEnd.CommandLine.StandardHost
import HackFrontEnd.CommandLine.SymbolsTool

/-!
# The program

The first argument names a tool and the others are its arguments. What the tools do is settled by
their outcomes; here the files and variables they depend on are looked up, and an outcome is put
into effect.
-/

namespace HackFrontEnd.CommandLine

/-- Whether the file at a path may be written, which is found out without writing to it. -/
def isWritable (path : String) : IO Bool := do
  try
    discard <| IO.FS.Handle.mk path .readWrite
    return true
  catch _ => return false

/-- What is found at a path that could not be opened. A path that leads nowhere is not to be told
from one through a directory that may not be entered. -/
def accessDespite (fault : IO.Error) (path : String) : IO File.Access := do
  try
    discard <| IO.FS.realPath path
    match fault with
    | .permissionDenied .. => return .denied
    | _ => return .unreadable fault.toString
  catch _ => return .missing

/-- What is found at a path. A directory can be opened and not read, whereas a path through
something that is no directory cannot even be opened. -/
def accessAt (path : String) : IO File.Access := do
  try
    let bytes ← IO.FS.readBinFile path
    return .file bytes.toList (← isWritable path)
  catch
    | .inappropriateType none .. => return .directory
    | .inappropriateType (some _) .. => return .notDirectory
    | .invalidArgument (some _) .. => return .nameTooLong
    | .noFileOrDirectory .. => return .missing
    | fault => accessDespite fault path

/-- What is found at some paths. All others count as missing. -/
def viewOf (paths : List String) : IO File.View := do
  let found ← paths.mapM fun path => return (path, ← accessAt path)
  return fun path => (found.lookup path).getD .missing

/-- The variables that the settings depend on. -/
def environment : IO Environment :=
  return {
    commentMarker := ← IO.getEnv "HACK_COMMENT_MARKER"
    logLevel := ← IO.getEnv "HACK_LOG_LEVEL"
    sourceEncoding := ← IO.getEnv "HACK_SOURCE_ENCODING" }

/-- Put an outcome into effect: the file, then the two streams. The system has the last word on the
file, and a fault that it finds only now is handled no more than one that was foreseen. -/
def Outcome.emit (o : Outcome) : IO UInt32 := do
  IO.eprint o.stderr
  if let some (path, text) := o.written then
    try IO.FS.writeFile path text
    catch fault =>
      IO.eprintln fault
      return (1 : UInt32)
  IO.print o.stdout
  if let .uncaught f := o.ending then
    IO.eprintln f.message
  return o.ending.number.toUInt32

end HackFrontEnd.CommandLine

open HackFrontEnd.CommandLine in
/-- Run the tool that the first argument names. -/
def main (args : List String) : IO UInt32 := do
  match args with
  | "hackparse" :: args =>
    let look ← viewOf (ListTool.paths args)
    let env ← environment
    (ListTool.run (.standard look env) env args).emit
  | "hacksyms" :: args => (SymbolsTool.run args).emit
  | _ =>
    IO.eprintln "Usage: hackparse [OPTIONS] INPUT_FILE or hacksyms [OPTIONS]"
    return ExitCode.invalidArguments.number.toUInt32
