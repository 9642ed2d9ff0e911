import RecordFlow.CommandLine.Session
import RecordFlow.Regex.Engine

/-! # The program

The surroundings of a session are the file system, the standard streams, the
environment and the clock of the process.
-/

namespace RecordFlow.CommandLine

def attempt (action : IO String) : IO (Option String) := do
  try
    let text ← action
    return some text
  catch _ =>
    return none

/-- All that comes from a stream until its end. -/
partial def readStream (stream : IO.FS.Stream) (text : String) : IO String := do
  let line ← stream.getLine
  if line.isEmpty then return text else readStream stream (text ++ line)

def processSurroundings : Surroundings IO where
  fileText path := attempt (IO.FS.readFile path)
  inputText := do
    let stream ← IO.getStdin
    attempt (readStream stream "")
  variableValue name := IO.getEnv name
  clock := IO.monoNanosNow

end RecordFlow.CommandLine

open RecordFlow.CommandLine
open scoped RecordFlow.Regex

def main (arguments : List String) : IO UInt32 := do
  let outcome ← respond processSurroundings arguments
  for line in outcome.notes do
    IO.eprintln line
  IO.print outcome.output
  return outcome.exitCode.toUInt32
