import Repricing.CommandLine.Run

open Repricing

def readTextFile (path : String) : IO (Except FileFault String) := do
  try
    let bytes ← IO.FS.readBinFile path
    match String.fromUTF8? bytes with
    | some text => pure (.ok text)
    | none => pure (.error .notText)
  catch e =>
    match e with
    | .inappropriateType .. => pure (.error .isDirectory)
    | _ => pure (.error .notFound)

def main (arguments : List String) : IO UInt32 := do
  let paths := (CommandLine.Request.ofArguments arguments).paths
  let texts ← paths.mapM fun path => do
    let text ← readTextFile path
    pure (path, text)
  let files : Files := fun path => (texts.lookup path).getD (.error .notFound)
  let outcome := CommandLine.run files arguments
  (← IO.getStdout).putStr outcome.output
  (← IO.getStderr).putStr outcome.errors
  pure outcome.status.toUInt32
