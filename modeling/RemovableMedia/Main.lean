import RemovableMedia.Session.Probes
import RemovableMedia.Storage.Entry

/-!
# The program

Runs one session over the whole of standard input.  Navigation requests are
written to standard output and the log to standard error.  The desktop is one
that only the session sees.
-/

namespace RemovableMedia.Program

/-- The number of the error of reading a directory. -/
def readsDirectory : UInt32 := 21

/-- What is at a path, if anything. -/
def probe (path : String) : IO (Option NewEntry) := do
  try
    return some (.file (← IO.FS.readBinFile path))
  catch
    | .inappropriateType _ code _ =>
        return if code = readsDirectory then some .directory else none
    | _ => return none

/-- A tree of what is at some paths. -/
def gather (paths : List String) : IO FileTree := do
  let mut tree : FileTree := {}
  for path in paths do
    if let some entry ← probe path then
      tree := (tree.add path entry).toOption.getD tree
  return tree

/-- The settings that paths are looked up by; the session reports what is wrong
with them. -/
def settings (files : FileTree) (path : Option String) : HandlerConfig :=
  match path with
  | some path => (HandlerConfig.load files path).toOption.getD {}
  | none => {}

/-- Reads to the end of the input. -/
partial def readAll (input : IO.FS.Stream) (soFar : ByteArray) :
    IO ByteArray := do
  let chunk ← input.read 65536
  if chunk.isEmpty then return soFar else readAll input (soFar ++ chunk)

/-- Gathers what the session can see of the outside, runs it, and writes what
comes of it. -/
def run (arguments : List String) : IO UInt32 := do
  let input := (← readAll (← IO.getStdin) .empty).toList
  let configPath := Session.configPath? arguments
  let config := settings (← gather configPath.toList) configPath
  let paths := configPath.toList ++ Session.probedPaths config input
  let report := Session.run { files := ← gather paths, input } arguments
  let output ← IO.getStdout
  let errors ← IO.getStderr
  output.putStr report.output
  for entry in report.writtenLog do
    errors.putStrLn entry.line
  return report.exitCode

end RemovableMedia.Program

def main (arguments : List String) : IO UInt32 :=
  RemovableMedia.Program.run arguments
