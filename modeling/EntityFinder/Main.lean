import EntityFinder.CommandLine.Run
import EntityFinder.Files.Archive

set_option autoImplicit false

/-!
# The program

Runs one command. The files that commands work on, schemas and databases, are kept together in one
archive in the current directory.

## Main definitions

* `main`: the program.
-/

/-- The archive. -/
def archiveName : String := "entities.json"

/-- The files in the archive; there are none before the first run. -/
def loadTree : IO EntityFinder.FileTree := do
  let text ← try IO.FS.readFile archiveName catch _ => pure "[]"
  match EntityFinder.Archive.read text with
  | some tree => return tree
  | none => throw (IO.userError (archiveName ++ " is not an archive"))

/-- Writes the lines that say why a run failed. -/
def complain (outcome : EntityFinder.CommandLine.Outcome) : IO Unit := do
  let err ← IO.getStderr
  if let some line := outcome.error then err.putStrLn line
  if let some cause := outcome.cause then err.putStrLn ("\nCaused by:\n    " ++ cause)

/-- Runs one command. -/
def main (arguments : List String) : IO UInt32 := do
  let tree ← loadTree
  let (outcome, tree) := EntityFinder.CommandLine.run arguments tree
  IO.FS.writeFile archiveName (EntityFinder.Archive.write tree)
  (← IO.getStdout).putStr outcome.output
  complain outcome
  return UInt32.ofNat outcome.code
