import ActualState.Startup.Launch

/-!
# The program

Takes the steps of a start with the real environment and files, says how they went, and stays up
until its input ends.
-/
open ActualState

namespace ActualState.Program

open Startup

/-- What stands at a path; whatever cannot be read counts as a directory. -/
def readEntry (path : String) : IO Entry := do
  try
    return .file (← IO.FS.readBinFile path).toList
  catch
    | .noFileOrDirectory _ _ _ => return .absent
    | _ => return .directory

/-- The environment, with what the file in the working directory adds to it. -/
def readEnvironment : IO Environment := do
  let given ← IO.getEnv configVariable
  let e ← readEntry envFilePath
  return environment ⟨[([envFilePath], e)]⟩ (given.toList.map fun v => (configVariable, v))

/-- Makes the directories that lead to a path. -/
def makeParents (path : String) : IO (Except Failure Unit) := do
  let names := Folder.parents path
  if names.isEmpty then return .ok ()
  try
    IO.FS.createDirAll ((if path.startsWith "/" then "/" else "") ++ "/".intercalate names)
    return .ok ()
  catch _ => return .error (.store .io)

/-- Takes all steps of a start. -/
def start : ExceptT Failure IO ListenerConfig := do
  let env ← readEnvironment
  let c ← ExceptT.mk do return configOf (← readEntry (configPath env))
  ExceptT.mk (makeParents c.store.path)
  let _ ← ExceptT.mk do return documentOf (← readEntry c.store.path)
  ExceptT.mk (pure (bindOf c))
  return c

/-- Reads to the end of the input. -/
def awaitEnd : IO Unit := do
  let _ ← (← IO.getStdin).readToEnd

end ActualState.Program

def main : IO UInt32 := do
  let result ← Program.start.run
  match result with
  | .error e => IO.eprintln ("Error: " ++ e.context)
  | .ok c =>
    IO.println ("listening at " ++ c.http.bind)
    Program.awaitEnd
  return Startup.exitCode result
