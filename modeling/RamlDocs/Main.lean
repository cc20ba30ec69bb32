import RamlDocs.Command.Run

/-!
# The program

The files below the working directory and two environment variables go in; what the command line
comes to is printed and saved.
-/

namespace RamlDocs

/-- The files below the working directory of the process. -/
partial def snapshot : IO Files.Entry := do
  let here ← IO.currentDir
  let rec entryAt (path) : IO Files.Entry := do
    let found ← path.readDir
    let children ← found.toList.mapM fun e => do
      let child ← if ← e.path.isDir then entryAt e.path else fileAt e.path
      pure (e.fileName, child)
    pure (.dir children)
  entryAt here
where
  /-- A file with its bytes; one that cannot be read is empty. -/
  fileAt (path) : IO Files.Entry := do
    let bytes ← try IO.FS.readBinFile path catch _ => pure ByteArray.empty
    pure (.file (bytes.toList.map UInt8.toNat))

/-- The environment variables that a command looks at. -/
def environment : IO (List (String × String)) := do
  let names := ["RAMLVIEW_RENDER_MARKDOWN", "RAMLVIEW_RESPONSE_SCHEMA_CODE"]
  names.filterMapM fun name => do
    pure ((← IO.getEnv name).map fun value => (name, value))

/-- The text of a fault that goes out as it is. -/
def Command.Ending.fault? : Command.Ending → Option Fault
  | .failed f => some f
  | _ => none

end RamlDocs

open RamlDocs in
/-- Runs the command that the arguments call for. -/
def main (arguments : List String) : IO UInt32 := do
  let outcome := Command.run (← snapshot) (← environment) arguments
  for line in outcome.messages do
    IO.eprintln line
  if let some f := outcome.ending.fault? then
    IO.eprintln f.message
  if let .failed (.unsaved _ path) := outcome.ending then
    try IO.FS.createDirAll path.parent.display catch _ => pure ()
  if let some (path, text) := outcome.saved then
    IO.FS.createDirAll path.parent.display
    IO.FS.writeFile path.display text
  IO.print outcome.output
  return outcome.ending.code.toUInt32
