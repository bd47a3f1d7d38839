import LineShell.Cli
import LineShell.Machine.Kernel
import LineShell.Machine.Layout

/-!
# The program

Runs the shell on a machine of its own, over the lines of the standard input, and then writes what
the shell and its commands have written.
-/

namespace LineShell

/-- The variables taken over from the program's own environment. -/
def inheritedNames : List String := ["HOME", "MICROSHELL_CONFIG", "PATH"]

def inherited : IO (List (Bytes × Bytes)) :=
  inheritedNames.filterMapM fun name => do
    let value ← IO.getEnv name
    return value.map fun value => (bytes name, bytes value)

/-- The file with the configuration, if it can be read. -/
def configFile : IO (List (Bytes × Item)) := do
  match ← IO.getEnv (String.ofList (Text.lossy Cli.configName)) with
  | none => return []
  | some path =>
    try
      let content ← IO.FS.readBinFile path
      return [(bytes path, .file content.toList Machine.fileMode)]
    catch _ => return []

/-- Reads to the end of a stream. -/
partial def readAll (stream : IO.FS.Stream) (content : ByteArray) : IO ByteArray := do
  let chunk ← stream.read 65536
  if chunk.isEmpty then return content else readAll stream (content ++ chunk)

def writeAll (stream : IO.FS.Stream) (data : Bytes) : IO Unit := do
  stream.write (ByteArray.mk data.toArray)
  stream.flush

end LineShell

open LineShell in
def main : IO UInt32 := do
  let store := Entries.ofStart (← inherited)
  let tree := Machine.standardTree.installAll Tree.root (← configFile)
  let input ← readAll (← IO.getStdin) .empty
  let console := Node.file input.toList Machine.fileMode
  let machine := Machine.ofTree tree console (.pipe [])
  let some result := Cli.run Machine.host machine Tree.root store | return 1
  writeAll (← IO.getStdout) result.out
  writeAll (← IO.getStderr) result.err
  return result.exitCode.toUInt32
