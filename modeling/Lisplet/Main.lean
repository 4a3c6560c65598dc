import Lisplet.CommandLine.Run

/-!
# The executable

The command line is run on a copy of the working directory. Files that the run
changed are written back, and all that it printed is passed on at its end.
-/

namespace Lisplet.CommandLine

partial def snapshot (names : List String) (files : FileSystem)
    (entry : IO.FS.DirEntry) : IO FileSystem := do
  let place := names ++ [entry.fileName]
  if ← entry.path.isDir then
    let mut tree := files.install place .directory
    for below in ← entry.path.readDir do
      tree ← snapshot place tree below
    return tree
  else
    let content ← IO.FS.readBinFile entry.path
    return files.install place (.file content.toList)

def workingFiles : IO FileSystem := do
  let mut files : FileSystem := {}
  for entry in ← (← IO.currentDir).readDir do
    files ← snapshot [] files entry
  return files

end Lisplet.CommandLine

open Lisplet in
def main (arguments : List String) : IO UInt32 := do
  let before ← CommandLine.workingFiles
  let outcome := CommandLine.run arguments before
  for (path, content) in outcome.files.changedSince before do
    IO.FS.writeBinFile path ⟨content.toArray⟩
  IO.print outcome.output
  if let some message := outcome.usageError then
    IO.eprint CommandLine.usageText
    IO.eprintln message
  return outcome.exit.toUInt32
