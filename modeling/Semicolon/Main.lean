import Semicolon.Cli.Program

/-!
# Main — the command line in a real folder

Every word of the command line that names a file is read before the program runs, so that the
program itself is a function.
-/

namespace Semicolon

/-- The file at a path. -/
def readFile (path : String) : IO File := do
  match ← (IO.FS.readBinFile path).toBaseIO with
  | .ok bytes => return ⟨String.ofList (Cli.plainName path), some bytes⟩
  | .error _  => return ⟨String.ofList (Cli.plainName path), none⟩

/-- The paths that a command line names. -/
def paths (words : List String) : List String :=
  match Cli.Arguments.read words with
  | .error _ => []
  | .ok a    =>
    a.config?.toList ++ match a.command with
      | .explain _ _ _                 => []
      | .check path _ _ | .replay path _ => [path]

end Semicolon

open Semicolon in
def main (words : List String) : IO UInt32 := do
  let folder ← (paths words).mapM readFile
  let output := Cli.Program.run folder words
  for (level, message) in output.log do
    IO.eprintln ("[" ++ level.name ++ "] " ++ message)
  IO.print output.stdout
  for line in output.stderr do
    IO.eprintln line
  return output.exitCode.toUInt32
