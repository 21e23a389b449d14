import PseudoTerminal.Console
import PseudoTerminal.Host.Installation

/-! The command line. The program runs on the host that this library describes, with the variables and
the configuration of the caller; the keys come from the standard input. -/

namespace PseudoTerminal

/-- The variables that are taken over from the caller. -/
def inheritedNames : List String := [
  "HOME", "PATH", "SHELL", "USERPROFILE", "TERM", "LANG", "LC_ALL", "PWD"]

/-- Adds the caller's configuration file to the files, if there is one. -/
def withConfiguration (files : FileTree) (vars : List Variable) : IO FileTree := do
  let some dir := Config.configDir? vars | return files
  let path := dir.join (Octets.ofString "config.toml")
  let some cs := Utf8.decode? path | return files
  try
    let data ← IO.FS.readBinFile (String.ofList cs)
    match files.create [] path (.file 0o644 (.data data.toList)) with
    | .ok files => return files
    | .error _ => return files
  catch _ => return files

end PseudoTerminal

open PseudoTerminal in
def main (args : List String) : IO UInt32 := do
  let mut vars : List Variable := []
  for name in inheritedNames do
    if let some value ← IO.getEnv name then
      vars := vars ++ [⟨Octets.ofString name, Octets.ofString value⟩]
  let files ← withConfiguration Host.installation vars
  let keys ← match Options.parse args with
    | .run _ => (← IO.getStdin).readToEnd
    | _ => pure ""
  let report := Console.run { args, files, vars, cwd := [], console := some {} }
    (some { after := [], input := Octets.ofString keys })
  for piece in report.pieces do
    match piece with
    | .relayed data => (← IO.getStdout).write data.toByteArray
    | .said text => IO.eprint text
  return UInt32.ofNat report.status
