import PseudoTerminal.Files.Tree
import PseudoTerminal.Host.Account

/-! What is installed on the host before a session brings its own files: the shell, the small programs
beside it, and the directories and devices that programs take for granted. -/

namespace PseudoTerminal.Host

/-- The programs of the host. -/
def programNames : List String := [
  "[", "cat", "dash", "dd", "echo", "env", "false", "head", "id", "kill", "printf", "pwd", "sleep", "stty",
  "test", "tr", "true"]

/-- The place of a path that is written with slashes. -/
def placeOf (p : String) : Place := (Path.parts (Octets.ofString p)).filter (!·.isEmpty)

/-- The files of the host. -/
def installation : FileTree :=
  let directories := ["/dev", "/etc", "/home", "/media", "/mnt", "/opt", "/proc", "/root", "/run", "/srv",
    "/sys", "/tmp", "/usr", "/usr/bin", "/usr/lib", "/usr/local", "/usr/local/bin", "/usr/local/sbin",
    "/usr/sbin", "/usr/share", "/var", "/var/tmp"]
  directories.map (fun d => (placeOf d, Node.directory 0o755))
    ++ [(placeOf "/bin", .link (Octets.ofString "usr/bin")),
      (placeOf "/lib", .link (Octets.ofString "usr/lib")),
      (placeOf "/sbin", .link (Octets.ofString "usr/sbin")),
      (placeOf "/etc/passwd",
        .file 0o644 (.data (Octets.ofString (String.join (Account.all.map Account.line))))),
      (placeOf "/usr/bin/sh", .link (Octets.ofString "dash"))]
    ++ ["null", "zero", "tty"].map (fun d => (placeOf ("/dev/" ++ d), Node.device d))
    ++ programNames.map (fun n => (placeOf ("/usr/bin/" ++ n),
      Node.file 0o755 (.program n)))

/-- The variables of the host. -/
def environment : List (String × String) := [
  ("HOME", "/root"), ("PATH", "/usr/local/sbin:/usr/local/bin:/usr/sbin:/usr/bin:/sbin:/bin")]

end PseudoTerminal.Host
