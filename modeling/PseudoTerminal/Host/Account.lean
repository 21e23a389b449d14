import PseudoTerminal.Text.Octets

/-! The users and groups that the host knows. -/

namespace PseudoTerminal.Host

structure Account where
  name : String
  user : Nat
  group : Nat
  comment : String
  home : String
  shell : String := "/usr/sbin/nologin"
  deriving Repr

namespace Account

def all : List Account := [
  ⟨"root", 0, 0, "root", "/root", "/bin/bash"⟩,
  { name := "daemon", user := 1, group := 1, comment := "daemon", home := "/usr/sbin" },
  { name := "bin", user := 2, group := 2, comment := "bin", home := "/bin" },
  { name := "sys", user := 3, group := 3, comment := "sys", home := "/dev" },
  ⟨"sync", 4, 65534, "sync", "/bin", "/bin/sync"⟩,
  { name := "games", user := 5, group := 60, comment := "games", home := "/usr/games" },
  { name := "man", user := 6, group := 12, comment := "man", home := "/var/cache/man" },
  { name := "lp", user := 7, group := 7, comment := "lp", home := "/var/spool/lpd" },
  { name := "mail", user := 8, group := 8, comment := "mail", home := "/var/mail" },
  { name := "news", user := 9, group := 9, comment := "news", home := "/var/spool/news" },
  { name := "uucp", user := 10, group := 10, comment := "uucp", home := "/var/spool/uucp" },
  { name := "proxy", user := 13, group := 13, comment := "proxy", home := "/bin" },
  { name := "www-data", user := 33, group := 33, comment := "www-data", home := "/var/www" },
  { name := "backup", user := 34, group := 34, comment := "backup", home := "/var/backups" },
  { name := "list", user := 38, group := 38, comment := "Mailing List Manager", home := "/var/list" },
  { name := "irc", user := 39, group := 39, comment := "ircd", home := "/run/ircd" },
  { name := "_apt", user := 42, group := 65534, comment := "", home := "/nonexistent" },
  { name := "nobody", user := 65534, group := 65534, comment := "nobody", home := "/nonexistent" }]

/-- The line for an account in the list of them. -/
def line (a : Account) : String :=
  ":".intercalate [a.name, "x", toString a.user, toString a.group, a.comment, a.home, a.shell] ++ "\n"

/-- The home of a user of that name. -/
def home? (name : Octets) : Option Octets :=
  (all.find? fun a => Octets.ofString a.name == name).map fun a => Octets.ofString a.home

/-- The name of a user. -/
def userName? (user : Nat) : Option String := (all.find? (·.user == user)).map Account.name

/-- The groups by number. -/
def groups : List (Nat × String) := [
  (0, "root"), (1, "daemon"), (2, "bin"), (3, "sys"), (4, "adm"), (5, "tty"), (6, "disk"), (7, "lp"),
  (8, "mail"), (9, "news"), (10, "uucp"), (12, "man"), (13, "proxy"), (15, "kmem"), (20, "dialout"),
  (21, "fax"), (22, "voice"), (24, "cdrom"), (25, "floppy"), (26, "tape"), (27, "sudo"),
  (29, "audio"), (30, "dip"), (33, "www-data"), (34, "backup"), (37, "operator"), (38, "list"),
  (39, "irc"), (40, "src"), (42, "shadow"), (43, "utmp"), (44, "video"), (45, "sasl"),
  (46, "plugdev"), (50, "staff"), (60, "games"), (100, "users"), (65534, "nogroup")]

end Account

end PseudoTerminal.Host
