import PseudoTerminal.Fault
import PseudoTerminal.Files.Path

/-! A tree of files. Directories, files, links and devices lie under lists of names; looking a path up
follows links, of which a path may lead through forty. Users with all rights see everything. -/

namespace PseudoTerminal

/-- What a regular file holds: data, or one of the host's own programs. -/
inductive Content
  | data (octets : Octets)
  | program (name : String)
  deriving DecidableEq, Repr, Inhabited

inductive Node
  | directory (mode : Nat)
  | file (mode : Nat) (content : Content)
  | link (target : Path)
  | device (name : String)
  deriving DecidableEq, Repr, Inhabited

/-- A place in the tree: the names on the way down from the root. -/
abbrev Place := List Octets

/-- The nodes by place; the root is a directory that is always there. -/
abbrev FileTree := List (Place × Node)

namespace FileTree

/-- The longest name that a file can have. -/
def nameLimit : Nat := 255

/-- The longest path that a call takes. -/
def pathLimit : Nat := 4096

/-- How many links a path may lead through. -/
def linkLimit : Nat := 40

def node? (t : FileTree) (place : Place) : Option Node :=
  if place.isEmpty then some (.directory 0o755) else t.lookup place

def isDirectory (t : FileTree) (place : Place) : Bool :=
  match t.node? place with
  | some (.directory _) => true
  | _ => false

/-- Walks down from a place. Every name, the empty one included, asks for a directory to look in. A
link at the end is followed only when `follow` says so. -/
def walk (t : FileTree) (follow : Bool) (links : Nat) (here : Place) (todo : List Octets) :
    Except Fault Place :=
  match todo with
  | [] => .ok here
  | name :: rest =>
    if !t.isDirectory here then .error .notDirectory
    else if name.isEmpty || name == [Path.dot] then walk t follow links here rest
    else if name == [Path.dot, Path.dot] then walk t follow links here.dropLast rest
    else if nameLimit < name.length then .error .nameTooLong
    else
      let place := here ++ [name]
      match t.node? place with
      | none => .error .noEntry
      | some (.link target) =>
        if rest.isEmpty && !follow then .ok place
        else match links with
          | 0 => .error .linkLoop
          | links + 1 =>
            if target.isEmpty then .error .noEntry
            else walk t follow links (if target.isAbsolute then [] else here) (target.parts ++ rest)
      | some _ => walk t follow links place rest
termination_by (links, todo.length)

/-- A path that contains a zero octet cannot be asked for. -/
def zeroOctet : Fault := .text .invalidInput "file name contained an unexpected NUL byte"

/-- The place that a path names, seen from a directory; without one, relative paths lead nowhere. -/
def locate (t : FileTree) (cwd : Option Place) (p : Path) (follow : Bool := true) :
    Except Fault Place :=
  if p.contains 0 then .error zeroOctet
  else if p.isEmpty then .error .noEntry
  else if pathLimit ≤ p.length then .error .nameTooLong
  else if p.isAbsolute then t.walk follow linkLimit [] p.parts
  else match cwd with
    | some here => t.walk follow linkLimit here p.parts
    | none => .error .noEntry

/-- The node that a path names, links followed. -/
def find (t : FileTree) (cwd : Option Place) (p : Path) : Except Fault (Place × Node) := do
  let place ← t.locate cwd p
  match t.node? place with
  | some n => return (place, n)
  | none => throw .noEntry

/-- Whether a path names a regular file with an execute bit. -/
def isExecutable (t : FileTree) (cwd : Option Place) (p : Path) : Bool :=
  match t.find cwd p with
  | .ok (_, .file mode _) => mode &&& 0o111 != 0
  | _ => false

/-- Whether a path names anything at all. -/
def isPresent (t : FileTree) (cwd : Option Place) (p : Path) : Bool := (t.find cwd p).isOk

/-- The data of the file under a path. -/
def read (t : FileTree) (cwd : Option Place) (p : Path) : Except Fault Octets := do
  match (← t.find cwd p).2 with
  | .file _ (.data d) => return d
  | .directory _ => throw .isDirectory
  | _ => return []

/-- Puts a node at a place; one that was there is replaced. -/
def put (t : FileTree) (place : Place) (n : Node) : FileTree :=
  t.filter (·.1 != place) ++ [(place, n)]

/-- Removes a place and all below it. -/
def remove (t : FileTree) (place : Place) : FileTree :=
  t.filter fun e => !place.isPrefixOf e.1

/-- The directory under a list of names, created as far as it is missing. -/
def makeDirectories (t : FileTree) (here : Place) : List Octets → Except Fault (Place × FileTree)
  | [] => if t.isDirectory here then .ok (here, t) else .error .notDirectory
  | name :: rest =>
    if !t.isDirectory here then .error .notDirectory
    else if name.isEmpty || name == [Path.dot] then makeDirectories t here rest
    else if name == [Path.dot, Path.dot] then makeDirectories t here.dropLast rest
    else match t.walk true linkLimit here [name] with
      | .ok place => makeDirectories t place rest
      | .error _ =>
        let place := here ++ [name]
        if (t.node? place).isSome then .error (.os 17)
        else makeDirectories (t.put place (.directory 0o755)) place rest

/-- Creates a node under a path, with the directories above it. -/
def create (t : FileTree) (cwd : Place) (p : Path) (n : Node) : Except Fault FileTree := do
  let names := p.parts.filter (!·.isEmpty)
  let start := if p.isAbsolute then [] else cwd
  match n with
  | .directory mode =>
    let (place, t) ← t.makeDirectories start names
    return t.put place (.directory mode)
  | n =>
    let (above, t) ← t.makeDirectories start names.dropLast
    match names.getLast? with
    | none => throw .isDirectory
    | some name =>
      match t.walk true linkLimit above [name], n with
      | .ok place, .file _ _ => if t.isDirectory place then throw .isDirectory else return t.put place n
      | _, _ => return t.put (above ++ [name]) n

/-- The absolute path of a place. -/
def pathOf (place : Place) : Path :=
  if place.isEmpty then [Path.slash] else place.flatMap (Path.slash :: ·)

end FileTree

end PseudoTerminal
