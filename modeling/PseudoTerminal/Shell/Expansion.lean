import PseudoTerminal.Files.Tree
import PseudoTerminal.Host.Account
import PseudoTerminal.Shell.Arithmetic
import PseudoTerminal.Shell.Pattern

/-! Expansion of words: parameters and arithmetic are replaced by their values, what came from an unquoted
expansion is split into fields, and fields that are patterns become the paths that they match. Command
substitutions have been run before. -/

namespace PseudoTerminal.Shell

/-- A piece of an expanded word. -/
inductive Glyph
  /-- An octet; quoted ones are in no pattern, and those that split may separate fields. -/
  | octet (b : UInt8) (quoted splits : Bool)
  /-- A boundary between two fields. -/
  | gap
  /-- There is a field here, even if nothing is in it. -/
  | anchor
  deriving DecidableEq, Repr

/-- A field as octets, each with whether it is quoted. -/
abbrev Field := List (UInt8 × Bool)

namespace State

/-- The flags in the order in which they are shown. -/
def flagOrder : List Char := [
  'p', 'u', 'b', 'a', 'C', 'E', 'V', 'v', 'x', 's', 'n', 'm', 'i', 'I', 'f', 'e']

/-- The value of a parameter other than the list of all arguments. -/
def parameter? (sh : State) (name : Octets) : Option Octets :=
  match name with
  | [63] => some (Octets.ofNat sh.status)
  | [36] => some (Octets.ofNat sh.pid)
  | [33] => sh.lastJob.map Octets.ofNat
  | [35] => some (Octets.ofNat sh.args.length)
  | [45] => some (Source.toOctets (flagOrder.filter sh.flags.contains))
  | [48] => some sh.name
  | _ =>
    match Octets.decimal? name with
    | some n => if n = 0 then some sh.name else sh.args[n - 1]?
    | none => sh.value? name

/-- Whether a name stands for all arguments. -/
def isAll (name : Octets) : Bool := name == [64] || name == [42]

/-- The separators of fields. -/
def separators (sh : State) : Octets := (sh.valueOf "IFS").getD [32, 9, 10]

/-- The pieces of a value. -/
def glyphsOf (quoted : Bool) (value : Octets) : List Glyph :=
  if quoted then
    if value.isEmpty then [.anchor] else value.map (Glyph.octet · true false)
  else value.map (Glyph.octet · false true)

/-- The pieces of all arguments. -/
def allGlyphs (sh : State) (star quoted : Bool) : List Glyph :=
  if star && quoted then
    let separator := sh.separators.take 1
    glyphsOf true (match sh.args with
      | [] => []
      | a :: rest => rest.foldl (fun text a => text ++ separator ++ a) a)
  else
    let each := sh.args.map fun a => if quoted then Glyph.anchor :: glyphsOf true a else glyphsOf false a
    match each with
    | [] => []
    | first :: rest => first ++ rest.flatMap (Glyph.gap :: ·)

/-- The octets of pieces that are one string. -/
def joined (gs : List Glyph) : Octets :=
  gs.filterMap fun g => match g with
    | .octet b _ _ => some b
    | .gap => some 32
    | .anchor => none

/-- The octets of pieces with their quoting. -/
def withQuotes (gs : List Glyph) : Field :=
  gs.filterMap fun g => match g with
    | .octet b quoted _ => some (b, quoted)
    | .gap => some (32, false)
    | .anchor => none

/-- The pieces that stand for a parameter: between quotes there is at least an empty field, elsewhere what
is not quoted separates fields. -/
def standIn (quoted : Bool) (gs : List Glyph) : List Glyph :=
  if quoted then if gs.isEmpty then [.anchor] else gs
  else gs.map fun g => match g with
    | .octet b false _ => .octet b false true
    | g => g

abbrev Expanding := Except Octets

mutual

/-- The pieces of one part. -/
def expandPart (sh : State) : Part → Expanding (List Glyph × State)
  | .text t quoted =>
    .ok (if quoted then glyphsOf true t else t.map (Glyph.octet · false false), sh)
  | .output t quoted => .ok (glyphsOf quoted t, sh)
  | .command _ _ => .ok ([], sh)
  | .arithmetic expression quoted => do
    let (gs, sh) ← expandParts sh expression
    let (v, sh) ← Arithmetic.evaluate sh (joined gs)
    return (glyphsOf quoted (Arithmetic.toText v), sh)
  | .parameter name use word quoted => do
    let value := if isAll name then
        if sh.args.isEmpty then none else some (Octets.joinWith 32 sh.args)
      else sh.parameter? name
    let present (colon : Bool) : Bool := value.isSome && !(colon && value == some [])
    let own : List Glyph :=
      if isAll name then sh.allGlyphs (name == [42]) quoted else glyphsOf quoted (value.getD [])
    let complain (text : String) : Expanding (List Glyph × State) :=
      .error (name ++ Octets.ofString (": " ++ text))
    let unset := value.isNone && sh.has 'u' && !isAll name
    match use with
    | .bad => .error (Octets.ofString "Bad substitution")
    | .value => if unset then complain "parameter not set" else return (own, sh)
    | .length =>
      if unset then complain "parameter not set"
      else return (glyphsOf quoted (Octets.ofNat (value.getD []).length), sh)
    | .orDefault colon =>
      if present colon then return (own, sh)
      else
        let (gs, sh) ← expandParts sh word
        return (standIn quoted gs, sh)
    | .ifSet colon =>
      if !present colon then return (standIn quoted [], sh)
      else
        let (gs, sh) ← expandParts sh word
        return (standIn quoted gs, sh)
    | .orAssign colon =>
      if present colon then return (own, sh)
      else
        let (gs, sh) ← expandParts sh word
        let value := joined gs
        match sh.assign? name value with
        | some sh => return (glyphsOf quoted value, sh)
        | none => complain "is read only"
    | .orFail colon =>
      if present colon then return (own, sh)
      else
        let (gs, _) ← expandParts sh word
        if gs.isEmpty then complain (if colon then "parameter not set or null" else "parameter not set")
        else .error (name ++ Octets.ofString ": " ++ joined gs)
    | .withoutStart longest =>
      let (gs, sh) ← expandParts sh word
      return (glyphsOf quoted ((Pattern.parse (withQuotes gs)).dropStart longest (value.getD [])), sh)
    | .withoutEnd longest =>
      let (gs, sh) ← expandParts sh word
      return (glyphsOf quoted ((Pattern.parse (withQuotes gs)).dropEnd longest (value.getD [])), sh)

def expandParts (sh : State) : List Part → Expanding (List Glyph × State)
  | [] => .ok ([], sh)
  | part :: parts => do
    let (gs, sh) ← expandPart sh part
    let (more, sh) ← expandParts sh parts
    return (gs ++ more, sh)

end

/-- The directory that a tilde with a name stands for; without a name it is the home of the user. -/
def home? (sh : State) (name : Octets) : Option Octets :=
  if name.isEmpty then sh.valueOf "HOME" else Host.Account.home? name

/-- A word whose tilde has been replaced by a home directory. -/
def withHome (sh : State) (w : Word) : Word :=
  match w with
  | .text (126 :: rest) false :: parts =>
    let name := rest.takeWhile (· != Path.slash)
    let left := rest.drop name.length
    match if left.isEmpty && !parts.isEmpty then none else sh.home? name with
    | some home => .text home true :: if left.isEmpty then parts else .text left false :: parts
    | none => w
  | _ => w

/-! ### Fields -/

/-- The field under construction, and whether the last one was ended by blank separators alone. -/
structure Splitting where
  done : List Field := []
  current : Option Field := none
  afterBlank : Bool := false

def Splitting.close (s : Splitting) : Splitting :=
  match s.current with
  | some f => { s with done := f.reverse :: s.done, current := none }
  | none => s

def Splitting.add (separators : Octets) (s : Splitting) : Glyph → Splitting
  | .gap => { s.close with afterBlank := false }
  | .anchor => { s with current := some (s.current.getD []), afterBlank := false }
  | .octet b quoted splits =>
    if splits && separators.contains b then
      if b == 32 || b == 9 || b == 10 then
        if s.current.isSome then { s.close with afterBlank := true } else s
      else if s.current.isNone && s.afterBlank then { s with afterBlank := false }
      else { ({ s with current := some (s.current.getD []) } : Splitting).close with afterBlank := false }
    else { s with current := some ((b, quoted) :: s.current.getD []), afterBlank := false }

/-- The fields of an expanded word. -/
def split (separators : Octets) (gs : List Glyph) : List Field :=
  ((gs.foldl (Splitting.add separators) {}).close).done.reverse

/-! ### Paths -/

/-- The names in a directory, in order. -/
def namesIn (files : FileTree) (place : Place) : List Octets :=
  let names := files.filterMap fun (p, _) =>
    if p.length == place.length + 1 && place.isPrefixOf p then p.getLast? else none
  names.mergeSort fun a b => !Octets.lt b a

/-- The parts of a field between slashes. -/
def fieldParts : Field → List Field
  | [] => [[]]
  | (b, quoted) :: rest =>
    if b == Path.slash then [] :: fieldParts rest
    else match fieldParts rest with
      | [] => [[(b, quoted)]]
      | p :: ps => ((b, quoted) :: p) :: ps

/-- The paths that begin with a text and go on as the parts say. -/
def matching (files : FileTree) (cwd : Place) (start : Octets) : List Field → List Octets
  | [] => []
  | part :: rest =>
    let pattern := Pattern.parse part
    let found (name : Octets) : List Octets :=
      let text := start ++ name
      if rest.isEmpty then (if files.isPresent (some cwd) text then [text] else [])
      else matching files cwd (text ++ [Path.slash]) rest
    if pattern.isProper then
      let place := if start.isEmpty then .ok cwd else files.locate (some cwd) start
      match place with
      | .error _ => []
      | .ok place =>
        let shown (name : Octets) : Bool :=
          name.head? != some Path.dot || (part.head?.map Prod.fst) == some Path.dot
        ((namesIn files place).filter fun name => shown name && pattern.covers name).flatMap found
    else found (part.map Prod.fst)

/-- The words that a field stands for. -/
def pathsOf (sh : State) (files : FileTree) (cwd : Place) (f : Field) : List Octets :=
  let own := f.map Prod.fst
  let isPattern := f.any fun (b, quoted) => !quoted && (b == 42 || b == 63 || b == 91)
  if !isPattern || sh.has 'f' then [own]
  else
    let found := match f with
      | (b, _) :: rest => if b == Path.slash then matching files cwd [Path.slash] (fieldParts rest)
        else matching files cwd [] (fieldParts f)
      | [] => []
    if found.isEmpty then [own] else found

/-- The fields of one word. -/
def expandWord (sh : State) (files : FileTree) (cwd : Place) (w : Word) :
    Expanding (List Octets × State) := do
  let (gs, sh) ← expandParts sh (sh.withHome w)
  return ((split sh.separators gs).flatMap (sh.pathsOf files cwd), sh)

/-- The fields of words. -/
def expandWords (sh : State) (files : FileTree) (cwd : Place) : List Word →
    Expanding (List Octets × State)
  | [] => .ok ([], sh)
  | w :: ws => do
    let (fields, sh) ← sh.expandWord files cwd w
    let (more, sh) ← expandWords sh files cwd ws
    return (fields ++ more, sh)

/-- A word as one string. -/
def expandText (sh : State) (w : Word) : Expanding (Octets × State) := do
  let (gs, sh) ← expandParts sh (sh.withHome w)
  return (joined gs, sh)

/-- A word as a pattern. -/
def expandPattern (sh : State) (w : Word) : Expanding (Pattern × State) := do
  let (gs, sh) ← expandParts sh w
  return (Pattern.parse (withQuotes gs), sh)

/-- Plain text in which tildes behind colons, and one at the start of a word, are home directories. -/
def withHomes (sh : State) : Nat → Bool → Octets → List Part
  | 0, _, _ | _ + 1, _, [] => []
  | fuel + 1, starts, b :: rest =>
    let name := rest.takeWhile fun c => c != Path.slash && c != 58
    match if starts && b == 126 then sh.home? name else none with
    | some home => .text home true :: withHomes sh fuel false (rest.drop name.length)
    | none => Reader.addPart (.text [b] false) (withHomes sh fuel (b == 58) rest)

/-- The value of an assignment. -/
def expandValue (sh : State) (w : Word) : Expanding (Octets × State) := do
  let w : Word := (w.zipIdx).flatMap fun (part, n) => match part with
    | .text t false => sh.withHomes (t.length + 1) (n == 0) t
    | part => [part]
  let (gs, sh) ← expandParts sh w
  return (joined gs, sh)

/-- The values of assignments, each seen by the next. -/
def expandAssignments (sh : State) : List (Octets × Word) → Expanding (List (Octets × Octets) × State)
  | [] => .ok ([], sh)
  | (name, w) :: rest => do
    let (value, sh) ← sh.expandValue w
    let (more, _) ← expandAssignments (sh.assign name value) rest
    return ((name, value) :: more, sh)

end State

end PseudoTerminal.Shell
