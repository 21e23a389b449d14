import PseudoTerminal.Host.Program
import PseudoTerminal.Shell.Pattern

/-! Programs that copy octets from files or their input to their output, whole or in part, unchanged or
octet by octet translated. -/

namespace PseudoTerminal.Host

namespace Transform

/-! ### Sets of octets -/

/-- The octets that a set names, in order; the star of a repetition asks for as many as are missing. -/
inductive Item
  | octets (s : Octets)
  | fill (b : UInt8)
  deriving Repr

/-- What is wrong with a set. -/
inductive SetFault
  | unknownClass (name : Octets)
  | reversed (range : Octets)
  deriving Repr

def escaped (b : UInt8) : UInt8 :=
  ([(97, 7), (98, 8), (102, 12), (110, 10), (114, 13), (116, 9), (118, 11)].lookup b).getD b

/-- The first octet of a set, its escape resolved, and what follows. -/
def octet (s : Octets) : Option (UInt8 × Octets) :=
  match s with
  | [] => none
  | 92 :: rest =>
    let digits := (rest.take 3).takeWhile fun b => 48 ≤ b && b ≤ 55
    if !digits.isEmpty then
      let n := digits.foldl (fun n d => n * 8 + (d.toNat - 48)) 0
      some (UInt8.ofNat n, rest.drop digits.length)
    else match rest with
      | b :: rest => some (escaped b, rest)
      | [] => some (92, [])
  | b :: rest => some (b, rest)

def items : Nat → Octets → Except SetFault (List Item)
  | 0, _ => .ok []
  | fuel + 1, s => do
    match s with
    | 91 :: 58 :: rest =>
      let name := rest.takeWhile (· != 58)
      let ranges := Shell.Pattern.classRanges name
      if ranges.isEmpty then throw (.unknownClass name)
      let all := ranges.flatMap fun (low, high) =>
        (List.range (high.toNat - low.toNat + 1)).map fun n => UInt8.ofNat (low.toNat + n)
      return .octets all :: (← items fuel (rest.drop (name.length + 2)))
    | 91 :: b :: 42 :: 93 :: rest => return .fill b :: (← items fuel rest)
    | s =>
      match octet s with
      | none => return []
      | some (b, 45 :: rest) =>
        match octet rest with
        | none => return [.octets [b, 45]]
        | some (c, left) =>
          if c < b then throw (.reversed (s.take (s.length - left.length)))
          let range := (List.range (c.toNat + 1 - b.toNat)).map fun n => UInt8.ofNat (b.toNat + n)
          return .octets range :: (← items fuel left)
      | some (b, rest) => return .octets [b] :: (← items fuel rest)

/-- The octets of a set, filled up to a length where it asks for that. -/
def members (s : Octets) (length : Nat) : Except SetFault Octets := do
  let found ← items (s.length + 1) s
  let fixed := found.foldl (fun n i => match i with
    | .octets s => n + s.length
    | .fill _ => n) 0
  return found.flatMap fun i => match i with
    | .octets s => s
    | .fill b => List.replicate (length - fixed) b

def flags (s : Octets) : Array Bool :=
  s.foldl (fun (a : Array Bool) b => a.set! b.toNat true) (Array.replicate 256 false)

def complement (s : Octets) : Octets :=
  ((List.range 256).map UInt8.ofNat).filter fun b => !s.contains b

/-- The table in which nothing changes. -/
def identity : Array UInt8 := ((List.range 256).map UInt8.ofNat).toArray

/-- The translation between two sets; the last octet of the second stands for all that it lacks, unless
the first one is cut short instead. -/
def translation (complemented delete squeeze cut : Bool) (first second : Octets) :
    Except SetFault Transform := do
  let a ← members first 0
  let a := if complemented then complement a else a
  let b ← members second a.length
  let a := if cut then a.take b.length else a
  if delete then return .translate identity (flags a) (if squeeze then flags b else flags []) none
  else if second.isEmpty then
    return .translate identity (flags []) (flags (if squeeze then a else [])) none
  else
    let last := b.getLast?.getD 0
    let b' := b ++ List.replicate (a.length - b.length) last
    let table := (a.zip b').foldl (fun (t : Array UInt8) (x, y) => t.set! x.toNat y) identity
    return .translate table (flags []) (flags (if squeeze then b else [])) none

/-- The octet as a reader can see it. -/
def spell (d : Display) (b : UInt8) : Octets :=
  let low (b : UInt8) : Octets :=
    if b == 127 then [94, 63] else if b < 32 then [94, b + 64] else [b]
  if b == 9 then if d.tabs then [94, 73] else [9]
  else if !d.spelled then [b]
  else if b < 128 then low b
  else [77, 45] ++ low (b - 128)

/-- The number in front of a line. -/
def lineNumber (n : Nat) : Octets :=
  let digits := toString n
  Octets.ofString (String.ofList (List.replicate (6 - digits.length) ' ') ++ digits ++ "\t")

/-- What the next octet is shown as. -/
def showOctet (d : Display) (b : UInt8) : Octets × Display :=
  let lineEnd : Octets := if d.ends then [36, 10] else [10]
  let number := lineNumber d.line
  match d.empty?, b == 10 with
  | none, true => (lineEnd, { d with empty? := some 0 })
  | none, false => (spell d b, d)
  | some n, true =>
    if d.squeezed && 0 < n then ([], d)
    else if d.counted == some true then
      (number ++ lineEnd, { d with line := d.line + 1, empty? := some (n + 1) })
    else (lineEnd, { d with empty? := some (n + 1) })
  | some _, false =>
    if d.counted.isSome then (number ++ spell d b, { d with line := d.line + 1, empty? := none })
    else (spell d b, { d with empty? := none })

/-- What octets become, and the state for those that follow. -/
def apply (t : Transform) (s : Octets) : Octets × Transform :=
  match t with
  | .same => (s, t)
  | .display d =>
    let (out, d) := s.foldl (fun (out, d) b =>
      let (shown, d) := showOctet d b
      (shown.reverse ++ out, d)) (([] : Octets), d)
    (out.reverse, .display d)
  | .translate table deleted squeezed last =>
    let (out, last) := s.foldl (fun (out, last) b =>
      if deleted.getD b.toNat false then (out, last)
      else
        let c := table.getD b.toNat b
        if some c == last && squeezed.getD c.toNat false then (out, last) else (c :: out, some c))
      (([] : Octets), last)
    (out.reverse, .translate table deleted squeezed last)

end Transform

/-- The beginning of octets that holds at most `n` lines, and how many lines are left. -/
def takeLines : Nat → Octets → Octets × Nat
  | n, [] => ([], n)
  | 0, _ => ([], 0)
  | n + 1, b :: rest =>
    if b == 10 then
      let (out, left) := takeLines n rest
      (b :: out, left)
    else
      let (out, left) := takeLines (n + 1) rest
      (b :: out, left)

/-- The lines of a text, each with its end; the last one may have none. -/
def linesOf : Octets → List Octets
  | [] => []
  | b :: rest =>
    if b == 10 then [b] :: linesOf rest
    else match linesOf rest with
      | [] => [[b]]
      | line :: lines => (b :: line) :: lines

namespace Copy

/-- Whether everything that is asked for has been copied. -/
def isFull (c : Copy) : Bool :=
  match c.extent with
  | .octets 0 | .lines 0 | .blocks (some 0) => true
  | _ => false

/-- How much the next read asks for. -/
def appetite (c : Copy) : Nat :=
  match c.extent with
  | .octets n => min n c.block
  | _ => c.block

def count (t : Tally) (block n : Nat) : Tally :=
  if n = 0 then t else if n = block then { t with full := t.full + 1 } else { t with part := t.part + 1 }

/-- The part of some octets that is copied, what is held back, and the extent that is left. -/
def choose (e : Extent) (held data : Octets) : Octets × Octets × Extent :=
  match e with
  | .all => (data, [], .all)
  | .octets n => (data.take n, [], .octets (n - data.length))
  | .lines n =>
    let (out, left) := takeLines n data
    (out, [], .lines left)
  | .allButOctets n =>
    let all := held ++ data
    (all.take (all.length - n), all.drop (all.length - n), e)
  | .allButLines n =>
    let all := linesOf (held ++ data)
    ((all.take (all.length - n)).flatten, (all.drop (all.length - n)).flatten, e)
  | .blocks n => (data, [], .blocks (n.map (· - 1)))

/-- Takes what was read. -/
def take (c : Copy) (data : Octets) : Copy :=
  if c.skipped ≠ 0 then { c with skipped := c.skipped - 1 }
  else
    let input := count c.input c.block data.length
    let (out, transform) := c.transform.apply (choose c.extent c.held data).1
    let (_, held, extent) := choose c.extent c.held data
    match c.outBlock with
    | none =>
      { c with
        waiting := out, held, transform, extent, input, output := count c.output c.block data.length }
    | some size =>
      let all := c.held ++ out
      let full := all.length / size
      let output := { c.output with full := c.output.full + full }
      { c with
        waiting := all.take (full * size), held := all.drop (full * size), transform, extent, input
        output }

/-- What follows a block of zeros that is thrown away unchanged. The block is counted, and not made. -/
def passZeros? (k : Kernel Program) (pid number : Nat) (c : Copy) : Option Copy :=
  let isAt (number : Nat) (f : OpenFile → Bool) : Bool :=
    (k.openFile? pid number).any fun (_, o) => f o
  match c.transform, c.extent, c.outBlock, c.skipped with
  | .same, .blocks n, none, 0 =>
    if isAt number (fun o => o.target == .zeros && o.readable)
        && isAt 1 (fun o => o.target == .null && o.writable) then
      some { c with
        waiting := [], held := [], extent := .blocks (n.map (· - 1))
        input := count c.input c.block c.block, output := count c.output c.block c.block }
    else none
  | _, _, _, _ => none

/-- To count a block of zeros is to take it and to have it written. -/
theorem passZeros?_eq {k : Kernel Program} {pid number : Nat} {c c' : Copy}
    (h : c.passZeros? k pid number = some c') :
    c' = { c.take (List.replicate c.block 0) with waiting := [] } := by
  unfold passZeros? at h
  dsimp only at h
  split at h
  case h_1 n same blocks direct unskipped =>
    split at h
    case isTrue =>
      cases h
      simp [take, choose, Transform.apply, same, blocks, direct, unskipped]
    case isFalse => cases h
  case h_2 => cases h

/-- What was gathered for an unfinished block goes out in the end. -/
def flush (c : Copy) : Copy :=
  if c.outBlock.isSome && !c.held.isEmpty then
    { c with waiting := c.held, held := [], output := { c.output with part := c.output.part + 1 } }
  else { c with ended := true }

/-- What is said in the end about the blocks. -/
def summaryText (c : Copy) : Octets :=
  let line (t : Tally) (way : String) : String :=
    toString t.full ++ "+" ++ toString t.part ++ " records " ++ way ++ "\n"
  Octets.ofString (line c.input "in" ++ line c.output "out")

/-- A complaint about something with a fault. -/
def complaint (c : Copy) (about : Octets) (f : Fault) : Octets :=
  let why := match f with
    | .os n => Fault.describe n
    | f => f.message
  Octets.ofString (c.title ++ ": ") ++ about ++ Octets.ofString (": " ++ why ++ "\n")

/-- The name of a source in a heading. -/
def heading (c : Copy) (source : Octets) : Octets :=
  if !c.headings then []
  else
    let name := if source == [45] then Octets.ofString "standard input" else source
    (if c.isFirst then [] else [10]) ++ Octets.ofString "==> " ++ name ++ Octets.ofString " <==\n"

/-- One step of copying in a process. -/
def step (k : Kernel Program) (pid : Nat) (c : Copy) : Kernel Program :=
  let goOn (k : Kernel Program) (c : Copy) : Kernel Program := k.setProgram pid (.copy c)
  let complain (k : Kernel Program) (c : Copy) (text : Octets) : Kernel Program :=
    goOn (k.write pid 2 text).2 { c with status := 1 }
  let around (words : String × String) (name : Octets) : Octets :=
    Octets.ofString words.1 ++ name ++ Octets.ofString words.2
  if !c.waiting.isEmpty then
    match k.write pid 1 c.waiting with
    | (.done n, k) => goOn k { c with waiting := c.waiting.drop n }
    | (.blocked w, k) => k.block pid w
    | (.fault f, k) =>
      if ((k.process? pid).map Process.hasEnded).getD true then k
      else
        let text := c.complaint (Octets.ofString c.wording.writing) f
        k.setProgram pid (.print [(2, text)] 1)
  else if c.ended then
    if c.summary then k.setProgram pid (.print [(2, c.summaryText)] c.status)
    else k.finish pid (.code c.status)
  else match c.reading with
    | none =>
      match c.sources with
      | [] => goOn k c.flush
      | source :: sources =>
        if c.isFull && c.renewed.isNone then goOn k c.flush
        else
          let next := { c with
            sources, held := if c.outBlock.isSome then c.held else []
            extent := c.renewed.getD c.extent }
          let entered := { next with isFirst := false, waiting := c.heading source }
          if source == [45] then goOn k { entered with reading := some (source, 0) }
          else match k.openPath pid source .read with
            | .error f => complain k next (next.complaint (around c.wording.opening source) f)
            | .ok (o, k) =>
              let number := ((k.process? pid).map fun p => p.freeNumber 3).getD 3
              goOn (k.install pid number o) { entered with reading := some (source, number) }
    | some (source, number) =>
      let leave (k : Kernel Program) : Kernel Program := if number = 0 then k else k.close pid number
      if c.isFull then goOn (leave k) { c with reading := none }
      else if let some c' := c.passZeros? k pid number then goOn (k.takeUp pid c.block) c'
      else match k.read pid number c.appetite with
        | (.blocked w, k) => k.block pid w
        | (.fault f, k) =>
          let c := { c with reading := none }
          complain (leave k) c (c.complaint (around c.wording.reading source) f)
        | (.done [], k) => goOn (leave k) { c with reading := none }
        | (.done data, k) => goOn (k.takeUp pid data.length) (c.take data)

end Copy

end PseudoTerminal.Host
