import PseudoTerminal.Text.Octets

/-! A first-in, first-out buffer of octets that knows how many it holds. Appending and removing cost no
more than the octets that are moved. -/

namespace PseudoTerminal

structure Buffer where
  front : Octets := []
  /-- What was appended since the front was last filled, most recent first. -/
  back : Octets := []
  count : Nat := 0
  deriving Repr, Inhabited

namespace Buffer

/-- The octets, oldest first. -/
def toList (b : Buffer) : Octets := b.front ++ b.back.reverse

def isEmpty (b : Buffer) : Bool := b.count == 0

def ofList (s : Octets) : Buffer := ⟨s, [], s.length⟩

/-- Appends octets. -/
def append (b : Buffer) (s : Octets) : Buffer :=
  { b with back := s.reverseAux b.back, count := b.count + s.length }

/-- Removes up to `n` octets and returns them. -/
def take (b : Buffer) (n : Nat) : Octets × Buffer :=
  let b := if b.back.isEmpty || n ≤ 0 then b else
    let (taken, _) := b.front.splitAt n
    if taken.length < n then { b with front := b.front ++ b.back.reverse, back := [] } else b
  let (taken, rest) := b.front.splitAt n
  (taken, { b with front := rest, count := b.count - taken.length })

/-- Keeps the oldest `n` octets. -/
def truncate (b : Buffer) (n : Nat) : Buffer := ofList (b.toList.take n)

@[simp] theorem toList_ofList (s : Octets) : (ofList s).toList = s := by simp [ofList, toList]

@[simp] theorem toList_append (b : Buffer) (s : Octets) : (b.append s).toList = b.toList ++ s := by
  simp [append, toList, List.reverseAux_eq]

end Buffer

end PseudoTerminal
