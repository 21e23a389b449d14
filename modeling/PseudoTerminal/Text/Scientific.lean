import PseudoTerminal.Text.Octets

/-! Numbers of decimal digits with a power of ten, and the ways to write them: with a fixed number of
places, with one digit before the point, or whichever of the two is shorter. A half goes to the even
neighbour. -/

namespace PseudoTerminal

/-- The number `digits × 10 ^ exponent`, or its negative. -/
structure Scientific where
  negative : Bool := false
  digits : Nat
  exponent : Int := 0
  deriving DecidableEq, Repr, Inhabited

namespace Scientific

/-! ### Rounding -/

/-- The integer nearest to a quotient. -/
def nearest (n d : Nat) : Nat :=
  let q := n / d
  let r := 2 * (n % d)
  if r < d then q else if d < r then q + 1 else if q % 2 = 0 then q else q + 1

/-- The integer nearest to the number times a power of ten. -/
def scaled (x : Scientific) (power : Int) : Nat :=
  let e := x.exponent + power
  if 0 ≤ e then x.digits * Nat.pow 10 e.toNat else nearest x.digits (Nat.pow 10 (-e).toNat)

def decimals (n : Nat) : Octets := Octets.ofNat n

/-- The power of ten of the first digit; that of zero is zero. -/
def magnitude (x : Scientific) : Int :=
  if x.digits = 0 then 0 else x.exponent + (decimals x.digits).length - 1

/-! ### Writing -/

/-- Octets with a point before the last `places` of them, which are filled up with zeros. -/
def withPoint (n places : Nat) (keepPoint : Bool) : Octets :=
  let ds := decimals n
  let ds := List.replicate (places + 1 - ds.length) 48 ++ ds
  let (whole, fraction) := ds.splitAt (ds.length - places)
  if fraction.isEmpty && !keepPoint then whole else whole ++ 46 :: fraction

/-- The number without its sign, with so many places behind the point. -/
def fixed (x : Scientific) (places : Nat) (keepPoint : Bool := false) : Octets :=
  withPoint (x.scaled places) places keepPoint

/-- The digits of the number rounded to `places` behind the first, and the power of ten of that one. -/
def rounded (x : Scientific) (places : Nat) : Nat × Int :=
  let m := x.magnitude
  let n := x.scaled (places - m)
  if Nat.pow 10 (places + 1) ≤ n then (n / 10, m + 1) else (n, m)

/-- The power of ten as it is written behind the digits. -/
def power (letter : UInt8) (m : Int) : Octets :=
  let ds := decimals m.natAbs
  letter :: (if m < 0 then 45 else 43) :: (List.replicate (2 - ds.length) 48 ++ ds)

/-- The number without its sign, with one digit before the point and so many places behind it. -/
def exponential (x : Scientific) (places : Nat) (letter : UInt8) (keepPoint : Bool := false) : Octets :=
  let (n, m) := x.rounded places
  withPoint n places keepPoint ++ power letter m

/-- Octets without the zeros at their end behind a point, and without a point that ends them. -/
def trimmed (s : Octets) : Octets :=
  if s.contains 46 then
    let s := (s.reverse.dropWhile (· == 48)).reverse
    if s.getLast? == some 46 then s.dropLast else s
  else s

/-- The number without its sign, with so many significant digits, in the shorter of the two ways. -/
def general (x : Scientific) (significant : Nat) (letter : UInt8) (full : Bool := false) : Octets :=
  let p := max significant 1
  let (n, m) := x.rounded (p - 1)
  if -4 ≤ m && m < p then
    let s := x.fixed ((p : Int) - 1 - m).toNat full
    if full then s else trimmed s
  else
    let s := withPoint n (p - 1) full
    (if full then s else trimmed s) ++ power letter m

/-! ### Reading -/

def isDigit (b : UInt8) : Bool := 48 ≤ b && b ≤ 57

/-- The number at the front of octets, without a sign, and what follows it. -/
def read? (s : Octets) : Option (Scientific × Octets) :=
  let whole := s.takeWhile isDigit
  let rest := s.drop whole.length
  let (fraction, rest) := match rest with
    | 46 :: more =>
      let fraction := more.takeWhile isDigit
      (fraction, more.drop fraction.length)
    | rest => ([], rest)
  if whole.isEmpty && fraction.isEmpty then none
  else
    let digits := (Octets.decimal? (whole ++ fraction)).getD 0
    let (e, rest) : Int × Octets := match rest with
      | b :: more =>
        let (negative, more) := match more with
          | 45 :: more => (true, more)
          | 43 :: more => (false, more)
          | more => (false, more)
        let ds := more.takeWhile isDigit
        match b == 101 || b == 69, Octets.decimal? ds with
        | true, some n => (if negative then -(n : Int) else n, more.drop ds.length)
        | _, _ => (0, rest)
      | [] => (0, [])
    some ({ digits, exponent := e - fraction.length }, rest)

end Scientific

end PseudoTerminal
