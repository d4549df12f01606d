/-!
# The shortest decimal of a binary fraction

A finite 32-bit floating-point number is `m · 2^q`. Of the decimals that round to it, those with the
fewest digits are looked for, and of these the one closest to it is taken, of two equally close ones
the larger. The number rounds to itself from an interval that reaches half way to its neighbours,
ends included when `m` is even.
-/

namespace PhoneAudio

namespace Decimal

/-- A positive decimal `digits · 10^exponent`. -/
structure Scientific where
  digits : Nat
  exponent : Int
deriving DecidableEq, Inhabited

/-- The magnitude of a positive binary number `m · 2^q`, with its lower neighbour only half as far
away when `narrowBelow` is set. -/
structure Binary where
  m : Nat
  q : Int
  narrowBelow : Bool
deriving DecidableEq, Inhabited

namespace Binary

/-- The number behind the bits of a positive finite 32-bit float. -/
def ofBits (bits : Nat) : Binary :=
  let fraction : Nat := bits % 8388608
  let exponent : Nat := bits / 8388608 % 256
  if exponent = 0 then ⟨fraction, -149, false⟩
  else ⟨fraction + 8388608, (exponent : Int) - 150, fraction = 0 && exponent > 1⟩

/-- Both sides of a comparison between quarters of `2^q` and multiples of `10^e`, made whole. -/
def scales (q e : Int) : Nat × Nat :=
  (Nat.pow 2 (q - 2).toNat * Nat.pow 10 (-e).toNat,
    Nat.pow 10 e.toNat * Nat.pow 2 (2 - q).toNat)

/-- Whether `digits · 10^e` rounds to the number. -/
def roundsFrom (x : Binary) (digits : Nat) (e : Int) : Bool :=
  let (quarter, unit) := scales x.q e
  let low := (4 * x.m - if x.narrowBelow then 1 else 2) * quarter
  let high := (4 * x.m + 2) * quarter
  let value := digits * unit
  if x.m % 2 = 0 then low ≤ value && value ≤ high else low < value && value < high

/-- The two multiples of `10^e` around the number that are decimals for it, the closer one first. -/
def candidates (x : Binary) (e : Int) : List Nat :=
  let (quarter, unit) := scales x.q e
  let value := 4 * x.m * quarter
  let below := value / unit
  let order := if 2 * (value % unit) < unit then [below, below + 1] else [below + 1, below]
  order.filter fun digits => digits > 0 && x.roundsFrom digits e

/-- The first decimal found on finer and finer grids, starting at `10^e`. -/
def search (x : Binary) : Nat → Int → Scientific
  | 0, e => ⟨0, e⟩
  | fuel + 1, e =>
    match x.candidates e with
    | digits :: _ => ⟨digits, e⟩
    | [] => search x fuel (e - 1)

/-- The shortest decimal of the number. Every such number lies below `10^39`, and a grid as fine as
`10^-46` has a decimal for each. -/
def shortest (x : Binary) : Scientific :=
  x.search 90 40

end Binary

end Decimal

end PhoneAudio
