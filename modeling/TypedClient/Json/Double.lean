/-!
Double precision numbers in exact arithmetic: rounding a ratio to the nearest one, the decimal
with the fewest digits that reads back to it, and how that decimal is laid out.
-/

namespace TypedClient.Json

/-- The nonnegative double `mantissa · 2 ^ exponent`. -/
structure Double where
  mantissa : Nat
  exponent : Int
  deriving DecidableEq, Repr

namespace Double

/-- The quotient rounded to the nearest whole number, a tie to the even one. -/
def roundQuotient (num den : Nat) : Nat :=
  let q := num / den
  let r := 2 * (num % den)
  if r < den ∨ (r = den ∧ q % 2 = 0) then q else q + 1

/-- The smallest exponent of a double. -/
def leastExponent : Int := -1074

/-- `num · 2 ^ (-e)` over `den`, as a pair of whole numbers. -/
def shifted (num den : Nat) (e : Int) : Nat × Nat :=
  if e ≥ 0 then (num, den * Nat.pow 2 e.toNat) else (num * Nat.pow 2 (-e).toNat, den)

/-- The double nearest to `num / den`, a tie to the even mantissa; none if that is beyond the
largest double. -/
def ofRatio (num den : Nat) : Option Double :=
  if num = 0 ∨ den = 0 then some ⟨0, leastExponent⟩
  else
    let guess : Int := (Nat.log2 num : Int) - (Nat.log2 den : Int) - 52
    let (n, d) := shifted num den guess
    let e := max (if n / d < Nat.pow 2 52 then guess - 1 else guess) leastExponent
    let (n, d) := shifted num den e
    let m := roundQuotient n d
    let (m, e) := if m = Nat.pow 2 53 then (Nat.pow 2 52, e + 1) else (m, e)
    if e > 971 then none else some ⟨m, e⟩

/-- The value as a ratio. -/
def ratio (d : Double) : Nat × Nat :=
  if d.exponent ≥ 0 then (d.mantissa * Nat.pow 2 d.exponent.toNat, 1)
  else (d.mantissa, Nat.pow 2 (-d.exponent).toNat)

/-- The product, rounded. -/
def mul (a b : Double) : Option Double :=
  ofRatio (a.ratio.1 * b.ratio.1) (a.ratio.2 * b.ratio.2)

/-- The quotient, rounded. -/
def div (a b : Double) : Option Double :=
  ofRatio (a.ratio.1 * b.ratio.2) (a.ratio.2 * b.ratio.1)

/-- The largest power of ten that is a double. -/
def largestPower : Nat := 308

/-- The double nearest to `10 ^ n`, for `n` up to the largest power. -/
def powTen (n : Nat) : Option Double :=
  ofRatio (Nat.pow 10 n) 1

/-- Divides by the largest power of ten, `count` times or until nothing is left. -/
def divLargest : Nat → Double → Option Double
  | 0, d => some d
  | count + 1, d =>
    if d.mantissa = 0 then some d
    else ((powTen largestPower).bind (d.div ·)).bind (divLargest count)

/-- Divides by `10 ^ n`, in steps of at most the largest power, each of them rounded. -/
def divPowTen (d : Double) (n : Nat) : Option Double :=
  let steps := (n - 1) / largestPower
  (divLargest steps d).bind fun d => (powTen (n - steps * largestPower)).bind (d.div ·)

/-- The double that `significand · 10 ^ exponent` is read as: the significand is rounded, then
the product or quotient with the power of ten. None if it is out of range. -/
def ofDecimal (significand : Nat) (exponent : Int) : Option Double :=
  (ofRatio significand 1).bind fun d =>
    if exponent < 0 then d.divPowTen (-exponent).toNat
    else if exponent ≤ largestPower then (powTen exponent.toNat).bind (d.mul ·)
    else if d.mantissa = 0 then some d
    else none

/-- The ends of the interval of reals that round to this double, and whether they belong to it.
Below a power of two the neighbour is half as far. All three are scaled by the denominator. -/
structure Interval where
  low : Nat
  value : Nat
  high : Nat
  scale : Nat
  closed : Bool

/-- The rounding interval of a double. -/
def interval (d : Double) : Interval :=
  let four : Double := ⟨4 * d.mantissa, d.exponent - 2⟩
  let unit := (Double.mk 1 (d.exponent - 2)).ratio.1
  let (v, s) := four.ratio
  let below := if d.mantissa = Nat.pow 2 52 ∧ d.exponent > leastExponent then unit else 2 * unit
  ⟨v - below, v, v + 2 * unit, s, d.mantissa % 2 = 0⟩

/-- Whether the decimal `n · 10 ^ k` lies in the interval. -/
def Interval.holds (i : Interval) (n : Nat) (k : Int) : Bool :=
  let (a, s) := if k ≥ 0 then (n * Nat.pow 10 k.toNat, 1) else (n, Nat.pow 10 (-k).toNat)
  let (low, mid, high) := (i.low * s, a * i.scale, i.high * s)
  if i.closed then low ≤ mid && mid ≤ high else low < mid && mid < high

/-- The multiple of `10 ^ k` below or at the value, and whether the next one is nearer to it. -/
def Interval.grid (i : Interval) (k : Int) : Nat × Bool :=
  let (v, s) := if k ≥ 0 then (i.value, i.scale * Nat.pow 10 k.toNat)
    else (i.value * Nat.pow 10 (-k).toNat, i.scale)
  let q := v / s
  let r := 2 * (v % s)
  (q, r > s || (r = s && q % 2 = 1))

/-- The largest `k` with `10 ^ k` at most the value, searched downwards from `k`. -/
def Interval.magnitude (i : Interval) : Nat → Int → Int
  | 0, k => k
  | n + 1, k => if (i.grid k).1 = 0 then magnitude i n (k - 1) else k

/-- The decimal with the fewest digits in the interval, and of those the nearest: whole number
and power of ten. `count` more digit counts are tried, beginning with the grid `10 ^ k`. -/
def Interval.shortest (i : Interval) : Nat → Int → Nat × Int
  | 0, k => ((i.grid k).1, k)
  | count + 1, k =>
    let (q, up) := i.grid k
    let (near, far) := if up then (q + 1, q) else (q, q + 1)
    if i.holds near k then (near, k)
    else if i.holds far k then (far, k)
    else shortest i count (k - 1)

/-- Drops the zeros at the end of a whole number, raising the power of ten. -/
def stripZeros : Nat → Nat × Int → Nat × Int
  | 0, d => d
  | fuel + 1, (n, k) => if n ≠ 0 ∧ n % 10 = 0 then stripZeros fuel (n / 10, k + 1) else (n, k)

/-- Lays out `digits · 10 ^ k`: positional from `1e-5` up to below `1e16`, with a digit behind
the point at least; otherwise one digit before the point and a signed exponent. -/
def layOut (n : Nat) (k : Int) : String :=
  let digits := (toString n).toList
  let point : Int := digits.length + k
  if 0 ≤ k ∧ point ≤ 16 then
    String.ofList (digits ++ List.replicate k.toNat '0') ++ ".0"
  else if 0 < point ∧ point ≤ 16 then
    String.ofList (digits.take point.toNat ++ '.' :: digits.drop point.toNat)
  else if -5 < point ∧ point ≤ 0 then
    "0." ++ String.ofList (List.replicate (-point).toNat '0' ++ digits)
  else
    let fraction := if digits.length ≤ 1 then [] else '.' :: digits.drop 1
    let power := point - 1
    String.ofList (digits.take 1 ++ fraction) ++ (if power < 0 then "e-" else "e+")
      ++ toString power.natAbs

/-- The shortest text that reads back to the double. -/
def text (d : Double) : String :=
  if d.mantissa = 0 then "0.0"
  else
    let i := d.interval
    let top := i.magnitude 700 310
    let (n, k) := stripZeros 20 (i.shortest 17 top)
    layOut n k

end Double

end TypedClient.Json
