import Mathlib.Data.Int.Defs
import Mathlib.Algebra.Group.Nat.Basic

/-!
# Python `float`: IEEE 754 binary64

`json.loads` turns every number with a fraction or an exponent into a `float`, and the scripts
then test such values for truth (`if not request_id`), use them as dictionary keys, and add them
up in the token totals.  All three depend on the exact binary64 value, so a `float` here is a
binary64 value and not the decimal it was written as: `1e-400` is a false zero, `1e400` is
infinite, and `1e308 + 1e308` overflows.

A finite value is kept as its sign and its **index** `n` among the non-negative doubles in
increasing order (the low 63 bits of its bit pattern).  Every finite double is an integer number
of `2 ^ -1074` units (`units n`), so rounding is integer arithmetic:

* `roundIndex a b` — the index of the double nearest to `a / b` units, ties to even.
* `ofRatio` — rounding with overflow to infinity; `ofDecimal` is a JSON literal, `ofInt?` is
  `float(int)` with its `OverflowError`.
* `add`, `mul`, `div?` — the IEEE operations Python's `+`, `*` and `/` perform on floats.
* `repr` — the shortest decimal that rounds back, laid out as `float.__repr__` does; `json.dumps`
  writes floats with it.
-/

namespace GatewayLogs

/-- The index of `+∞` among the non-negative doubles: finite magnitudes lie below it. -/
def infIndex : Nat := 0x7FF0000000000000

/-- A Python `float`. -/
inductive PyFloat where
  | nan
  | inf (neg : Bool)
  | fin (neg : Bool) (n : Fin infIndex)
  deriving DecidableEq, Repr

namespace PyFloat

/-! Powers of two are written as shifts and powers of ten by repeated multiplication, so that
the model also evaluates during elaboration (`decide`), where `^` stops at exponent 256. -/

/-- `2 ^ 1074`: one unit is the least positive double. -/
def unitScale : Nat := 1 <<< 1074

/-- `10 ^ e`. -/
def tenPow : Nat → Nat
  | 0 => 1
  | e + 1 => tenPow e * 10

/-- `⌊log2 n⌋` (and `0` for `n ≤ 1`): sixty-four bits at a time, then bit by bit. -/
def floorLog2 (n : Nat) : Nat := chunks n n 0
where
  /-- Strip 64-bit chunks while more than 64 bits remain; `fuel = n` always suffices. -/
  chunks : Nat → Nat → Nat → Nat
    | 0, m, acc => acc + bits 64 m
    | fuel + 1, m, acc =>
      if m >>> 64 = 0 then acc + bits 64 m else chunks fuel (m >>> 64) (acc + 64)
  /-- `⌊log2 m⌋` for `m < 2 ^ 64`. -/
  bits : Nat → Nat → Nat
    | 0, _ => 0
    | fuel + 1, m => if m ≤ 1 then 0 else bits fuel (m >>> 1) + 1

/-- The magnitude of the double with index `n`, in units of `2 ^ -1074`: subnormals are the
indices below `2 ^ 52`, and each further block of `2 ^ 52` doubles the spacing. -/
def units (n : Nat) : Nat :=
  if n < 2 ^ 52 then n else (2 ^ 52 + n % 2 ^ 52) <<< (n / 2 ^ 52 - 1)

/-- `a / b` rounded to the nearest natural number, ties to even. -/
def rne (a b : Nat) : Nat :=
  if 2 * (a % b) < b then a / b
  else if b < 2 * (a % b) then a / b + 1
  else if a / b % 2 = 0 then a / b else a / b + 1

/-- **Round to nearest, ties to even.**  The index of the double nearest to `a / b` units.
Below `2 ^ 52` units the spacing is one unit; above, the quotient is scaled to a 53-bit
mantissa first.  A mantissa that rounds up to `2 ^ 53` carries into the next binade by the
same formula. -/
def roundIndex (a b : Nat) : Nat :=
  if a / b < 2 ^ 52 then rne a b
  else (floorLog2 (a / b) - 51) * 2 ^ 52 + (rne a (b <<< (floorLog2 (a / b) - 52)) - 2 ^ 52)

/-- The float nearest to `±a / b` units; beyond the largest finite double it is infinite. -/
def ofRatio (neg : Bool) (a b : Nat) : PyFloat :=
  if h : roundIndex a b < infIndex then fin neg ⟨roundIndex a b, h⟩ else inf neg

/-- The float a JSON literal denotes: `±digits * 10 ^ exp`, correctly rounded. -/
def ofDecimal (neg : Bool) (digits : Nat) (exp : Int) : PyFloat :=
  ofRatio neg (digits * tenPow exp.toNat * unitScale) (tenPow (-exp).toNat)

/-- `float(z)`: `None` where CPython raises `OverflowError: int too large to convert to float`. -/
def ofInt? (z : Int) : Option PyFloat :=
  match ofRatio (decide (z < 0)) (z.natAbs * unitScale) 1 with
  | inf _ => none
  | x => some x

/-- A float is false exactly when it is a zero of either sign; `nan` is true. -/
def isZero : PyFloat → Bool
  | fin _ n => n.val = 0
  | _ => false

/-- `x > 0`. -/
def isPos : PyFloat → Bool
  | fin neg n => !neg && n.val ≠ 0
  | inf neg => !neg
  | nan => false

/-- The signed value of a finite double, in units. -/
def signedUnits (neg : Bool) (n : Nat) : Int := if neg then -(units n : Int) else units n

/-- The integer a finite double equals, when it is one: integral floats and the equal ints are
one dictionary key in Python. -/
def toInt? : PyFloat → Option Int
  | fin neg n =>
    if units n % unitScale = 0 then some (signedUnits neg n / unitScale) else none
  | _ => none

/-- IEEE addition.  An exact zero sum is `+0.0` unless both operands are `-0.0`. -/
def add : PyFloat → PyFloat → PyFloat
  | nan, _ => nan
  | _, nan => nan
  | inf a, inf b => if a = b then inf a else nan
  | inf a, fin _ _ => inf a
  | fin _ _, inf b => inf b
  | fin a m, fin b n =>
    let s := signedUnits a m + signedUnits b n
    if s = 0 then fin (a && b) ⟨0, by decide⟩ else ofRatio (decide (s < 0)) s.natAbs 1

/-- IEEE multiplication. -/
def mul : PyFloat → PyFloat → PyFloat
  | nan, _ => nan
  | _, nan => nan
  | inf a, inf b => inf (a != b)
  | inf a, fin b n => if n.val = 0 then nan else inf (a != b)
  | fin a m, inf b => if m.val = 0 then nan else inf (a != b)
  | fin a m, fin b n => ofRatio (a != b) (units m * units n) unitScale

/-- Python's float division: `none` for a zero divisor (`ZeroDivisionError`, checked before
anything else), IEEE otherwise. -/
def div? (x y : PyFloat) : Option PyFloat :=
  if y.isZero then none else some <|
    match x, y with
    | nan, _ => nan
    | _, nan => nan
    | inf _, inf _ => nan
    | inf a, fin b _ => inf (a != b)
    | fin a _, inf b => fin (a != b) ⟨0, by decide⟩
    | fin a m, fin b n => ofRatio (a != b) (units m * unitScale) (units n)

/-! ## `float.__repr__`

The shortest digit string that rounds back to the same double, and among those the nearest
(David Gay's mode 0, which CPython uses).  At each length only the two neighbours of the exact
value can qualify, since the rounding interval is convex and contains it.
-/

/-- `⌊log10 (u · 2 ^ -1074)⌋` for `u > 0` units. -/
def decExponent (u : Nat) : Int :=
  if unitScale ≤ u then ((Nat.toDigits 10 (u / unitScale)).length : Int) - 1
  else -(go 330 1)
where
  /-- The least `j ≥ start` with `u · 10 ^ j ≥ 2 ^ 1074`. -/
  go : Nat → Nat → Nat
    | 0, j => j
    | fuel + 1, j => if unitScale ≤ u * tenPow j then j else go fuel (j + 1)

/-- The shortest decimal `(D, e)`, value `D · 10 ^ e`, that rounds back to the double with
index `n`, nearest first and ties to an even `D`. -/
def shortestDecimal (n : Nat) : Nat × Int :=
  let u := units n
  let k := decExponent u
  let back (d : Nat) (e : Int) :=
    roundIndex (d * tenPow e.toNat * unitScale) (tenPow (-e).toNat) = n
  let at_ (p : Nat) : Option (Nat × Int) :=
    let e := k - p + 1
    let num := u * tenPow (-e).toNat
    let den := unitScale * tenPow e.toNat
    let lo := num / den
    if 0 < lo ∧ back lo e ∧ back (lo + 1) e then some (rne num den, e)
    else if 0 < lo ∧ back lo e then some (lo, e)
    else if back (lo + 1) e then some (lo + 1, e)
    else none
  let (d, e) := ((List.range 17).findSome? fun i => at_ (i + 1)).getD (0, 0)
  stripZeros 17 d e
where
  /-- Drop trailing decimal zeros of `d` into the exponent. -/
  stripZeros : Nat → Nat → Int → Nat × Int
    | 0, d, e => (d, e)
    | fuel + 1, d, e => if 0 < d ∧ d % 10 = 0 then stripZeros fuel (d / 10) (e + 1) else (d, e)

/-- Lay out the digits `ds` with the decimal point after `decpt` of them, as `repr` does:
fixed notation for `-4 < decpt ≤ 16` (with `.0` when there is no fraction), `1.5e+16` style
with a two-digit exponent otherwise. -/
def layout (ds : List Char) (decpt : Int) : List Char :=
  if decpt ≤ -4 ∨ 16 < decpt then
    let x := decpt - 1
    let xs := Nat.toDigits 10 x.natAbs
    ds.take 1 ++ (if ds.length ≤ 1 then [] else '.' :: ds.drop 1) ++
      'e' :: (if x < 0 then '-' else '+') :: (if xs.length < 2 then '0' :: xs else xs)
  else if decpt ≤ 0 then '0' :: '.' :: List.replicate (-decpt).toNat '0' ++ ds
  else if ds.length ≤ decpt.toNat then
    ds ++ List.replicate (decpt.toNat - ds.length) '0' ++ ['.', '0']
  else ds.take decpt.toNat ++ '.' :: ds.drop decpt.toNat

/-- `repr(x)` for a finite float with sign `neg` and index `n`. -/
def reprFinite (neg : Bool) (n : Nat) : List Char :=
  (if neg then ['-'] else []) ++
    if n = 0 then ['0', '.', '0'] else
      let (d, e) := shortestDecimal n
      let ds := Nat.toDigits 10 d
      layout ds (e + ds.length)

end PyFloat

end GatewayLogs
