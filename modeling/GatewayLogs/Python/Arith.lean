import GatewayLogs.Python.Value

/-!
# Python arithmetic on the numbers of a log

The token totals are Python `sum`s of whatever `json.loads` left in the `usage` maps, then a
comparison, a true division and two multiplications.  An `int` is exact and unbounded; a `bool`
is an `int`; once a `float` takes part the `int` is converted first, which raises
`OverflowError` for an `int` too large for a double.  Anything that is not a number cannot be
added to the running total and raises `TypeError`.
-/

namespace GatewayLogs

/-- A Python number: an `int` or a `float`. -/
inductive PyNum where
  | int (z : Int)
  | float (x : PyFloat)
  deriving DecidableEq, Repr

namespace PyNum

/-- `OverflowError: int too large to convert to float`. -/
def tooLarge : PyExc := ⟨.overflowError, lit "int too large to convert to float"⟩

/-- `float(z)`, or the `OverflowError`. -/
def toFloat? : PyNum → Except PyExc PyFloat
  | int z => match PyFloat.ofInt? z with
    | some x => .ok x
    | none => .error tooLarge
  | float x => .ok x

/-- `a + b`. -/
def add : PyNum → PyNum → Except PyExc PyNum
  | int a, int b => .ok (int (a + b))
  | a, b => do return float ((← a.toFloat?).add (← b.toFloat?))

/-- `a * b`. -/
def mul : PyNum → PyNum → Except PyExc PyNum
  | int a, int b => .ok (int (a * b))
  | a, b => do return float ((← a.toFloat?).mul (← b.toFloat?))

/-- `a / b`: between two `int`s the exact quotient rounded once (`OverflowError` if it is too
large for a double), otherwise a float division after converting. -/
def trueDiv : PyNum → PyNum → Except PyExc PyNum
  | int a, int b =>
    if b = 0 then .error ⟨.zeroDivisionError, lit "division by zero"⟩
    else match PyFloat.ofRatio (decide (a < 0) != decide (b < 0)) (a.natAbs * PyFloat.unitScale)
        b.natAbs with
      | .inf _ => .error ⟨.overflowError, lit "integer division result too large for a float"⟩
      | x => .ok (float x)
  | a, b => do
    match (← a.toFloat?).div? (← b.toFloat?) with
    | some x => return float x
    | none => throw ⟨.zeroDivisionError, lit "float division by zero"⟩

/-- `bool(x)`. -/
def truthy : PyNum → Bool
  | int z => z ≠ 0
  | float x => !x.isZero

/-- `x > 0`. -/
def isPos : PyNum → Bool
  | int z => 0 < z
  | float x => x.isPos

/-- `type(x).__name__`. -/
def typeName : PyNum → String
  | int _ => "int"
  | float _ => "float"

end PyNum

/-- A value as a number: a `bool` is the `int` `0` or `1`. -/
def PyVal.num? : PyVal → Option PyNum
  | .bool b => some (.int (if b then 1 else 0))
  | .int z => some (.int z)
  | .float x => some (.float x)
  | _ => Option.none

/-- One step of `sum`: add a value to the running total, a `TypeError` unless it is a
number. -/
def sumStep (acc : PyNum) (v : PyVal) : Except PyExc PyNum :=
  match v.num? with
  | some x => acc.add x
  | none => .error ⟨.typeError, lit ("unsupported operand type(s) for +: '" ++ acc.typeName ++
      "' and '" ++ v.typeName ++ "'")⟩

end GatewayLogs
