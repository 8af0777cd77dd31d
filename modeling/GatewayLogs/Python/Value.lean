import GatewayLogs.Python.Float
import GatewayLogs.Python.Str

/-!
# Python values, exceptions and the dictionary protocol

Everything the scripts read comes out of `json.loads`: `None`, `bool`, `int`, `float`, `str`,
`list` and `dict`.  `PyVal` is that universe.  A `dict` keeps its key objects in insertion
order; two keys are the same key when Python's `==` says so, which `PyVal.key?` captures by
mapping each hashable value to a `PyKey` (`True`, `1` and `1.0` are one key).  Writing to an
existing key keeps the key object it was first given (`dictKeyObject`).

The operations the scripts apply to such values are here with the exceptions they raise:
`get` (`d.get(k, default)`), `getItem` (`v[k]`), `contains` (`k in v`), `iter` (`for x in v`),
`concat` (`s + t`) and `dictUpdate` (`d.update(other)`, which keeps what it set before failing).
Each exception carries its class, which is what an `except` clause tests, and `str(e)`, which is
what `analyze_conversations` stores as `parse_error`.

The interpreter is CPython 3.11 with its default limits: an `int` converted from or to decimal
text has at most `maxStrDigits` digits, and at most `recursionLimit` frames and recursive C calls
are open at once.
-/

namespace GatewayLogs

/-- A Python value of the kinds `json.loads` builds. -/
inductive PyVal where
  | none
  | bool (b : Bool)
  | int (z : Int)
  | float (x : PyFloat)
  | str (s : PyStr)
  | list (xs : List PyVal)
  | dict (kvs : List (PyVal × PyVal))
  deriving Repr

namespace PyVal

/-! ## Structural equality -/

mutual
/-- Structural equality, by recursion through lists and dicts. -/
def beq : PyVal → PyVal → Bool
  | none, none => true
  | bool a, bool b => a == b
  | int a, int b => a == b
  | float a, float b => a == b
  | str a, str b => a == b
  | list a, list b => beqList a b
  | dict a, dict b => beqDict a b
  | _, _ => false
/-- `beq` on lists of values. -/
def beqList : List PyVal → List PyVal → Bool
  | [], [] => true
  | a :: as, b :: bs => beq a b && beqList as bs
  | _, _ => false
/-- `beq` on the entries of a dict. -/
def beqDict : List (PyVal × PyVal) → List (PyVal × PyVal) → Bool
  | [], [] => true
  | (k, v) :: as, (k', v') :: bs => beq k k' && beq v v' && beqDict as bs
  | _, _ => false
end

mutual
lemma beq_iff : ∀ a b : PyVal, beq a b = true ↔ a = b
  | none, b => by
    cases b <;> first
      | exact iff_of_true rfl rfl
      | exact iff_of_false Bool.false_ne_true fun h => PyVal.noConfusion h
  | bool x, b => by
    cases b <;> first
      | exact (beq_iff_eq (a := x)).trans (bool.injEq x _).symm.to_iff
      | exact iff_of_false Bool.false_ne_true fun h => PyVal.noConfusion h
  | int x, b => by
    cases b <;> first
      | exact beq_iff_eq.trans (int.injEq x _).symm.to_iff
      | exact iff_of_false Bool.false_ne_true fun h => PyVal.noConfusion h
  | float x, b => by
    cases b <;> first
      | exact beq_iff_eq.trans (float.injEq x _).symm.to_iff
      | exact iff_of_false Bool.false_ne_true fun h => PyVal.noConfusion h
  | str x, b => by
    cases b <;> first
      | exact beq_iff_eq.trans (str.injEq x _).symm.to_iff
      | exact iff_of_false Bool.false_ne_true fun h => PyVal.noConfusion h
  | list x, b => by
    cases b <;> first
      | exact (beqList_iff x _).trans (list.injEq x _).symm.to_iff
      | exact iff_of_false Bool.false_ne_true fun h => PyVal.noConfusion h
  | dict x, b => by
    cases b <;> first
      | exact (beqDict_iff x _).trans (dict.injEq x _).symm.to_iff
      | exact iff_of_false Bool.false_ne_true fun h => PyVal.noConfusion h
lemma beqList_iff : ∀ a b : List PyVal, beqList a b = true ↔ a = b
  | [], [] => iff_of_true rfl rfl
  | [], _ :: _ => iff_of_false Bool.false_ne_true fun h => List.noConfusion h
  | _ :: _, [] => iff_of_false Bool.false_ne_true fun h => List.noConfusion h
  | x :: xs, y :: ys => by
    show (beq x y && beqList xs ys) = true ↔ _
    rw [Bool.and_eq_true, beq_iff x, beqList_iff xs, List.cons.injEq]
lemma beqDict_iff : ∀ a b : List (PyVal × PyVal), beqDict a b = true ↔ a = b
  | [], [] => iff_of_true rfl rfl
  | [], _ :: _ => iff_of_false Bool.false_ne_true fun h => List.noConfusion h
  | _ :: _, [] => iff_of_false Bool.false_ne_true fun h => List.noConfusion h
  | (k, v) :: xs, (k', v') :: ys => by
    show (beq k k' && beq v v' && beqDict xs ys) = true ↔ _
    rw [Bool.and_eq_true, Bool.and_eq_true, beq_iff k, beq_iff v, beqDict_iff xs, List.cons.injEq,
      Prod.mk.injEq]
end

instance : DecidableEq PyVal := fun a b => decidable_of_iff _ (beq_iff a b)

end PyVal

/-! ## Keys, truth and type names -/

/-- A hashable value as a dictionary key.  Numbers are keyed by value, so `True`, `1` and `1.0`
meet at `int 1`; a non-integral float is keyed by its sign and index.  All `NaN`s that
`json.loads` produces are one object (the decoder's `NaN` constant), hence one key. -/
inductive PyKey where
  | none
  | int (z : Int)
  | float (neg : Bool) (n : Nat)
  | inf (neg : Bool)
  | nan
  | str (s : PyStr)
  deriving DecidableEq, Repr

namespace PyVal

/-- The key a value is in a dictionary, or `none` when it is unhashable (`list`, `dict`). -/
def key? : PyVal → Option PyKey
  | none => some .none
  | bool b => some (.int (if b then 1 else 0))
  | int z => some (.int z)
  | float .nan => some .nan
  | float (.inf neg) => some (.inf neg)
  | float (.fin neg n) =>
    match (PyFloat.fin neg n).toInt? with
    | some z => some (.int z)
    | Option.none => some (.float neg n.val)
  | str s => some (.str s)
  | list _ => Option.none
  | dict _ => Option.none

/-- `bool(v)`: `None`, `False`, zeros and empty containers are false. -/
def truthy : PyVal → Bool
  | none => false
  | bool b => b
  | int z => z ≠ 0
  | float x => !x.isZero
  | str s => !s.isEmpty
  | list xs => !xs.isEmpty
  | dict kvs => !kvs.isEmpty

/-- `type(v).__name__`. -/
def typeName : PyVal → String
  | none => "NoneType"
  | bool _ => "bool"
  | int _ => "int"
  | float _ => "float"
  | str _ => "str"
  | list _ => "list"
  | dict _ => "dict"

/-- `isinstance(v, dict)`. -/
def isDict : PyVal → Bool
  | dict _ => true
  | _ => false

end PyVal

/-- A string value. -/
def strVal (s : String) : PyVal := .str (lit s)

/-- A dict with string keys, in the given order. -/
def obj (kvs : List (String × PyVal)) : PyVal := .dict (kvs.map fun kv => (strVal kv.1, kv.2))

/-! ## Exceptions -/

/-- `sys.get_int_max_str_digits()`: an `int` converted from or to decimal text may have at most
this many digits, or the conversion raises `ValueError`. -/
def maxStrDigits : Nat := 4300

/-- Whether `str(z)` is within the digit limit: `|z|` has at most `maxStrDigits` decimal
digits. -/
def intFitsStr (z : Int) : Bool := (Nat.toDigits 10 z.natAbs).length ≤ maxStrDigits

/-- `sys.getrecursionlimit()`: the Python frames and the recursive C calls that may be open at
once. -/
def recursionLimit : Nat := 1000

/-- The classes an `except` clause of the scripts can name, and the others that reach one. -/
inductive ExcClass
  | jsonDecodeError
  | keyError
  | typeError
  | attributeError
  | valueError
  | overflowError
  | zeroDivisionError
  | recursionError
  | unicodeEncodeError
  deriving DecidableEq, Repr

/-- A raised exception: its class and `str(e)`. -/
structure PyExc where
  cls : ExcClass
  msg : PyStr
  deriving DecidableEq, Repr

/-- Results of Python code are compared in statements and in tests. -/
instance instDecidableEqExcept {ε α : Type} [DecidableEq ε] [DecidableEq α] :
    DecidableEq (Except ε α)
  | .error a, .error b =>
    if h : a = b then isTrue (h ▸ rfl) else isFalse fun e => h (by injection e)
  | .ok a, .ok b => if h : a = b then isTrue (h ▸ rfl) else isFalse fun e => h (by injection e)
  | .error _, .ok _ => isFalse nofun
  | .ok _, .error _ => isFalse nofun

namespace PyExc

/-- `AttributeError: 'int' object has no attribute 'get'`. -/
def noAttr (v : PyVal) (attr : String) : PyExc :=
  ⟨.attributeError, lit ("'" ++ v.typeName ++ "' object has no attribute '" ++ attr ++ "'")⟩

/-- `TypeError: unhashable type: 'list'`. -/
def unhashable (v : PyVal) : PyExc :=
  ⟨.typeError, lit ("unhashable type: '" ++ v.typeName ++ "'")⟩

/-- `TypeError: 'int' object is not iterable`. -/
def notIterable (v : PyVal) : PyExc :=
  ⟨.typeError, lit ("'" ++ v.typeName ++ "' object is not iterable")⟩

/-- `KeyError(k)` for a string key `k`: `str(e)` is the key's repr. -/
def keyError (k : String) : PyExc := ⟨.keyError, lit ("'" ++ k ++ "'")⟩

/-- `int(text)` of a decimal text of `n` digits, past the limit. -/
def intFromStrLimit (n : Nat) : PyExc :=
  ⟨.valueError, lit ("Exceeds the limit (" ++ toString maxStrDigits ++
    " digits) for integer string conversion: value has " ++ toString n ++
    " digits; use sys.set_int_max_str_digits() to increase the limit")⟩

/-- `str(z)` of an `int` past the limit. -/
def intToStrLimit : PyExc :=
  ⟨.valueError, lit ("Exceeds the limit (" ++ toString maxStrDigits ++
    " digits) for integer string conversion; " ++
    "use sys.set_int_max_str_digits() to increase the limit")⟩

end PyExc

/-! ## The dictionary protocol -/

/-- The value stored under the key `k`. -/
def dictGet? (kvs : List (PyVal × PyVal)) (k : PyKey) : Option PyVal :=
  (kvs.find? fun kv => kv.1.key? = some k).map Prod.snd

/-- `d[k] = v` for a hashable `k`: an equal key keeps its place and its key object, a new key
goes to the end. -/
def dictSet (kvs : List (PyVal × PyVal)) (k v : PyVal) : List (PyVal × PyVal) :=
  if kvs.any (fun kv => kv.1.key? = k.key?) then
    kvs.map fun kv => if kv.1.key? = k.key? then (kv.1, v) else kv
  else kvs ++ [(k, v)]

/-- The key object a dict keeps for the key `k`, given the keys it was written with, in order:
the first of them equal to `k` (`None` if there is none). -/
def dictKeyObject (written : List PyVal) (k : PyKey) : PyVal :=
  (written.find? fun v => v.key? = some k).getD .none

/-- A key object is hashable. -/
lemma dictKeyObject_hashable (written : List PyVal) (k : PyKey) :
    (dictKeyObject written k).key?.isSome = true := by
  unfold dictKeyObject
  cases h : written.find? fun v => v.key? = some k with
  | none => rfl
  | some v =>
    have hv : v.key? = some k := by simpa using List.find?_some h
    simp [hv]

namespace PyVal

/-- The entries of `v`, for a call of the dict method `method` on it: anything but a dict has
no such attribute. -/
def entries? (v : PyVal) (method : String) : Except PyExc (List (PyVal × PyVal)) :=
  match v with
  | dict kvs => .ok kvs
  | _ => .error (.noAttr v method)

/-- `v.get(k, default)` for a string key. -/
def get (v : PyVal) (k : PyStr) (default : PyVal) : Except PyExc PyVal :=
  (v.entries? "get").map fun kvs => (dictGet? kvs (.str k)).getD default

@[simp] lemma entries?_dict (kvs : List (PyVal × PyVal)) (method : String) :
    (dict kvs).entries? method = .ok kvs := rfl

/-- Only a dict has `get`. -/
lemma isDict_of_get_ok {v : PyVal} {k : PyStr} {d x : PyVal} (h : v.get k d = .ok x) :
    v.isDict = true := by
  cases v <;> first | rfl | cases h

/-- `v[k]` for a string key `k` (`kRepr` is how a `KeyError` prints it). -/
def getItem (v : PyVal) (k : PyStr) (kRepr : String) : Except PyExc PyVal :=
  match v with
  | dict kvs => match dictGet? kvs (.str k) with
    | some x => .ok x
    | Option.none => .error (.keyError kRepr)
  | str _ => .error ⟨.typeError, lit "string indices must be integers, not 'str'"⟩
  | list _ => .error ⟨.typeError, lit "list indices must be integers or slices, not str"⟩
  | _ => .error ⟨.typeError, lit ("'" ++ v.typeName ++ "' object is not subscriptable")⟩

/-- `k in v` for a string `k`: a key of a dict, an element of a list, a substring of a
string; any other value is not a container. -/
def contains (v : PyVal) (k : PyStr) : Except PyExc Bool :=
  match v with
  | dict kvs => .ok (dictGet? kvs (.str k)).isSome
  | list xs => .ok (xs.contains (str k))
  | str s => .ok (PyStr.isInfixOf k s)
  | _ => .error ⟨.typeError, lit ("argument of type '" ++ v.typeName ++ "' is not iterable")⟩

/-- What `for x in v` visits: list elements, one-character strings, dict keys. -/
def iter (v : PyVal) : Except PyExc (List PyVal) :=
  match v with
  | list xs => .ok xs
  | str s => .ok (s.map fun c => str [c])
  | dict kvs => .ok (kvs.map Prod.fst)
  | _ => .error (.notIterable v)

end PyVal

/-- `d.get(k, default)` on the entries of a dict, for a key written as a Lean string. -/
def getOr (kvs : List (PyVal × PyVal)) (k : String) (default : PyVal) : PyVal :=
  (dictGet? kvs (.str (lit k))).getD default

@[simp] lemma get_dict (kvs : List (PyVal × PyVal)) (k : String) (default : PyVal) :
    (PyVal.dict kvs).get (lit k) default = .ok (getOr kvs k default) := rfl

/-- `s + v` for a string `s`: only another string can be added. -/
def concatStr (s : PyStr) : PyVal → Except PyExc PyStr
  | .str t => .ok (s ++ t)
  | v =>
    .error ⟨.typeError, lit ("can only concatenate str (not \"" ++ v.typeName ++ "\") to str")⟩

/-- The pair a `dict.update` sequence element stands for: it must iterate to exactly two
items, the first hashable. -/
def updatePair? (item : PyVal) : Option (PyVal × PyVal) :=
  match item.iter with
  | .ok [k, v] => if k.key?.isSome then some (k, v) else none
  | _ => none

/-- **`d.update(other)`** on a dict: a dict is merged entry by entry; anything else is read as a
sequence of pairs, and the first element that is not a hashable-keyed pair raises, leaving the
pairs before it set.  The caller in `parse_sse_response` swallows that exception, so what
matters is the dict left behind. -/
def dictUpdate (d : List (PyVal × PyVal)) (other : PyVal) : List (PyVal × PyVal) :=
  match other with
  | .dict kvs => kvs.foldl (fun acc kv => dictSet acc kv.1 kv.2) d
  | _ => match other.iter with
    | .ok items => pairs d items
    | .error _ => d
where
  /-- Set the pairs in order up to the first that is not one. -/
  pairs : List (PyVal × PyVal) → List PyVal → List (PyVal × PyVal)
    | acc, [] => acc
    | acc, item :: rest => match updatePair? item with
      | some (k, v) => pairs (dictSet acc k v) rest
      | none => acc

end GatewayLogs
