import GatewayLogs.Python.Value

/-!
# `json.dumps`

The scripts never encode JSON, but the upstream gateway writes the bodies they decode, and the
properties of the decoders are stated over what `json.dumps` produces.  This is `json.dumps`
with its defaults: `ensure_ascii=True` (every character outside printable ASCII becomes
`\uXXXX`, a pair of them beyond the basic plane), separators `", "` and `": "`, `NaN` and
`Infinity` allowed, keys in insertion order.  A key that is a number, `True`, `False` or
`None` is written as a string; any other non-string key is a `TypeError`.  An `int` past the
digit limit, as a value or as a key, is a `ValueError` (`PyVal.intsFit` says when there is
none).  The recursion limit `json.dumps` meets depends on its caller, which is not part of the
scripts; the model writes every nesting depth.
-/

namespace GatewayLogs

namespace Json

/-- Four lowercase hexadecimal digits. -/
def hex4 (n : Nat) : PyStr :=
  [n / 4096 % 16, n / 256 % 16, n / 16 % 16, n % 16].map fun d =>
    PyChar.ofNat (if d < 10 then 48 + d else 87 + d)

/-- `\uXXXX`. -/
def uEscape (n : Nat) : PyStr := lit "\\u" ++ hex4 n

/-- One character as `encode_basestring_ascii` writes it. -/
def escapeChar (c : PyChar) : PyStr :=
  if c = '"' then lit "\\\"" else if c = '\\' then lit "\\\\"
  else if c.val = 8 then lit "\\b" else if c.val = 12 then lit "\\f"
  else if c = '\n' then lit "\\n" else if c = '\r' then lit "\\r" else if c = '\t' then lit "\\t"
  else if 0x20 ≤ c.val ∧ c.val ≤ 0x7e then [c]
  else if c.val < 0x10000 then uEscape c.val
  else uEscape (0xD800 + (c.val - 0x10000) / 0x400) ++ uEscape (0xDC00 + (c.val - 0x10000) % 0x400)

/-- A string literal: quotes around the escaped characters. -/
def encodeStr (s : PyStr) : PyStr := lit "\"" ++ s.flatMap escapeChar ++ lit "\""

/-- The text of `int.__repr__`. -/
def intRepr (z : Int) : PyStr := lit (toString z)

/-- `int.__repr__`, which refuses an `int` past the digit limit. -/
def intRepr? (z : Int) : Except PyExc PyStr :=
  if intFitsStr z then .ok (intRepr z) else .error .intToStrLimit

lemma intRepr?_eq_ok {z : Int} {d : PyStr} (h : intRepr? z = .ok d) :
    intFitsStr z = true ∧ d = intRepr z := by
  unfold intRepr? at h
  split at h
  · cases h; exact ⟨‹_›, rfl⟩
  · cases h

/-- How `json.dumps` writes a float: `NaN`, `Infinity`, `-Infinity`, or `repr`. -/
def floatStr : PyFloat → PyStr
  | .nan => lit "NaN"
  | .inf false => lit "Infinity"
  | .inf true => lit "-Infinity"
  | .fin neg n => (PyFloat.reprFinite neg n.val).map PyChar.ofChar

/-- A dict key as `json.dumps` writes it: a string, or the text of a number, bool or `None`. -/
def keyStr? : PyVal → Except PyExc PyStr
  | .str s => .ok (encodeStr s)
  | .bool true => .ok (encodeStr (lit "true"))
  | .bool false => .ok (encodeStr (lit "false"))
  | .none => .ok (encodeStr (lit "null"))
  | .int z => (intRepr? z).map encodeStr
  | .float x => .ok (encodeStr (floatStr x))
  | k => .error ⟨.typeError, lit ("keys must be str, int, float, bool or None, not " ++
      k.typeName)⟩

/-- Join with `", "`. -/
def joinComma : List PyStr → PyStr
  | [] => []
  | [x] => x
  | x :: xs => x ++ lit ", " ++ joinComma xs

mutual
/-- **`json.dumps(v)`**. -/
def dumps : PyVal → Except PyExc PyStr
  | .none => .ok (lit "null")
  | .bool true => .ok (lit "true")
  | .bool false => .ok (lit "false")
  | .int z => intRepr? z
  | .float x => .ok (floatStr x)
  | .str s => .ok (encodeStr s)
  | .list xs => return lit "[" ++ joinComma (← dumpsList xs) ++ lit "]"
  | .dict kvs => return lit "\x7b" ++ joinComma (← dumpsDict kvs) ++ lit "\x7d"
/-- The items of a list. -/
def dumpsList : List PyVal → Except PyExc (List PyStr)
  | [] => .ok []
  | x :: xs => return (← dumps x) :: (← dumpsList xs)
/-- The `key: value` members of a dict. -/
def dumpsDict : List (PyVal × PyVal) → Except PyExc (List PyStr)
  | [] => .ok []
  | (k, v) :: kvs => return ((← keyStr? k) ++ lit ": " ++ (← dumps v)) :: (← dumpsDict kvs)
end

end Json

mutual
/-- Every `int` in a value, as a value or as a dict key, within the digit limit. -/
def PyVal.intsFit : PyVal → Bool
  | .int z => intFitsStr z
  | .list xs => PyVal.intsFitList xs
  | .dict kvs => PyVal.intsFitDict kvs
  | _ => true
/-- `intsFit` of every item. -/
def PyVal.intsFitList : List PyVal → Bool
  | [] => true
  | x :: xs => x.intsFit && PyVal.intsFitList xs
/-- `intsFit` of every key and value. -/
def PyVal.intsFitDict : List (PyVal × PyVal) → Bool
  | [] => true
  | (k, v) :: kvs => k.intsFit && v.intsFit && PyVal.intsFitDict kvs
end

/-- A log record as one line of JSON, with its `fields` and `span` objects. -/
def logLine (fields span : List (String × PyVal)) : PyStr :=
  ((Json.dumps (obj [("fields", obj fields), ("span", obj span)])).toOption).getD []

end GatewayLogs
