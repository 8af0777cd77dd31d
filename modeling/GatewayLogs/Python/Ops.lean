import GatewayLogs.Python.Arith
import GatewayLogs.Loop

/-!
# The operations the report stages apply to decoded values

After collecting, the scripts print what they stored, and on the way they apply to the decoded
JSON values operations that raise on the wrong type: `len`, slicing, `+` and `+=` with a
string, `str.startswith`, `dict.keys`, `str.join`, and `+` between two counters.  Each is
modelled with the exception CPython 3.11 raises; a dict sliced with `[:n]` takes the slice for
a key, and a slice cannot be hashed.

Two idioms of the report stages are built from them: `text = text[:n] + "..."` past a length
(`cutText`), and `if key in v and v[key]: for x in v[key][:n]: ...` (`forFirst`).

`dictGet_obj` turns a lookup in a dict with string keys into `List.lookup`, which `simp`
evaluates on literal keys.
-/

namespace GatewayLogs

namespace PyVal

/-- `len(v)`. -/
def len? (v : PyVal) : Except PyExc Nat :=
  match v with
  | str s => .ok s.length
  | list xs => .ok xs.length
  | dict kvs => .ok kvs.length
  | _ => .error ⟨.typeError, lit ("object of type '" ++ v.typeName ++ "' has no len()")⟩

/-- `v[:n]`: a prefix of a string or a list; a dict would look the slice up as a key. -/
def sliceTo? (v : PyVal) (n : Nat) : Except PyExc PyVal :=
  match v with
  | str s => .ok (str (s.take n))
  | list xs => .ok (list (xs.take n))
  | dict _ => .error ⟨.typeError, lit "unhashable type: 'slice'"⟩
  | _ => .error ⟨.typeError, lit ("'" ++ v.typeName ++ "' object is not subscriptable")⟩

/-- `v + s` for a string `s`. -/
def addStr? (v : PyVal) (s : PyStr) : Except PyExc PyVal :=
  match v with
  | str t => .ok (str (t ++ s))
  | list _ => .error ⟨.typeError, lit "can only concatenate list (not \"str\") to list"⟩
  | _ => .error ⟨.typeError,
      lit ("unsupported operand type(s) for +: '" ++ v.typeName ++ "' and 'str'")⟩

/-- `v += s` for a string `s`: a list is extended by the string's characters. -/
def iaddStr? (v : PyVal) (s : PyStr) : Except PyExc PyVal :=
  match v with
  | str t => .ok (str (t ++ s))
  | list xs => .ok (list (xs ++ s.map fun c => str [c]))
  | _ => .error ⟨.typeError,
      lit ("unsupported operand type(s) for +=: '" ++ v.typeName ++ "' and 'str'")⟩

/-- `v.startswith(p)`. -/
def startswith? (v : PyVal) (p : PyStr) : Except PyExc Bool :=
  match v with
  | str s => .ok (p.isPrefixOf s)
  | _ => .error (.noAttr v "startswith")

/-- `v.keys()`. -/
def keys? (v : PyVal) : Except PyExc (List PyVal) := (v.entries? "keys").map (·.map Prod.fst)

/-- A number as a value. -/
def ofNum : PyNum → PyVal
  | .int z => int z
  | .float x => float x

/-- `a + b`: numbers add (a `bool` as an `int`), strings and lists concatenate. -/
def add? (a b : PyVal) : Except PyExc PyVal :=
  match a, b with
  | str s, _ => (concatStr s b).map str
  | list xs, list ys => .ok (list (xs ++ ys))
  | list _, _ => .error ⟨.typeError,
      lit ("can only concatenate list (not \"" ++ b.typeName ++ "\") to list")⟩
  | _, _ => match a.num?, b.num? with
    | some x, some y => (x.add y).map ofNum
    | _, _ => .error ⟨.typeError, lit ("unsupported operand type(s) for +: '" ++ a.typeName ++
        "' and '" ++ b.typeName ++ "'")⟩

end PyVal

/-- `sep.join(items)`: every item must be a string. -/
def joinStrs? (sep : PyStr) (items : List PyVal) : Except PyExc PyStr :=
  go 0 items
where
  /-- The items from index `i` on. -/
  go (i : Nat) : List PyVal → Except PyExc PyStr
    | [] => .ok []
    | [.str s] => .ok s
    | .str s :: v :: vs => (go (i + 1) (v :: vs)).map fun t => s ++ sep ++ t
    | v :: _ => .error ⟨.typeError, lit ("sequence item " ++ toString i ++
        ": expected str instance, " ++ v.typeName ++ " found")⟩

/-! ## Two idioms of the report stages -/

/-- `if len(text) > n: text = text[:n] + "..."`: the text then shown. -/
def cutText (text : PyVal) (n : Nat) : Except PyExc PyVal := do
  if (← text.len?) > n then (← text.sliceTo? n).addStr? (lit "...") else pure text

/-- `if key in v and v[key]: for x in v[key][:n]: f(x)`: the first `n` items of the entry `key`
of `v`, when it is there and true. -/
def forFirst (key : String) (n : Nat) (f : PyVal → Except PyExc Unit) (v : PyVal) :
    Except PyExc Unit := do
  if ← v.contains (lit key) then
    let xs ← v.getItem (lit key) key
    if xs.truthy then (← (← xs.sliceTo? n).iter).forM f

@[simp] lemma cutText_str (s : PyStr) (n : Nat) :
    cutText (.str s) n = .ok (.str (if n < s.length then s.take n ++ lit "..." else s)) := by
  simp only [cutText, PyVal.len?, PyVal.sliceTo?, PyVal.addStr?, ok_bind]
  split <;> rfl

/-! ## Lookups in dicts with string keys -/

lemma lit_injective : Function.Injective lit := fun a b h => by
  have h' : a.toList = b.toList :=
    List.map_injective_iff.mpr PyChar.ofChar_injective h
  exact String.ext h'

@[simp] lemma lit_inj {a b : String} : lit a = lit b ↔ a = b := lit_injective.eq_iff

/-- A dict with string keys is searched like an association list. -/
lemma dictGet_obj (kvs : List (String × PyVal)) (k : String) :
    dictGet? (kvs.map fun kv => (strVal kv.1, kv.2)) (.str (lit k)) = List.lookup k kvs := by
  induction kvs with
  | nil => rfl
  | cons kv kvs ih =>
    obtain ⟨a, v⟩ := kv
    by_cases h : k = a
    · subst h; simp [dictGet?, strVal, PyVal.key?]
    · have hne : lit a ≠ lit k := fun e => h (lit_injective e).symm
      have hb : (k == a) = false := beq_false_of_ne h
      simp only [dictGet?, List.map_cons, List.find?_cons, strVal, PyVal.key?, Option.some.injEq,
        PyKey.str.injEq, hne, decide_False, List.lookup_cons, hb] at ih ⊢
      exact ih

@[simp] lemma getOr_obj (kvs : List (String × PyVal)) (k : String) (d : PyVal) :
    getOr (kvs.map fun kv => (strVal kv.1, kv.2)) k d = (List.lookup k kvs).getD d := by
  rw [getOr, dictGet_obj]

end GatewayLogs
