import GatewayLogs.Json.Dumps
import GatewayLogs.Python.Arith
import GatewayLogs.Loop

/-!
# `str`, `format` and `print`

What the scripts print is built with f-strings and written to `sys.stdout`, and no `print` of
theirs is inside a `try`.  Two steps of a `print` can raise.

* Formatting: `str(v)` and `format(v, ',')` of an `int` of more than `maxStrDigits` digits raise
  `ValueError`, and so does `str` of a list or a dict that holds one (`PyVal.str?`,
  `PyNum.formatGrouped?`).
* Writing: `sys.stdout` encodes the text as UTF-8, and a lone surrogate (`json.loads` makes one
  of an unpaired `\ud800` escape) has no UTF-8 form.  The stream's error handler is `strict`,
  or `surrogateescape` under a C or POSIX locale and in UTF-8 mode, which writes `U+DC80` to
  `U+DCFF` as the bytes `0x80` to `0xFF`.  Any other surrogate raises `UnicodeEncodeError`,
  naming the first such character and the run of surrogates it starts (`encodeError?`, as
  CPython's UTF-8 encoder reports them).

`str` of `None`, a `bool`, a number or a string is spelled out.  `str` of a list or a dict is
the `repr` of its items, whose escapes follow the Unicode database's printable property; it is
the field `PyOut.repr`, and what the outcome needs of it is a field too: `repr` escapes every
character that is not printable, surrogates among them.

* `print?_eq_ok` — a text whose characters the handler writes prints;
* `PyStr.encodes_lit` — a literal of the scripts has no surrogate, so their own texts print;
* `PyVal.str?_printable` — `str` of a value whose `int`s fit and whose strings encode returns
  a text that encodes.
-/

namespace GatewayLogs

/-- The error handler of `sys.stdout`. -/
inductive EncodeErrors where
  | strict
  | surrogateescape
  deriving DecidableEq, Repr

namespace PyChar

/-- A surrogate code point, `U+D800` to `U+DFFF`. -/
def isSurrogate (c : PyChar) : Bool := 0xD800 ≤ c.val && c.val ≤ 0xDFFF

/-- A character the handler cannot write: a surrogate, unless `surrogateescape` takes it for
one of the bytes `0x80` to `0xFF`. -/
def unencodable (errors : EncodeErrors) (c : PyChar) : Bool :=
  c.isSurrogate && (errors = .strict || !(0xDC80 ≤ c.val && c.val ≤ 0xDCFF))

lemma isSurrogate_ofChar (c : Char) : (PyChar.ofChar c).isSurrogate = false := by
  have h := c.valid
  simp only [UInt32.isValidChar, Nat.isValidChar] at h
  simp only [isSurrogate, PyChar.ofChar, Char.toNat, Bool.and_eq_false_iff, decide_eq_false_iff_not,
    Nat.not_le]
  omega

lemma unencodable_of_isSurrogate {c : PyChar} (errors : EncodeErrors) (h : c.isSurrogate = false) :
    c.unencodable errors = false := by
  simp [unencodable, h]

end PyChar

/-- `UnicodeEncodeError` for a run of `len` surrogates at `start`, the first of them `c`:
`str(e)` names the one character, or the positions of the run. -/
def PyExc.unicodeEncode (c : PyChar) (start len : Nat) : PyExc :=
  ⟨.unicodeEncodeError, lit "'utf-8' codec can't encode " ++
    (if len = 1 then
      lit "character '" ++ Json.uEscape c.val ++ lit ("' in position " ++ toString start)
     else lit ("characters in position " ++ toString start ++ "-" ++ toString (start + len - 1))) ++
    lit ": surrogates not allowed"⟩

example : (PyExc.unicodeEncode (PyChar.ofNat 0xD800) 20 1).msg =
    lit "'utf-8' codec can't encode character '\\ud800' in position 20: surrogates not allowed" := by
  decide

/-- **What writing a text raises**, its characters counted from position `i`: at the first
character the handler refuses, the error of the surrogates from it to the end of their run. -/
def encodeError? (errors : EncodeErrors) (i : Nat) : PyStr → Option PyExc
  | [] => none
  | c :: cs =>
    if c.unencodable errors then
      some (.unicodeEncode c i ((c :: cs).takeWhile PyChar.isSurrogate).length)
    else encodeError? errors (i + 1) cs

/-- **`print(s)`**: `s` is written, then a newline. -/
def print? (errors : EncodeErrors) (s : PyStr) : Except PyExc Unit :=
  match encodeError? errors 0 s with
  | none => .ok ()
  | some e => .error e

/-- **How the scripts' output is written**: the error handler of `sys.stdout`, and `repr` of a
list or a dict, which writes no surrogate. -/
structure PyOut where
  errors : EncodeErrors
  repr : PyVal → PyStr
  repr_noSurrogate : ∀ v, ∀ c ∈ repr v, c.isSurrogate = false

/-- **`str(v)`**. -/
def PyVal.str? (out : PyOut) (v : PyVal) : Except PyExc PyStr :=
  match v with
  | .none => .ok (lit "None")
  | .bool b => .ok (lit (if b then "True" else "False"))
  | .int z => Json.intRepr? z
  | .float .nan => .ok (lit "nan")
  | .float (.inf neg) => .ok (lit (if neg then "-inf" else "inf"))
  | .float (.fin neg n) => .ok ((PyFloat.reprFinite neg n.val).map PyChar.ofChar)
  | .str s => .ok s
  | .list _ | .dict _ => if v.intsFit then .ok (out.repr v) else .error .intToStrLimit

/-- **`format(n, ',')`**: it raises only on an `int` past the digit limit, and otherwise writes
digits, commas, a sign, `inf` or `nan`, which every handler writes. -/
def PyNum.formatGrouped? : PyNum → Except PyExc Unit
  | .int z => if intFitsStr z then .ok () else .error .intToStrLimit
  | .float _ => .ok ()

/-- `print(f"{pre}{v}{post}")`. -/
def printVal (out : PyOut) (pre : String) (v : PyVal) (post : String) : Except PyExc Unit := do
  print? out.errors (lit pre ++ (← v.str? out) ++ lit post)

/-! ## Texts that print -/

/-- Every character of `s` is one the handler writes. -/
def PyStr.encodes (errors : EncodeErrors) (s : PyStr) : Bool :=
  s.all fun c => !c.unencodable errors

mutual
/-- Every string in a value, dict keys included, is one the handler writes. -/
def PyVal.strsEncode (errors : EncodeErrors) : PyVal → Bool
  | .str s => s.encodes errors
  | .list xs => PyVal.strsEncodeList errors xs
  | .dict kvs => PyVal.strsEncodeDict errors kvs
  | _ => true
/-- `strsEncode` of every item. -/
def PyVal.strsEncodeList (errors : EncodeErrors) : List PyVal → Bool
  | [] => true
  | x :: xs => x.strsEncode errors && PyVal.strsEncodeList errors xs
/-- `strsEncode` of every key and value. -/
def PyVal.strsEncodeDict (errors : EncodeErrors) : List (PyVal × PyVal) → Bool
  | [] => true
  | (k, v) :: kvs => k.strsEncode errors && v.strsEncode errors && PyVal.strsEncodeDict errors kvs
end

/-- **A value `print` shows**: its `int`s fit the digit limit and its strings encode. -/
def PyVal.printable (errors : EncodeErrors) (v : PyVal) : Bool := v.intsFit && v.strsEncode errors

section Encodes

variable {errors : EncodeErrors}

@[simp] lemma PyStr.encodes_append (s t : PyStr) :
    (s ++ t).encodes errors = (s.encodes errors && t.encodes errors) :=
  List.all_append

lemma PyStr.encodes_of_noSurrogate {s : PyStr} (h : ∀ c ∈ s, c.isSurrogate = false) :
    s.encodes errors = true :=
  List.all_eq_true.mpr fun c hc => by simp [PyChar.unencodable_of_isSurrogate errors (h c hc)]

@[simp] lemma PyStr.encodes_map_ofChar (cs : List Char) :
    PyStr.encodes errors (cs.map PyChar.ofChar) = true :=
  encodes_of_noSurrogate fun c hc => by
    obtain ⟨d, -, rfl⟩ := List.mem_map.mp hc
    exact PyChar.isSurrogate_ofChar d

@[simp] lemma PyStr.encodes_lit (s : String) : (lit s).encodes errors = true :=
  encodes_map_ofChar _

lemma PyStr.encodes_take {s : PyStr} (n : Nat) (h : s.encodes errors = true) :
    PyStr.encodes errors (s.take n) = true :=
  List.all_eq_true.mpr fun c hc => List.all_eq_true.mp h c (List.mem_of_mem_take hc)

lemma encodeError?_eq_none_iff (i : Nat) {s : PyStr} :
    encodeError? errors i s = none ↔ s.encodes errors = true := by
  induction s generalizing i with
  | nil => simp [encodeError?, PyStr.encodes]
  | cons c cs ih =>
    have hcons : PyStr.encodes errors (c :: cs) =
        (!c.unencodable errors && PyStr.encodes errors cs) := rfl
    rw [hcons, encodeError?]
    cases c.unencodable errors <;> simp [ih]

/-- **A text prints iff the handler writes every one of its characters.** -/
lemma print?_eq_ok_iff {s : PyStr} : print? errors s = .ok () ↔ s.encodes errors = true := by
  rw [print?, ← encodeError?_eq_none_iff 0]
  cases encodeError? errors 0 s <;> simp

lemma print?_eq_ok {s : PyStr} (h : s.encodes errors = true) : print? errors s = .ok () :=
  print?_eq_ok_iff.mpr h

end Encodes

/-- **`str` of a printable value** returns a text that encodes. -/
lemma PyVal.str?_printable (out : PyOut) {v : PyVal} (h : v.printable out.errors = true) :
    ∃ t, v.str? out = .ok t ∧ t.encodes out.errors = true := by
  simp only [PyVal.printable, Bool.and_eq_true] at h
  match v, h with
  | .none, _ => exact ⟨_, rfl, PyStr.encodes_lit _⟩
  | .bool _, _ => exact ⟨_, rfl, PyStr.encodes_lit _⟩
  | .int z, ⟨hi, _⟩ =>
    simp only [PyVal.intsFit] at hi
    exact ⟨Json.intRepr z, by simp [PyVal.str?, Json.intRepr?, hi], PyStr.encodes_lit _⟩
  | .float .nan, _ => exact ⟨_, rfl, PyStr.encodes_lit _⟩
  | .float (.inf _), _ => exact ⟨_, rfl, PyStr.encodes_lit _⟩
  | .float (.fin _ _), _ => exact ⟨_, rfl, PyStr.encodes_map_ofChar _⟩
  | .str s, ⟨_, he⟩ => exact ⟨s, rfl, he⟩
  | .list xs, ⟨hi, _⟩ =>
    exact ⟨out.repr (.list xs), by simp [PyVal.str?, hi],
      PyStr.encodes_of_noSurrogate (out.repr_noSurrogate _)⟩
  | .dict kvs, ⟨hi, _⟩ =>
    exact ⟨out.repr (.dict kvs), by simp [PyVal.str?, hi],
      PyStr.encodes_of_noSurrogate (out.repr_noSurrogate _)⟩

section Printable

variable {errors : EncodeErrors}

@[simp] lemma PyVal.printable_str (s : PyStr) :
    (PyVal.str s).printable errors = s.encodes errors := by
  simp [PyVal.printable, PyVal.intsFit, PyVal.strsEncode]

@[simp] lemma PyVal.printable_int (z : Int) : (PyVal.int z).printable errors = intFitsStr z := by
  simp [PyVal.printable, PyVal.intsFit, PyVal.strsEncode]

@[simp] lemma PyVal.printable_list (xs : List PyVal) :
    (PyVal.list xs).printable errors = xs.all (·.printable errors) := by
  induction xs with
  | nil => rfl
  | cons x xs ih =>
    simp only [PyVal.printable, PyVal.intsFit, PyVal.intsFitList, PyVal.strsEncode,
      PyVal.strsEncodeList, List.all_cons] at ih ⊢
    rw [← ih]
    cases x.intsFit <;> cases x.strsEncode errors <;> simp

@[simp] lemma PyVal.printable_obj (kvs : List (String × PyVal)) :
    (obj kvs).printable errors = kvs.all (·.2.printable errors) := by
  induction kvs with
  | nil => rfl
  | cons kv kvs ih =>
    simp only [obj, PyVal.printable, PyVal.intsFit, PyVal.intsFitDict, PyVal.strsEncode,
      PyVal.strsEncodeDict, List.map_cons, List.all_cons, strVal, PyStr.encodes_lit,
      Bool.true_and] at ih ⊢
    rw [← ih]
    cases kv.2.intsFit <;> cases kv.2.strsEncode errors <;> simp

/-- An item of a printable list is printable. -/
lemma PyVal.printable_of_mem {xs : List PyVal} (h : (PyVal.list xs).printable errors = true)
    {x : PyVal} (hx : x ∈ xs) : x.printable errors = true :=
  List.all_eq_true.mp (by simpa using h) x hx

/-- An entry of a printable object is printable. -/
lemma PyVal.printable_of_lookup {kvs : List (String × PyVal)} {k : String} {v : PyVal}
    (h : (obj kvs).printable errors = true) (hk : List.lookup k kvs = some v) :
    v.printable errors = true := by
  obtain ⟨l₁, l₂, rfl, -⟩ := List.lookup_eq_some_iff.mp hk
  rw [PyVal.printable_obj, List.all_eq_true] at h
  exact h (k, v) (by simp)

end Printable

/-- `print(f"{pre}{v}{post}")` of a printable value passes. -/
lemma printVal_printable (out : PyOut) (pre : String) {v : PyVal} (post : String)
    (h : v.printable out.errors = true) : printVal out pre v post = .ok () := by
  obtain ⟨t, ht, he⟩ := v.str?_printable out h
  simp only [printVal, ht, ok_bind]
  exact print?_eq_ok (by simp [he])

end GatewayLogs
