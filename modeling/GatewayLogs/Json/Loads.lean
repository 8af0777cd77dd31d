import GatewayLogs.Python.Value

/-!
# `json.loads`

Every record line, every request body, every non-streaming response body and every
event-stream payload goes through `json.loads`, and whether it raises, and what, decides which
branch of the scripts runs.  This is CPython's C scanner (`Modules/_json.c`) over the text as a
list of code points, with `json.decoder`'s wrapping around it:

* `scanString` — `scanstring_unicode`: escapes, surrogate pairs, and the strict rejection of
  control characters.
* `scanOnce`, `parseObject`, `parseArray` — `scan_once_unicode` and the object and array loops;
  a duplicate key keeps its first position and takes the last value.
* `matchNumber` — `_match_number_unicode`: an `int` unless a fraction or an exponent follows,
  then a correctly rounded `float`.
* `loadsStr` — `json.loads` on a `str`: the BOM check, leading whitespace, one value, and
  `Extra data` for anything but whitespace after it.

A `JSONDecodeError` carries the message and the text from the position it names, from which
`DecodeError.render` builds CPython's `msg: line L column C (char P)`.  Two other exceptions
come from the interpreter, and the scripts' `except json.JSONDecodeError` does not catch them:
an `int` of more than `maxStrDigits` digits raises `ValueError` where it is read, and entering
an object or an array with no recursion budget left raises `RecursionError`.  The budget is what
the frames above the scanner leave of `recursionLimit` (`loadsRoom`): 994 nesting levels when
the scripts' functions call `json.loads`, 993 inside `parse_sse_response`.  The nesting
recursion also carries fuel; each level consumes input, so twice the length of the document is
enough.
-/

namespace GatewayLogs

namespace Json

/-- Why `json.loads` stops. -/
inductive DecodeError where
  /-- A `JSONDecodeError`: its message and the text from the position it names on. -/
  | invalid (msg : String) (rest : PyStr)
  /-- `ValueError`: an `int` literal of `n` digits, past the digit limit. -/
  | intTooLong (n : Nat)
  /-- `RecursionError`: a JSON `object` or `array` entered with no recursion budget left. -/
  | tooDeep (what : String)
  deriving DecidableEq, Repr

/-- The recursion budget the scanner has when `json.loads` is called by a function `frames`
Python frames deep (`python script.py` runs the module as the first frame): `json.loads`,
`JSONDecoder.decode` and `raw_decode` are three more frames, and the call of the C scanner
object is one recursive call. -/
def loadsRoom (frames : Nat) : Nat := recursionLimit - (frames + 4)

/-- `Py_EnterRecursiveCall` around the members of a JSON `object` or `array`: one unit of the
budget `room` for them, or `RecursionError` with none left. -/
def enter (what : String) (room : Nat) (k : Nat → Except DecodeError (PyVal × PyStr)) :
    Except DecodeError (PyVal × PyStr) :=
  match room with
  | 0 => .error (.tooDeep what)
  | room + 1 => k room

/-- JSON's whitespace, which is narrower than `str.isspace`. -/
def isWs (c : PyChar) : Bool :=
  c = ' ' || c = '\t' || c = '\n' || c = '\r'

/-- Skip JSON whitespace. -/
def skipWs (s : PyStr) : PyStr := s.dropWhile isWs

/-- An ASCII digit. -/
def isDigit (c : PyChar) : Bool := 48 ≤ c.val && c.val ≤ 57

/-- The value of a run of ASCII digits. -/
def digitsVal (ds : PyStr) : Nat := ds.foldl (fun n c => n * 10 + (c.val - 48)) 0

/-- The value of a hexadecimal digit of either case. -/
def hexVal? (c : PyChar) : Option Nat :=
  if isDigit c then some (c.val - 48)
  else if 97 ≤ c.val ∧ c.val ≤ 102 then some (c.val - 87)
  else if 65 ≤ c.val ∧ c.val ≤ 70 then some (c.val - 55)
  else none

/-- The value of four hexadecimal digits. -/
def hex4? (a b c d : PyChar) : Option Nat := do
  let a ← hexVal? a
  let b ← hexVal? b
  let c ← hexVal? c
  let d ← hexVal? d
  pure (((a * 16 + b) * 16 + c) * 16 + d)

/-- The character a one-letter escape stands for. -/
def simpleEscape? (e : PyChar) : Option PyChar :=
  if e = '"' then some '"' else if e = '\\' then some '\\' else if e = '/' then some '/'
  else if e = 'b' then some (PyChar.ofNat 8) else if e = 'f' then some (PyChar.ofNat 12)
  else if e = 'n' then some '\n' else if e = 'r' then some '\r' else if e = 't' then some '\t'
  else none

/-- A high surrogate, which `\uXXXX` may pair with a following low one. -/
def isHighSurrogate (n : Nat) : Bool := 0xD800 ≤ n && n ≤ 0xDBFF

/-- A low surrogate. -/
def isLowSurrogate (n : Nat) : Bool := 0xDC00 ≤ n && n ≤ 0xDFFF

/-- **`scanstring_unicode`.**  Decode a string body up to its closing quote; `begin` is the text
from the opening quote on, where `Unterminated string` points, and `acc` the characters decoded
so far, reversed.  `\uXXXX` needs a character after its four digits; a high surrogate followed
by a second escape (and a character after that) consumes it when it is a low surrogate, and is
left alone, the second escape to be read again, when it is not. -/
def scanString (begin : PyStr) : PyStr → PyStr → Except DecodeError (PyStr × PyStr)
  | _, [] => .error (.invalid "Unterminated string starting at" begin)
  | acc, c :: rest =>
    if c = '"' then .ok (acc.reverse, rest)
    else if c = '\\' then
      match rest with
      | [] => .error (.invalid "Unterminated string starting at" begin)
      | e :: rest1 =>
        if e = 'u' then
          match rest1 with
          | h1 :: h2 :: h3 :: h4 :: rest2 =>
            match hex4? h1 h2 h3 h4, rest2 with
            | _, [] => .error (.invalid "Invalid \\uXXXX escape" (e :: rest1))
            | none, _ :: _ => .error (.invalid "Invalid \\uXXXX escape" (e :: rest1))
            | some hi, b :: u :: g1 :: g2 :: g3 :: g4 :: r :: rest3 =>
              if isHighSurrogate hi ∧ b = '\\' ∧ u = 'u' then
                match hex4? g1 g2 g3 g4 with
                | none => .error (.invalid "Invalid \\uXXXX escape"
                    (u :: g1 :: g2 :: g3 :: g4 :: r :: rest3))
                | some lo =>
                  if isLowSurrogate lo then
                    scanString begin
                      (PyChar.ofNat (0x10000 + (hi - 0xD800) * 0x400 + (lo - 0xDC00)) :: acc)
                      (r :: rest3)
                  else scanString begin (PyChar.ofNat hi :: acc)
                    (b :: u :: g1 :: g2 :: g3 :: g4 :: r :: rest3)
              else scanString begin (PyChar.ofNat hi :: acc)
                (b :: u :: g1 :: g2 :: g3 :: g4 :: r :: rest3)
            | some hi, rest2 => scanString begin (PyChar.ofNat hi :: acc) rest2
          | _ => .error (.invalid "Invalid \\uXXXX escape" (e :: rest1))
        else match simpleEscape? e with
          | some d => scanString begin (d :: acc) rest1
          | none => .error (.invalid "Invalid \\escape" (c :: rest))
    else if c.val ≤ 0x1f then .error (.invalid "Invalid control character at" (c :: rest))
    else scanString begin (c :: acc) rest

/-- **`_match_number_unicode`.**  An optional `-`, then `0` or a digit run not starting with
`0`; then `.` and digits, and `e`/`E`, an optional sign and digits, each taken only when a digit
follows (an exponent without one is left unread).  With a fraction or an exponent the value is
the correctly rounded `float`, otherwise the `int`, which `int(text)` refuses past
`maxStrDigits` digits. -/
def matchNumber (s : PyStr) : Except DecodeError (PyVal × PyStr) :=
  let neg := s.head? = some '-'
  let r0 := if neg then s.tail else s
  let intPart : Option (PyStr × PyStr) :=
    match r0 with
    | c :: r =>
      if c = '0' then some ([c], r)
      else if isDigit c then some (c :: r.takeWhile isDigit, r.dropWhile isDigit)
      else none
    | [] => none
  match intPart with
  | none => .error (.invalid "Expecting value" s)
  | some (ip, r1) =>
    let (frac, r2) : Option PyStr × PyStr :=
      match r1 with
      | d :: e :: r =>
        if d = '.' ∧ isDigit e then (some (e :: r.takeWhile isDigit), r.dropWhile isDigit)
        else (none, r1)
      | _ => (none, r1)
    let (exp, r3) : Option Int × PyStr :=
      match r2 with
      | e :: r@(_ :: _) =>
        if e = 'e' ∨ e = 'E' then
          let (sgn, r') : Int × PyStr :=
            match r with
            | x :: y :: t =>
              if x = '-' then (-1, y :: t) else if x = '+' then (1, y :: t) else (1, r)
            | _ => (1, r)
          if (r'.takeWhile isDigit).isEmpty then (none, r2)
          else (some (sgn * digitsVal (r'.takeWhile isDigit)), r'.dropWhile isDigit)
        else (none, r2)
      | _ => (none, r2)
    match frac, exp with
    | none, none =>
      if ip.length ≤ maxStrDigits then
        .ok (.int (if neg then -(digitsVal ip : Int) else digitsVal ip), r3)
      else .error (.intTooLong ip.length)
    | _, _ =>
      let fd := frac.getD []
      .ok (.float (PyFloat.ofDecimal neg (digitsVal (ip ++ fd)) (exp.getD 0 - fd.length)), r3)

mutual
/-- **`scan_once_unicode`.**  One value at the start of the text: a string, an object, an
array, one of the literals `null`, `true`, `false`, `NaN`, `Infinity`, `-Infinity`, or else a
number.  A value that cannot start here raises `StopIteration`, which `json.loads` reports as
`Expecting value` at that position.  `room` is the recursion budget: an object or an array takes
one unit of it for its members, and with none left it is not entered. -/
def scanOnce : Nat → Nat → PyStr → Except DecodeError (PyVal × PyStr)
  | 0, _, s => .error (.invalid "Expecting value" s)
  | _ + 1, _, [] => .error (.invalid "Expecting value" [])
  | fuel + 1, room, c :: rest =>
    if c = '"' then (scanString (c :: rest) [] rest).map fun p => (.str p.1, p.2)
    else if c = '{' then
      enter "object" room fun room =>
        match skipWs rest with
        | d :: r => if d = '}' then .ok (.dict [], r) else parseObject fuel room [] (d :: r)
        | [] => parseObject fuel room [] []
    else if c = '[' then
      enter "array" room fun room =>
        match skipWs rest with
        | d :: r => if d = ']' then .ok (.list [], r) else parseArray fuel room [] (d :: r)
        | [] => parseArray fuel room [] []
    else if c = 'n' ∧ rest.take 3 = lit "ull" then .ok (.none, rest.drop 3)
    else if c = 't' ∧ rest.take 3 = lit "rue" then .ok (.bool true, rest.drop 3)
    else if c = 'f' ∧ rest.take 4 = lit "alse" then .ok (.bool false, rest.drop 4)
    else if c = 'N' ∧ rest.take 2 = lit "aN" then .ok (.float .nan, rest.drop 2)
    else if c = 'I' ∧ rest.take 7 = lit "nfinity" then .ok (.float (.inf false), rest.drop 7)
    else if c = '-' ∧ rest.take 8 = lit "Infinity" then .ok (.float (.inf true), rest.drop 8)
    else matchNumber (c :: rest)
/-- The member loop of `_parse_object_unicode`, at a member: a key string, `:`, a value, then
`}` or `,` and the next member. -/
def parseObject : Nat → Nat → List (PyVal × PyVal) → PyStr →
    Except DecodeError (PyVal × PyStr)
  | 0, _, _, s => .error (.invalid "Expecting value" s)
  | fuel + 1, room, acc, c :: rest =>
    if c = '"' then
      match scanString (c :: rest) [] rest with
      | .error e => .error e
      | .ok (k, r1) =>
        match skipWs r1 with
        | d :: r2 =>
          if d = ':' then
            match scanOnce fuel room (skipWs r2) with
            | .error e => .error e
            | .ok (v, r3) =>
              match skipWs r3 with
              | e :: r4 =>
                if e = '}' then .ok (.dict (dictSet acc (.str k) v), r4)
                else if e = ',' then parseObject fuel room (dictSet acc (.str k) v) (skipWs r4)
                else .error (.invalid "Expecting ',' delimiter" (e :: r4))
              | [] => .error (.invalid "Expecting ',' delimiter" [])
          else .error (.invalid "Expecting ':' delimiter" (d :: r2))
        | [] => .error (.invalid "Expecting ':' delimiter" [])
    else .error (.invalid "Expecting property name enclosed in double quotes" (c :: rest))
  | _ + 1, _, _, [] => .error (.invalid "Expecting property name enclosed in double quotes" [])
/-- The element loop of `_parse_array_unicode`, at an element: a value, then `]` or `,` and
the next element. -/
def parseArray : Nat → Nat → List PyVal → PyStr → Except DecodeError (PyVal × PyStr)
  | 0, _, _, s => .error (.invalid "Expecting value" s)
  | fuel + 1, room, acc, s =>
    match scanOnce fuel room s with
    | .error e => .error e
    | .ok (v, r1) =>
      match skipWs r1 with
      | e :: r2 =>
        if e = ']' then .ok (.list (acc ++ [v]), r2)
        else if e = ',' then parseArray fuel room (acc ++ [v]) (skipWs r2)
        else .error (.invalid "Expecting ',' delimiter" (e :: r2))
      | [] => .error (.invalid "Expecting ',' delimiter" [])
end

/-- `str(JSONDecodeError)` for a document `doc`: `msg: line L column C (char P)`, with `P` the
position of the text `rest` the error names, `L` one more than the newlines before it and `C`
its distance from the last of them. -/
def renderDecodeError (doc : PyStr) (msg : String) (rest : PyStr) : PyStr :=
  let pos := doc.length - rest.length
  let before := doc.take pos
  let lineno := before.count (PyChar.ofChar '\n') + 1
  let colno := (before.reverse.takeWhile (· ≠ PyChar.ofChar '\n')).length + 1
  lit (msg ++ ": line " ++ toString lineno ++ " column " ++ toString colno ++
    " (char " ++ toString pos ++ ")")

/-- The exception `json.loads` of the document `doc` raises. -/
def DecodeError.toExc (doc : PyStr) : DecodeError → PyExc
  | .invalid msg rest => ⟨.jsonDecodeError, renderDecodeError doc msg rest⟩
  | .intTooLong n => .intFromStrLimit n
  | .tooDeep what => ⟨.recursionError, lit ("maximum recursion depth exceeded while decoding a " ++
      "JSON " ++ what ++ " from a unicode string")⟩

/-- Whether `except json.JSONDecodeError` catches the error. -/
def DecodeError.isInvalid : DecodeError → Bool
  | .invalid _ _ => true
  | _ => false

/-- **`json.loads(s)`** for a `str`, with the recursion budget `room`: a leading byte-order mark
is refused, whitespace around the one value is skipped, and anything else after it is
`Extra data`. -/
def loadsStr (room : Nat) (s : PyStr) : Except DecodeError PyVal :=
  if s.head? = some (PyChar.ofNat 0xFEFF) then
    .error (.invalid "Unexpected UTF-8 BOM (decode using utf-8-sig)" s)
  else
    match scanOnce (2 * s.length + 2) room (skipWs s) with
    | .error e => .error e
    | .ok (v, r) => if skipWs r = [] then .ok v else .error (.invalid "Extra data" (skipWs r))

end Json

/-- **`json.loads(v)`** on a value read from a record, called by the scripts' functions: a
`str` is decoded, anything else is a `TypeError`. -/
def jsonLoads (v : PyVal) : Except PyExc PyVal :=
  match v with
  | .str s =>
    match Json.loadsStr (Json.loadsRoom 2) s with
    | .ok x => .ok x
    | .error e => .error (e.toExc s)
  | _ => .error ⟨.typeError, lit ("the JSON object must be str, bytes or bytearray, not " ++
      v.typeName)⟩

end GatewayLogs
