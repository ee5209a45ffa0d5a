import LlmUniversalProxy.Json.Value

/-!
# `Json.Text` — `serde_json::to_string` and `serde_json::from_str`

Both work over characters. The printer is compact and follows `serde_json`'s escapes. The parser
is the recursive descent of `serde_json::Deserializer`, with its nesting limit of 128 and its
reading of numbers: an integer that fits is exact, everything else is a float. What a float token
rounds to is a parameter (`floatText`): it answers the text `serde_json` would print for the
token's value, or `none` when the value is out of range.

The functions recurse on a fuel that `fromStr` takes from the length of the text; `parseValue`
spends at most two units for each character.
-/

set_option autoImplicit false

namespace LlmUniversalProxy.Json

open Lib

/-! ## Printing -/

def hexDigit (n : Nat) : Char := "0123456789abcdef".toList.getD n '0'

/-- One character of a string literal's body. -/
def escapeChar (c : Char) : List Char :=
  if c = '"' then ['\\', '"']
  else if c = '\\' then ['\\', '\\']
  else if c = '\n' then ['\\', 'n']
  else if c = '\r' then ['\\', 'r']
  else if c = '\t' then ['\\', 't']
  else if c.toNat = 8 then ['\\', 'b']
  else if c.toNat = 12 then ['\\', 'f']
  else if c.toNat < 32 then ['\\', 'u', '0', '0', hexDigit (c.toNat / 16), hexDigit (c.toNat % 16)]
  else [c]

def escapeChars (cs : List Char) : List Char := cs.flatMap escapeChar

def stringChars (s : String) : List Char := '"' :: (escapeChars s.toList ++ ['"'])

def numberChars : Number → List Char
  | .posInt n => Nat.toDigits 10 n
  | .negInt n => '-' :: Nat.toDigits 10 n.natAbs
  | .float text => text.toList

mutual

def valueChars : Value → List Char
  | .null => "null".toList
  | .bool true => "true".toList
  | .bool false => "false".toList
  | .number n => numberChars n
  | .string s => stringChars s
  | .array items => '[' :: (itemsChars items ++ [']'])
  | .object fields => '{' :: (fieldsChars fields ++ ['}'])

def itemsChars : List Value → List Char
  | [] => []
  | [v] => valueChars v
  | v :: rest => valueChars v ++ ',' :: itemsChars rest

def fieldsChars : List (String × Value) → List Char
  | [] => []
  | [(k, v)] => stringChars k ++ ':' :: valueChars v
  | (k, v) :: rest => stringChars k ++ ':' :: (valueChars v ++ ',' :: fieldsChars rest)

end

/-- `serde_json::to_string`. -/
def Value.toJson (v : Value) : String := String.ofList (valueChars v)

/-- `serde_json::to_vec(v).len()`. -/
def Value.jsonLen (v : Value) : Nat := v.toJson.utf8ByteSize

/-- `hex::encode`. -/
def hexEncode (bytes : List UInt8) : String :=
  String.ofList (bytes.flatMap fun b => [hexDigit (b.toNat / 16), hexDigit (b.toNat % 16)])

/-! ## Parsing -/

/-- JSON whitespace. -/
def isJsonSpace (c : Char) : Bool := c == ' ' || c == '\n' || c == '\t' || c == '\r'

def skipSpace : List Char → List Char
  | c :: cs => if isJsonSpace c then skipSpace cs else c :: cs
  | [] => []

def hexVal (c : Char) : Option Nat :=
  if '0' ≤ c ∧ c ≤ '9' then some (c.toNat - '0'.toNat)
  else if 'a' ≤ c ∧ c ≤ 'f' then some (c.toNat - 'a'.toNat + 10)
  else if 'A' ≤ c ∧ c ≤ 'F' then some (c.toNat - 'A'.toNat + 10)
  else none

/-- The four digits of a `\u` escape. -/
def hex4 (a b c d : Char) : Option Nat := do
  let a ← hexVal a
  let b ← hexVal b
  let c ← hexVal c
  let d ← hexVal d
  pure (((a * 16 + b) * 16 + c) * 16 + d)

/-- The character a one-letter escape stands for. -/
def simpleEscape (c : Char) : Option Char :=
  if c = '"' then some '"'
  else if c = '\\' then some '\\'
  else if c = '/' then some '/'
  else if c = 'b' then some (Char.ofNat 8)
  else if c = 'f' then some (Char.ofNat 12)
  else if c = 'n' then some '\n'
  else if c = 'r' then some '\r'
  else if c = 't' then some '\t'
  else none

/-- The text behind a literal that the input must start with. -/
def stripChars : List Char → List Char → Option (List Char)
  | [], cs => some cs
  | _ :: _, [] => none
  | l :: ls, c :: cs => if l = c then stripChars ls cs else none

/-- The UTF-16 unit of a `\u` escape. -/
def parseUnit : List Char → Option (Nat × List Char)
  | a :: b :: c :: d :: cs => (hex4 a b c d).map fun n => (n, cs)
  | _ => none

/-- The rest of a `\u` escape. A high surrogate needs its low one right behind it, and a low one
may not come first. -/
def parseUnicodeEscape (cs : List Char) : Option (Char × List Char) := do
  let (n, cs) ← parseUnit cs
  if 0xD800 ≤ n ∧ n < 0xDC00 then
    let cs ← stripChars ['\\', 'u'] cs
    let (m, cs) ← parseUnit cs
    if 0xDC00 ≤ m ∧ m < 0xE000 then
      some (Char.ofNat (0x10000 + (n - 0xD800) * 1024 + (m - 0xDC00)), cs)
    else none
  else if 0xDC00 ≤ n ∧ n < 0xE000 then none
  else some (Char.ofNat n, cs)

/-- An escape sequence behind its backslash. -/
def parseEscape : List Char → Option (Char × List Char)
  | [] => none
  | c :: cs => if c = 'u' then parseUnicodeEscape cs else (simpleEscape c).map fun e => (e, cs)

/-- The body of a string literal up to and with its closing quote. A raw control character is an
error. -/
def parseStringBody : Nat → List Char → Option (List Char × List Char)
  | 0, _ => none
  | _ + 1, [] => none
  | fuel + 1, c :: cs =>
      if c = '"' then some ([], cs)
      else if c = '\\' then do
        let (e, cs) ← parseEscape cs
        let (body, rest) ← parseStringBody fuel cs
        some (e :: body, rest)
      else if c.toNat < 32 then none
      else do
        let (body, rest) ← parseStringBody fuel cs
        some (c :: body, rest)

/-- A string literal behind its opening quote. -/
def parseString (cs : List Char) : Option (String × List Char) :=
  (parseStringBody (cs.length + 1) cs).map fun r => (String.ofList r.1, r.2)

def isDigit (c : Char) : Bool := '0' ≤ c && c ≤ '9'

def digitsVal (ds : List Char) : Nat := ds.foldl (fun n c => n * 10 + (c.toNat - '0'.toNat)) 0

/-- One or more digits. -/
def parseDigits (cs : List Char) : Option (List Char × List Char) :=
  if (cs.takeWhile isDigit).isEmpty then none
  else some (cs.takeWhile isDigit, cs.dropWhile isDigit)

/-- The fraction of a number token: empty unless a point follows. -/
def parseFraction (cs : List Char) : Option (List Char × List Char) :=
  match cs with
  | [] => some ([], [])
  | c :: rest =>
      if c = '.' then (parseDigits rest).map fun r => ('.' :: r.1, r.2) else some ([], c :: rest)

/-- The sign of an exponent. -/
def parseSign (cs : List Char) : List Char × List Char :=
  match cs with
  | [] => ([], [])
  | c :: rest => if c = '+' ∨ c = '-' then ([c], rest) else ([], c :: rest)

/-- The exponent of a number token: empty unless an `e` follows. -/
def parseExponent (cs : List Char) : Option (List Char × List Char) :=
  match cs with
  | [] => some ([], [])
  | c :: rest =>
      if c = 'e' ∨ c = 'E' then
        (parseDigits (parseSign rest).2).map fun r => (c :: (parseSign rest).1 ++ r.1, r.2)
      else some ([], c :: rest)

/-- A number token behind its sign. -/
def parseNumber (floatText : String → Option String) (negative : Bool) (cs : List Char) :
    Option (Number × List Char) := do
  let (digits, rest) ← parseDigits cs
  if digits.head? = some '0' ∧ digits.length ≠ 1 then none
  else
    let (fraction, rest) ← parseFraction rest
    let (exponent, rest) ← parseExponent rest
    let n := digitsVal digits
    let whole := fraction.isEmpty && exponent.isEmpty
    if whole ∧ negative = false ∧ n < UInt64.size then some (.posInt n, rest)
    else if whole ∧ negative = true ∧ 0 < n ∧ n ≤ UInt64.size / 2 then some (.negInt (-(n : Int)), rest)
    else
      let token := (if negative then ['-'] else []) ++ digits ++ fraction ++ exponent
      (floatText (String.ofList token)).map fun t => (.float t, rest)

mutual

/-- One value. `depth` is `remaining_depth`: entering a container costs one, and the last one is
an error. -/
def parseValue (floatText : String → Option String) :
    Nat → Nat → List Char → Option (Value × List Char)
  | 0, _, _ => none
  | fuel + 1, depth, cs =>
      match skipSpace cs with
      | [] => none
      | c :: rest =>
          if c = 'n' then (stripChars "ull".toList rest).map fun r => (.null, r)
          else if c = 't' then (stripChars "rue".toList rest).map fun r => (.bool true, r)
          else if c = 'f' then (stripChars "alse".toList rest).map fun r => (.bool false, r)
          else if c = '"' then (parseString rest).map fun r => (.string r.1, r.2)
          else if c = '-' then
            (parseNumber floatText true rest).map fun r => (.number r.1, r.2)
          else if isDigit c then
            (parseNumber floatText false (c :: rest)).map fun r => (.number r.1, r.2)
          -- only containers cost depth, so a scalar is read at any
          else if depth ≤ 1 then none
          else if c = '[' then
            match stripChars [']'] (skipSpace rest) with
            | some rest' => some (.array [], rest')
            | none => (parseItems floatText fuel (depth - 1) rest).map
                fun r => (.array r.1, r.2)
          else if c = '{' then
            match stripChars ['}'] (skipSpace rest) with
            | some rest' => some (.object [], rest')
            | none => (parseFields floatText fuel (depth - 1) [] rest).map
                fun r => (.object r.1, r.2)
          else none

/-- The items of a non-empty array, through its `]`. -/
def parseItems (floatText : String → Option String) :
    Nat → Nat → List Char → Option (List Value × List Char)
  | 0, _, _ => none
  | fuel + 1, depth, cs => do
      let (v, rest) ← parseValue floatText fuel depth cs
      match skipSpace rest with
      | [] => none
      | c :: rest =>
          if c = ']' then some ([v], rest)
          else if c = ',' then do
            let (vs, rest) ← parseItems floatText fuel depth rest
            some (v :: vs, rest)
          else none

/-- The members of a non-empty object, through its `}`, inserted into `acc` as they come: a
repeated key keeps its last value. -/
def parseFields (floatText : String → Option String) :
    Nat → Nat → List (String × Value) → List Char → Option (List (String × Value) × List Char)
  | 0, _, _, _ => none
  | fuel + 1, depth, acc, cs => do
      let rest ← stripChars ['"'] (skipSpace cs)
      let (k, rest) ← parseString rest
      let rest ← stripChars [':'] (skipSpace rest)
      let (v, rest) ← parseValue floatText fuel depth rest
      match skipSpace rest with
      | [] => none
      | c :: rest =>
          if c = '}' then some (insertSorted k v acc, rest)
          else if c = ',' then
            parseFields floatText fuel depth (insertSorted k v acc) rest
          else none

end

/-- What the model of `serde_json` leaves open: how a float token prints after a round trip through
`f64`, and what the parser says about a text that it refuses. -/
structure Serde where
  floatText : String → Option String
  errorText : String → String

/-- `serde_json::from_str::<Value>`: one value, and only whitespace after it. -/
def fromStr (serde : Serde) (s : String) : Option Value := do
  let (v, rest) ← parseValue serde.floatText (2 * s.toList.length + 2) 128 s.toList
  if (skipSpace rest).isEmpty then some v else none

example : fromStr ⟨some, fun _ => ""⟩
      "\x7b\"a\":[1,-2],\"b\":\x7b\"c\":\"\\u00e9\\n\"\x7d\x7d" =
    some (.object [("a", .array [.number (.posInt 1), .number (.negInt (-2))]),
      ("b", .object [("c", .string "é\n")])]) := by decide +kernel

end LlmUniversalProxy.Json
