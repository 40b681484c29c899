/-
The tokens of JSON texts.

`Token.scan` reads a text character by character with a small state: between
tokens, in a bare word, or in a string literal and its escapes.  A bare word is
a maximal run of the characters that numbers and the three names are made of.
-/
import TableGateway.Json.Basic
import TableGateway.Number.Numeral

namespace TableGateway.Json

/-- A token: a bracket or mark, a scalar value, or a string literal, which is a
value or the name of a field. -/
inductive Token where
  | openArray
  | closeArray
  | openObject
  | closeObject
  | comma
  | colon
  | text (s : String)
  | scalar (v : Json)

namespace Token

/-- The number a bare word spells: an integer if it has neither point nor
exponent and fits 64 bits, else a floating-point number.  Minus zero is
floating-point, as no integer has a signed zero; a number past the largest
double is refused. -/
def number? (word : List Char) : Option Json := do
  let n ← Numeral.strict? word
  if n.isInteger then
    if n.negative ∧ n.toInt = 0 then
      return .ofBinary64 n.toBinary64
    match WideInt.ofInt? n.toInt with
    | some i => return .integer i
    | none => pure ()
  let x ← if n.isInteger ∧ n.significand < UInt64.size then some n.toBinary64 else n.approximate
  (FiniteFloat.ofBinary64? x).map .float

/-- The value of a bare word. -/
def ofWord? (word : List Char) : Option Token :=
  if word = ['n', 'u', 'l', 'l'] then some (.scalar .null)
  else if word = ['t', 'r', 'u', 'e'] then some (.scalar (.bool true))
  else if word = ['f', 'a', 'l', 's', 'e'] then some (.scalar (.bool false))
  else (number? word).map .scalar

/-- The characters that bare words are made of. -/
def isWordChar (c : Char) : Bool :=
  c.isAlphanum || c == '-' || c == '+' || c == '.'

/-- JSON has four blanks. -/
def isBlank (c : Char) : Bool :=
  c == ' ' || c == '\t' || c == '\n' || c == '\r'

/-- The token of a mark. -/
def ofMark? (c : Char) : Option Token :=
  if c = '[' then some openArray
  else if c = ']' then some closeArray
  else if c = '\x7b' then some openObject
  else if c = '\x7d' then some closeObject
  else if c = ',' then some comma
  else if c = ':' then some colon
  else none

/-- Where the scanner stands.  Characters collected so far are held last first. -/
inductive Place where
  | between
  | word (soFar : List Char)
  /-- In a string literal. -/
  | literal (soFar : List Char)
  /-- After a backslash. -/
  | escape (soFar : List Char)
  /-- In the digits of a code unit: how many are left, and its value so far. -/
  | unit (soFar : List Char) (left : Nat) (value : Nat) (high : Option Nat)
  /-- After the first half of a surrogate pair, before the backslash. -/
  | half (soFar : List Char) (high : Nat)
  /-- After the backslash of the second half. -/
  | halfEscape (soFar : List Char) (high : Nat)

/-- The value of a hexadecimal digit. -/
def hex? (c : Char) : Option Nat :=
  if c.isDigit then some (c.toNat - 48)
  else if 'a' ≤ c ∧ c ≤ 'f' then some (c.toNat - 87)
  else if 'A' ≤ c ∧ c ≤ 'F' then some (c.toNat - 55)
  else none

/-- The character of a one-letter escape. -/
def escaped? (c : Char) : Option Char :=
  if c = '"' then some '"'
  else if c = '\\' then some '\\'
  else if c = '/' then some '/'
  else if c = 'b' then some '\x08'
  else if c = 'f' then some '\x0c'
  else if c = 'n' then some '\n'
  else if c = 'r' then some '\r'
  else if c = 't' then some '\t'
  else none

/-- Goes on after a complete code unit: a plain character, the first half of a
surrogate pair, or its second half; halves that do not pair up are refused. -/
def afterUnit (soFar : List Char) (value : Nat) : Option Nat → Option Place
  | none =>
      if 0xD800 ≤ value ∧ value < 0xDC00 then some (.half soFar value)
      else if 0xDC00 ≤ value ∧ value < 0xE000 then none
      else some (.literal (Char.ofNat value :: soFar))
  | some high =>
      if 0xDC00 ≤ value ∧ value < 0xE000 then
        some (.literal
          (Char.ofNat (0x10000 + (high - 0xD800) * 0x400 + (value - 0xDC00)) :: soFar))
      else none

/-- A character that stands between tokens. -/
def start (c : Char) : Option (List Token × Place) :=
  if isBlank c then some ([], .between)
  else if c = '"' then some ([], .literal [])
  else if isWordChar c then some ([], .word [c])
  else (ofMark? c).map fun t => ([t], .between)

/-- One character further: the tokens it completes and the new place. -/
def step (c : Char) : Place → Option (List Token × Place)
  | .between => start c
  | .word soFar =>
      if isWordChar c then some ([], .word (c :: soFar))
      else do
        let t ← ofWord? soFar.reverse
        let (ts, place) ← start c
        return (t :: ts, place)
  | .literal soFar =>
      if c = '"' then some ([.text (String.ofList soFar.reverse)], .between)
      else if c = '\\' then some ([], .escape soFar)
      else if c.toNat < 32 then none
      else some ([], .literal (c :: soFar))
  | .escape soFar =>
      if c = 'u' then some ([], .unit soFar 4 0 none)
      else (escaped? c).map fun e => ([], .literal (e :: soFar))
  | .unit soFar left value high => do
      let d ← hex? c
      let value := value * 16 + d
      if left ≤ 1 then return ([], ← afterUnit soFar value high)
      else return ([], .unit soFar (left - 1) value high)
  | .half soFar high => if c = '\\' then some ([], .halfEscape soFar high) else none
  | .halfEscape soFar high => if c = 'u' then some ([], .unit soFar 4 0 (some high)) else none

/-- What the end of the text completes. -/
def finish : Place → Option (List Token)
  | .between => some []
  | .word soFar => (ofWord? soFar.reverse).map fun t => [t]
  | _ => none

/-- The tokens of a text from a given place on, after those found before, which
are held last first. -/
def scanFrom (found : List Token) (place : Place) : List Char → Option (List Token)
  | [] => (finish place).map fun ts => (ts.reverse ++ found).reverse
  | c :: cs =>
      match step c place with
      | none => none
      | some (ts, place) => scanFrom (ts.reverse ++ found) place cs

/-- The tokens of a text, if all of it is made of tokens. -/
def scan (text : String) : Option (List Token) :=
  scanFrom [] .between text.toList

end Token

end TableGateway.Json
