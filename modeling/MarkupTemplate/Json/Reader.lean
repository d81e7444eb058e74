import MarkupTemplate.Json.Basic
import MarkupTemplate.Number.Reading

/-!
# Reading JSON text

`Json.ofText?` reads one value that takes up a whole text, white space around it apart. The values
of a text are nested no deeper than `depthLimit`. A number without a fraction and an exponent is an
integer if it fits 64 bits with or without a sign; minus zero is a floating-point number. A field
that an object has twice keeps its last value.

Templates take values as they are. Only a program that is given its values as text has to read them,
and no result is about this reader.
-/

namespace MarkupTemplate.Json

/-- White space between the parts of a JSON text. -/
def isSpace (c : Char) : Bool := c = ' ' || c = '\n' || c = '\r' || c = '\t'

/-- A text without the white space it begins with. -/
def skipSpace (t : Text) : Text := t.dropWhile isSpace

/-- Take a constant text off the front. -/
def expect? (constant : Text) (t : Text) : Option Text :=
  if constant.isPrefixOf t then some (t.drop constant.length) else none

/-! ### Strings -/

/-- The value of a hexadecimal digit. -/
def hexValue? (c : Char) : Option Nat :=
  if '0' ≤ c ∧ c ≤ '9' then some (c.toNat - '0'.toNat)
  else if 'a' ≤ c ∧ c ≤ 'f' then some (c.toNat - 'a'.toNat + 10)
  else if 'A' ≤ c ∧ c ≤ 'F' then some (c.toNat - 'A'.toNat + 10)
  else none

/-- A number in four hexadecimal digits, and the rest. -/
def hexWord? : Text → Option (Nat × Text)
  | a :: b :: c :: d :: rest => do
    let a ← hexValue? a
    let b ← hexValue? b
    let c ← hexValue? c
    let d ← hexValue? d
    pure (((a * 16 + b) * 16 + c) * 16 + d, rest)
  | _ => none

/-- The character of an escaped UTF-16 unit, or of a pair of them, and the rest. A surrogate
without its partner is no character. -/
def escapedUnits? (t : Text) : Option (Char × Text) := do
  let (high, rest) ← hexWord? t
  if 0xD800 ≤ high ∧ high < 0xDC00 then
    let rest ← expect? ['\\', 'u'] rest
    let (low, rest) ← hexWord? rest
    if 0xDC00 ≤ low ∧ low < 0xE000 then
      some (Char.ofNat (0x10000 + (high - 0xD800) * 0x400 + (low - 0xDC00)), rest)
    else none
  else if 0xDC00 ≤ high ∧ high < 0xE000 then none
  else some (Char.ofNat high, rest)

/-- The character behind a backslash, and the rest. -/
def escaped? : Text → Option (Char × Text)
  | 'u' :: rest => escapedUnits? rest
  | c :: rest =>
    if c = '"' ∨ c = '\\' ∨ c = '/' then some (c, rest)
    else if c = 'b' then some ('\x08', rest)
    else if c = 'f' then some ('\x0C', rest)
    else if c = 'n' then some ('\n', rest)
    else if c = 'r' then some ('\r', rest)
    else if c = 't' then some ('\t', rest)
    else none
  | [] => none

/-- The characters of a string up to its closing quotation mark, behind those already read, and the
rest of the text. The fuel bounds the number of characters. -/
def string? : Nat → List Char → Text → Option (Text × Text)
  | 0, _, _ => none
  | _ + 1, _, [] => none
  | fuel + 1, done, c :: rest =>
    if c = '"' then some (done.reverse, rest)
    else if c = '\\' then
      match escaped? rest with
      | some (c, rest) => string? fuel (c :: done) rest
      | none => none
    else if c.toNat < 0x20 then none
    else string? fuel (c :: done) rest

/-! ### Numbers -/

/-- The fraction of a numeral, if it has one, and the rest. -/
def fraction? : Text → Option (Option Text × Text)
  | '.' :: rest =>
    let digits := rest.takeWhile Text.isDigit
    if digits = [] then none else some (some digits, rest.dropWhile Text.isDigit)
  | t => some (none, t)

/-- The exponent of a numeral, if it has one, and the rest. -/
def exponent? : Text → Option (Option (Bool × Text) × Text)
  | c :: rest =>
    if c = 'e' ∨ c = 'E' then
      let (negative, rest) := match rest with
        | '-' :: r => (true, r)
        | '+' :: r => (false, r)
        | r => (false, r)
      let digits := rest.takeWhile Text.isDigit
      if digits = [] then none else some (some (negative, digits), rest.dropWhile Text.isDigit)
    else some (none, c :: rest)
  | [] => some (none, [])

/-- The integer of a numeral without fraction and exponent, if it fits 64 bits. -/
def integer? (negative : Bool) (whole : Text) : Option Int :=
  let n := Text.toNat whole
  if negative then (if 0 < n ∧ n ≤ Nat.pow 2 63 then some (-(n : Int)) else none)
  else if n < Nat.pow 2 64 then some (n : Int) else none

/-- A number, and the rest. -/
def number? (t : Text) : Option (Json × Text) := do
  let (negative, t) := match t with
    | '-' :: r => (true, r)
    | r => (false, r)
  let whole := t.takeWhile Text.isDigit
  if whole = [] then none
  else if whole.head? = some '0' ∧ 1 < whole.length then none
  else
    let (fraction, rest) ← fraction? (t.dropWhile Text.isDigit)
    let (exponent, rest) ← exponent? rest
    let asFloat := (Numeral.float? ⟨negative, whole, fraction.getD [], exponent⟩).map Json.float
    let value ← match fraction, exponent with
      | none, none => ((integer? negative whole).map Json.integer).or asFloat
      | _, _ => asFloat
    pure (value, rest)

/-! ### Values -/

/-- How deeply arrays and objects may be nested. -/
def depthLimit : Nat := 127

mutual
/-- A value, and the rest. The fuel bounds the number of steps, and `depth` the nesting. -/
def value? : Nat → Nat → Text → Option (Json × Text)
  | 0, _, _ => none
  | fuel + 1, depth, t =>
    match skipSpace t with
    | [] => none
    | '"' :: rest => (string? fuel [] rest).map fun (s, rest) => (string s, rest)
    | '[' :: rest =>
      match depth, skipSpace rest with
      | 0, _ => none
      | _, ']' :: rest => some (array [], rest)
      | depth + 1, _ => (items? fuel depth rest).map fun (items, rest) => (array items, rest)
    | '\x7b' :: rest =>
      match depth, skipSpace rest with
      | 0, _ => none
      | _, '\x7d' :: rest => some (object [], rest)
      | depth + 1, _ =>
        (fields? fuel depth rest).map fun (fields, rest) => (object (sortFields fields), rest)
    | 'n' :: rest => (expect? (txt "ull") rest).map (null, ·)
    | 't' :: rest => (expect? (txt "rue") rest).map (bool true, ·)
    | 'f' :: rest => (expect? (txt "alse") rest).map (bool false, ·)
    | t => number? t

/-- The items of an array up to its closing bracket, at least one, and the rest. -/
def items? : Nat → Nat → Text → Option (List Json × Text)
  | 0, _, _ => none
  | fuel + 1, depth, t =>
    match value? fuel depth t with
    | none => none
    | some (item, rest) =>
      match skipSpace rest with
      | ',' :: rest => (items? fuel depth rest).map fun (items, rest) => (item :: items, rest)
      | ']' :: rest => some ([item], rest)
      | _ => none

/-- The fields of an object up to its closing brace, at least one, and the rest. -/
def fields? : Nat → Nat → Text → Option (List (Text × Json) × Text)
  | 0, _, _ => none
  | fuel + 1, depth, t =>
    match skipSpace t with
    | '"' :: rest =>
      match string? fuel [] rest with
      | none => none
      | some (name, rest) =>
        match skipSpace rest with
        | ':' :: rest =>
          match value? fuel depth rest with
          | none => none
          | some (value, rest) =>
            match skipSpace rest with
            | ',' :: rest =>
              (fields? fuel depth rest).map fun (fields, rest) => ((name, value) :: fields, rest)
            | '\x7d' :: rest => some ([(name, value)], rest)
            | _ => none
        | _ => none
    | _ => none
end

/-- The value that a text holds. Each step of the reader takes a character or goes one level down,
so twice the length of the text is fuel enough. -/
def ofText? (t : Text) : Option Json :=
  match value? (2 * t.length + 2) depthLimit t with
  | some (value, rest) => if skipSpace rest = [] then some value else none
  | none => none

end MarkupTemplate.Json
