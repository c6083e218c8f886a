/-
# JsonQuery.Json.Reader — reading documents.

Text is a document if it follows the grammar of RFC 8259, nests at most 127 containers, and holds no
number too large for a finite binary number.  Blanks may surround it; a byte order mark may not.  Of
members with one name the last value counts, at the place of the first.
-/
import JsonQuery.Json.Basic
import JsonQuery.Binary64.Arithmetic
import JsonQuery.Text.Basic
import JsonQuery.Text.Alphabetic

namespace JsonQuery.Json

-- Powers are those of the numbers themselves, whatever else is in scope.
attribute [local instance (high)] instPowNat

open Text (hexDigit? charOfCodePoint? isAsciiDigit)

/-- The blanks of JSON: space, tab, line feed and carriage return. -/
def isSpace (c : Char) : Bool := c == ' ' || c == '\t' || c == '\n' || c == '\r'

/-- What is left after the blanks in front. -/
def skipSpace (cs : List Char) : List Char := cs.dropWhile isSpace

/-! ## Strings -/

/-- Four hexadecimal digits and what follows them. -/
def readHex4 : List Char → Option (Nat × List Char)
  | a :: b :: c :: d :: rest => do
    return ((← hexDigit? a) * 4096 + (← hexDigit? b) * 256 + (← hexDigit? c) * 16 + (← hexDigit? d),
      rest)
  | _ => none

/-- The character of a surrogate pair. -/
def joinSurrogates (high low : Nat) : Nat := 0x10000 + (high - 0xD800) * 0x400 + (low - 0xDC00)

/-- Whether a number is the first of a surrogate pair. -/
def isHighSurrogate (n : Nat) : Bool := 0xD800 ≤ n && n ≤ 0xDBFF

/-- Whether a number is the second of a surrogate pair. -/
def isLowSurrogate (n : Nat) : Bool := 0xDC00 ≤ n && n ≤ 0xDFFF

/-- The character after `\u`, and what follows it.  A first surrogate needs the second one right
behind it, and a second one alone is no character. -/
def readUnicodeEscape (cs : List Char) : Option (Char × List Char) := do
  let (n, rest) ← readHex4 cs
  if isHighSurrogate n then
    match rest with
    | '\\' :: 'u' :: rest =>
      let (low, rest) ← readHex4 rest
      if isLowSurrogate low then return (← charOfCodePoint? (joinSurrogates n low), rest) else none
    | _ => none
  else return (← charOfCodePoint? n, rest)

/-- The character that a one-letter escape stands for. -/
def simpleEscape? (c : Char) : Option Char :=
  match c with
  | '"' => some '"'
  | '\\' => some '\\'
  | '/' => some '/'
  | 'b' => some '\x08'
  | 'f' => some '\x0c'
  | 'n' => some '\n'
  | 'r' => some '\r'
  | 't' => some '\t'
  | _ => none

/-- The characters of a string up to its closing quote, which is consumed, in reverse on top of
those read before. -/
def readString : Nat → List Char → List Char → Option (String × List Char)
  | 0, _, _ => none
  | _ + 1, _, [] => none
  | _ + 1, acc, '"' :: rest => some (String.ofList acc.reverse, rest)
  | fuel + 1, acc, '\\' :: 'u' :: rest => do
    let (c, rest) ← readUnicodeEscape rest
    readString fuel (c :: acc) rest
  | fuel + 1, acc, '\\' :: c :: rest => do
    readString fuel ((← simpleEscape? c) :: acc) rest
  | fuel + 1, acc, c :: rest =>
    if c = '\\' || c.toNat < 0x20 then none else readString fuel (c :: acc) rest

/-! ## Numbers -/

/-- The value of a digit. -/
def digitValue (c : Char) : Nat := c.toNat - 48

/-- The greatest significand that is collected. -/
def maxSignificand : Nat := 0xFFFFFFFFFFFFFFFF

/-- Collects digits while the significand fits, and tells how many did not. -/
def collect : List Char → Nat → Nat × Nat
  | [], significand => (significand, 0)
  | c :: rest, significand =>
    let next := significand * 10 + digitValue c
    if next ≤ maxSignificand then collect rest next else (significand, rest.length + 1)

/-- The powers of ten that a significand is scaled by directly. -/
def maxPower : Nat := 308

/-- `f * 10 ^ exponent` in as many rounds as the fuel says: a power in reach is multiplied or
divided by at once, a smaller one is divided off in steps.  None if the result is infinite. -/
def scaleIn : Nat → Binary64 → Int → Option Binary64
  | 0, f, _ => some f
  | fuel + 1, f, exponent =>
    if exponent.natAbs ≤ maxPower then
      let power := Binary64.ofNat (10 ^ exponent.natAbs)
      let scaled := if 0 ≤ exponent then f.mul power else f.div power
      if scaled.isFinite then some scaled else none
    else if f.isZero then some f
    else if 0 ≤ exponent then none
    else scaleIn fuel (f.div (Binary64.ofNat (10 ^ maxPower))) (exponent + maxPower)

/-- `f * 10 ^ exponent`, each step rounded; none if the result is infinite. -/
def scale (f : Binary64) (exponent : Int) : Option Binary64 :=
  scaleIn (exponent.natAbs / maxPower + 1) f exponent

/-- The greatest written exponent that is counted. -/
def maxWrittenExponent : Nat := 0x7FFFFFFF

/-- The written exponents that can be added to the digits' own without leaving the range. -/
def clampExponent (n : Int) : Int := max (-0x80000000) (min n 0x7FFFFFFF)

/-- The binary number of a numeral: its sign, its whole digits, the digits of its fraction and its
written exponent. -/
def floatNumeral (negative : Bool) (whole fraction : List Char)
    (written : Option (Bool × List Char)) : Option Binary64 := do
  let (significand, dropped) := collect whole 0
  let (significand, unread) := collect fraction significand
  let own : Int := dropped - (fraction.length - unread : Nat)
  let magnitude := Binary64.ofNat significand
  let result ← match written with
    | none => scale magnitude own
    | some (negativeExponent, digits) =>
      let n := digits.foldl (fun acc c => acc * 10 + digitValue c) 0
      if maxWrittenExponent < n then
        if significand != 0 && !negativeExponent then none else some (Binary64.zero false)
      else scale magnitude (clampExponent (if negativeExponent then own - n else own + n))
  return if negative then result.neg else result

/-- The exponent part in front, if there is one: its sign and digits.  The letter without a digit is
an error. -/
def readExponent (cs : List Char) : Option (Option (Bool × List Char) × List Char) :=
  match cs with
  | e :: rest =>
    if e = 'e' || e = 'E' then
      let (negative, rest) := match rest with
        | '-' :: rest => (true, rest)
        | '+' :: rest => (false, rest)
        | _ => (false, rest)
      match rest.takeWhile isAsciiDigit with
      | [] => none
      | digits => some (some (negative, digits), rest.dropWhile isAsciiDigit)
    else some (none, cs)
  | [] => some (none, [])

/-- The fraction in front, if there is one.  The point without a digit is an error. -/
def readFraction (cs : List Char) : Option (Option (List Char) × List Char) :=
  match cs with
  | '.' :: rest =>
    match rest.takeWhile isAsciiDigit with
    | [] => none
    | digits => some (some digits, rest.dropWhile isAsciiDigit)
  | _ => some (none, cs)

/-- The number in front and what follows it. -/
def readNumber (cs : List Char) : Option (Numeral × List Char) := do
  let (negative, cs) := match cs with
    | '-' :: rest => (true, rest)
    | _ => (false, cs)
  let whole := cs.takeWhile isAsciiDigit
  match whole with
  | [] => none
  | '0' :: _ :: _ => none
  | _ =>
    let (fraction, rest) ← readFraction (cs.dropWhile isAsciiDigit)
    let (written, rest) ← readExponent rest
    if fraction.isNone && written.isNone then
      let n : Int := whole.foldl (fun acc c => acc * 10 + digitValue c) 0
      if !negative && n < 0x10000000000000000 then return (.integer n, rest)
      if negative && 0 < n && n ≤ 0x8000000000000000 then return (.integer (-n), rest)
    return (.float (← floatNumeral negative whole (fraction.getD []) written), rest)

/-! ## Documents -/

/-- The most containers around a value. -/
def maxNesting : Nat := 127

/-- What follows a word, if the text starts with it. -/
def expect (word : List Char) (cs : List Char) : Option (List Char) :=
  if word.isPrefixOf cs then some (cs.drop word.length) else none

mutual

/-- The value in front, after blanks, and what follows it.  `depth` is how many more containers may
be opened. -/
def readValue : Nat → Nat → List Char → Option (Json × List Char)
  | 0, _, _ => none
  | fuel + 1, depth, cs =>
    match skipSpace cs with
    | [] => none
    | c :: rest =>
      if c = 'n' then do return (.null, ← expect ['u', 'l', 'l'] rest)
      else if c = 't' then do return (.bool true, ← expect ['r', 'u', 'e'] rest)
      else if c = 'f' then do return (.bool false, ← expect ['a', 'l', 's', 'e'] rest)
      else if c = '"' then do
        let (s, rest) ← readString (rest.length + 1) [] rest
        return (.string s, rest)
      else if c = '[' then
        match depth with
        | 0 => none
        | depth + 1 =>
          match skipSpace rest with
          | ']' :: rest => some (.array [], rest)
          | _ => do
            let (items, rest) ← readItems fuel depth rest
            return (.array items, rest)
      else if c = '{' then
        match depth with
        | 0 => none
        | depth + 1 =>
          match skipSpace rest with
          | '}' :: rest => some (.object [], rest)
          | _ => do
            let (members, rest) ← readMembers fuel depth [] rest
            return (.object members, rest)
      else do
        let (n, rest) ← readNumber (c :: rest)
        return (.number n, rest)

/-- The items up to the closing bracket. -/
def readItems : Nat → Nat → List Char → Option (List Json × List Char)
  | 0, _, _ => none
  | fuel + 1, depth, cs => do
    let (item, rest) ← readValue fuel depth cs
    match skipSpace rest with
    | ',' :: rest =>
      let (items, rest) ← readItems fuel depth rest
      return (item :: items, rest)
    | ']' :: rest => return ([item], rest)
    | _ => none

/-- The members up to the closing brace, on top of those read before. -/
def readMembers : Nat → Nat → List (String × Json) → List Char →
    Option (List (String × Json) × List Char)
  | 0, _, _, _ => none
  | fuel + 1, depth, members, cs => do
    match skipSpace cs with
    | '"' :: rest =>
      let (name, rest) ← readString (rest.length + 1) [] rest
      match skipSpace rest with
      | ':' :: rest =>
        let (value, rest) ← readValue fuel depth rest
        let members := Entries.put members name value
        match skipSpace rest with
        | ',' :: rest => readMembers fuel depth members rest
        | '}' :: rest => return (members, rest)
        | _ => none
      | _ => none
    | _ => none

end

/-- The document of a text. -/
def ofChars? (cs : List Char) : Option Json := do
  let (json, rest) ← readValue (cs.length + 1) maxNesting cs
  if (skipSpace rest).isEmpty then return json else none

/-- The document of a text. -/
def parse? (text : String) : Option Json := ofChars? text.toList

end JsonQuery.Json
