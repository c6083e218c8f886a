/-
# JsonQuery.Uri.Host — the host of an address.

A host in brackets is an IPv6 address.  For the common schemes a host is a domain name, or an IPv4
address if its last part is a number; other schemes take any text without a few delimiters.
-/
import JsonQuery.Uri.Basic
import JsonQuery.Uri.Domain

namespace JsonQuery.Uri

-- Powers are those of the numbers themselves, whatever else is in scope.
attribute [local instance (high)] instPowNat

open Text (isAsciiDigit isAsciiLetter hexDigit? hexNumber?)

/-! ## IPv4 -/

/-- The value of digits in a base; none if one is no digit of it. -/
def digitsIn (base : Nat) (digits : List Char) : Option Nat :=
  digits.foldl (fun acc c => do
    let d ← hexDigit? c
    if d < base then return (← acc) * base + d else none) (some 0)

/-- A part of an IPv4 address: decimal, or octal behind a zero, or hexadecimal behind `0x`. -/
def ipv4Part? : List Char → Option Nat
  | [] => none
  | '0' :: 'x' :: rest => digitsIn 16 rest
  | '0' :: 'X' :: rest => digitsIn 16 rest
  | '0' :: c :: rest => digitsIn 8 (c :: rest)
  | digits => digitsIn 10 digits

/-- The parts of a dotted name; an empty part at the end does not count. -/
def dottedParts (host : List Char) : List (List Char) :=
  let parts := host.splitOn '.'
  if parts.getLast? = some [] then parts.dropLast else parts

/-- Whether the last part of a host is a number, so that the host must be an IPv4 address. -/
def endsInNumber (host : List Char) : Bool :=
  match (dottedParts host).getLast? with
  | some last => (!last.isEmpty && last.all isAsciiDigit) || (ipv4Part? last).isSome
  | none => false

/-- The value of an IPv4 address: every part but the last is a byte, and the last fills what is
left. -/
def ipv4? (host : List Char) : Option Nat := do
  let parts := dottedParts host
  if 4 < parts.length then none
  let numbers ← parts.mapM ipv4Part?
  let last ← numbers.getLast?
  let front := numbers.dropLast
  if 256 ^ (4 - front.length) ≤ last || front.any (255 < ·) then none
  return front.foldl (fun acc n => acc * 256 + n) 0 * 256 ^ (4 - front.length) + last

/-- The text of an IPv4 address. -/
def ipv4Text (n : Nat) : String :=
  let bytes := [n / 0x1000000 % 256, n / 0x10000 % 256, n / 0x100 % 256, n % 256]
  String.intercalate "." (bytes.map toString)

/-! ## IPv6 -/

/-- A byte of an IPv4 address inside an IPv6 address: no zeros in front. -/
def plainByte? (digits : List Char) : Option Nat :=
  if digits.isEmpty || 3 < digits.length || (digits.head? = some '0' && 1 < digits.length) then none
  else do
    let n ← digitsIn 10 digits
    if n ≤ 255 then some n else none

/-- The two pieces of an IPv4 address inside an IPv6 address. -/
def ipv4Pieces? (text : List Char) : Option (List Nat) := do
  match ← (text.splitOn '.').mapM plainByte? with
  | [a, b, c, d] => some [256 * a + b, 256 * c + d]
  | _ => none

/-- A piece of one to four hexadecimal digits. -/
def ipv6Piece? (digits : List Char) : Option Nat :=
  if 4 < digits.length then none else hexNumber? digits

/-- Pieces between colons, of which the last may be an IPv4 address. -/
def ipv6Pieces? (texts : List (List Char)) : Option (List Nat) :=
  match texts with
  | [] => some []
  | [last] => if last.contains '.' then ipv4Pieces? last else (ipv6Piece? last).map ([·])
  | text :: rest => do return (← ipv6Piece? text) :: (← ipv6Pieces? rest)

/-- The pieces of a side of the double colon; an empty side has none. -/
def ipv6Side? (text : List Char) : Option (List Nat) :=
  if text.isEmpty then some [] else ipv6Pieces? (text.splitOn ':')

/-- The text before and behind the first double colon. -/
def splitDoubleColon : List Char → Option (List Char × List Char)
  | ':' :: ':' :: rest => some ([], rest)
  | c :: rest => (splitDoubleColon rest).map fun (before, behind) => (c :: before, behind)
  | [] => none

/-- The eight pieces of an IPv6 address; a double colon stands for zeros, at least for one. -/
def ipv6? (text : List Char) : Option (List Nat) :=
  match splitDoubleColon text with
  | none => do
    let pieces ← ipv6Pieces? (text.splitOn ':')
    if pieces.length = 8 then some pieces else none
  | some (before, behind) => do
    if before.contains '.' then none
    let front ← ipv6Side? before
    let back ← ipv6Side? behind
    let missing := 8 - (front.length + back.length)
    if missing = 0 then none else some (front ++ List.replicate missing 0 ++ back)

/-- Where the first of the longest runs of at least two zeros starts, and its length. -/
def longestZeros (pieces : List Nat) : Option (Nat × Nat) :=
  let runs := (List.range pieces.length).map fun i =>
    (i, ((pieces.drop i).takeWhile (· = 0)).length)
  runs.foldl (fun best run =>
    if run.2 < 2 then best
    else match best with
      | some (_, length) => if length < run.2 then some run else best
      | none => some run) none

/-- The text of an IPv6 address. -/
def ipv6Text (pieces : List Nat) : String :=
  let colons (ns : List Nat) : String :=
    String.intercalate ":" (ns.map fun n => String.ofList (Nat.toDigits 16 n))
  match longestZeros pieces with
  | some (start, length) =>
    "[" ++ colons (pieces.take start) ++ "::" ++ colons (pieces.drop (start + length)) ++ "]"
  | none => "[" ++ colons pieces ++ "]"

/-- The host between brackets. -/
def bracketedHost (text : List Char) : Except Fault String :=
  if text.getLast? = some ']' then
    match ipv6? (text.drop 1).dropLast with
    | some pieces => .ok (ipv6Text pieces)
    | none => .error .invalidIpv6Address
  else .error .invalidIpv6Address

/-! ## Hosts -/

/-- The host of an address with a common scheme. -/
def specialHost (text : List Char) : Except Fault String :=
  if text.head? = some '[' then bracketedHost text
  else match (percentDecode? text).bind domain? with
    | none => .error .invalidDomainName
    | some domain =>
      if domain.isEmpty then .error .emptyHost
      else if endsInNumber domain then
        match ipv4? domain with
        | some n => .ok (ipv4Text n)
        | none => .error .invalidIpv4Address
      else .ok (String.ofList domain)

/-- What must not stand in the host of other schemes. -/
def isForbiddenInHost (c : Char) : Bool :=
  c.toNat = 0 || ['\t', '\n', '\r', ' ', '#', '/', ':', '<', '>', '?', '@', '[', '\\', ']', '^',
    '|'].contains c

/-- The host of an address with any other scheme. -/
def plainHost (text : List Char) : Except Fault String :=
  if text.head? = some '[' then bracketedHost text
  else if text.any isForbiddenInHost then .error .invalidDomainCharacter
  else .ok (String.ofList (percentEncode isControl text))

end JsonQuery.Uri
