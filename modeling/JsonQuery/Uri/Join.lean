/-
# JsonQuery.Uri.Join — reading addresses, alone or relative to another.

Tabs and line ends are dropped wherever they stand, and blanks and control characters around a text
are cut off.  What is left is read from the front: scheme, authority, path, query and fragment.
A text without a scheme is relative to a base and takes from it what it does not say itself.
-/
import JsonQuery.Uri.Host

namespace JsonQuery.Uri

open Text (isAsciiDigit isAsciiLetter)

/-! ## Schemes -/

/-- The common schemes other than `file`, with their usual ports. -/
def usualPorts : List (String × Nat) :=
  [("http", 80), ("https", 443), ("ws", 80), ("wss", 443), ("ftp", 21)]

/-- Whether a scheme is a common one: its addresses always have a hierarchy. -/
def isSpecial (scheme : String) : Bool :=
  scheme = "file" || (usualPorts.lookup scheme).isSome

/-- The scheme in front of a text, in lower case, and what follows its colon. -/
def scheme? (text : List Char) : Option (String × List Char) :=
  let isPart (c : Char) := isAsciiLetter c || isAsciiDigit c || c = '+' || c = '-' || c = '.'
  let name := text.takeWhile isPart
  match text.drop name.length with
  | ':' :: rest =>
    if !name.head?.any isAsciiLetter then none
    else some (String.ofList (name.map Char.toLower), rest)
  | _ => none

/-- The text without what reading never looks at. -/
def cleaned (text : String) : List Char :=
  let isEdge (c : Char) := c.toNat ≤ 0x20
  (((text.toList.dropWhile isEdge).reverse.dropWhile isEdge).reverse).filter fun c =>
    c != '\t' && c != '\n' && c != '\r'

/-! ## Paths -/

/-- Whether a character separates segments; the common schemes take a backslash for a slash. -/
def isSlash (special : Bool) (c : Char) : Bool := c = '/' || (special && c = '\\')

/-- A segment that leads nowhere, up to its escapes. -/
def isSingleDot (segment : List Char) : Bool :=
  ["." , "%2e"].contains (String.ofList (segment.map Char.toLower))

/-- A segment that leads up, up to its escapes. -/
def isDoubleDot (segment : List Char) : Bool :=
  ["..", ".%2e", "%2e.", "%2e%2e"].contains (String.ofList (segment.map Char.toLower))

/-- A drive letter as a segment. -/
def isDrive (segment : List Char) : Bool :=
  match segment with
  | [letter, sign] => isAsciiLetter letter && (sign = ':' || sign = '|')
  | _ => false

/-- A drive letter in its normal form. -/
def isNormalDrive (name : String) : Bool := isDrive name.toList && name.toList[1]? = some ':'

/-- Whether a character ends a path. -/
def endsPath (c : Char) : Bool := c = '?' || c = '#'

/-- Whether a text starts with a drive letter, with nothing or a delimiter behind it. -/
def startsWithDrive (text : List Char) : Bool :=
  isDrive (text.take 2) && text[2]?.all fun c => c = '/' || c = '\\' || endsPath c

/-- Drops the last name of a path; a drive letter stays, whatever the scheme. -/
def dropLastName (names : List String) : List String :=
  if names.getLast?.any fun name => startsWithDrive name.toList then names else names.dropLast

/-- One segment after the names before it; `last` tells that no slash follows.  A drive letter gets
its normal form at the front of a file path. -/
def addSegment (file last : Bool) (names : List String) (segment : List Char) : List String :=
  if isDoubleDot segment then
    let names := dropLastName names
    if last then names ++ [""] else names
  else if isSingleDot segment then if last then names ++ [""] else names
  else if file && names.isEmpty && isDrive segment then
    names ++ [String.ofList (segment.take 1 ++ [':'])]
  else names ++ [String.ofList (percentEncode inPathSet segment)]

/-- Segments after the names before them. -/
def addSegments (file : Bool) : List String → List (List Char) → List String
  | names, [] => names
  | names, [segment] => addSegment file true names segment
  | names, segment :: rest => addSegments file (addSegment file false names segment) rest

/-- Splits a text at separators. -/
def splitSegments (special : Bool) (text : List Char) : List (List Char) :=
  (text.map fun c => if isSlash special c then '/' else c).splitOn '/'

/-- The names of a path text that continues some names; empty names at the front of a file path are
dropped. -/
def pathNames (scheme : String) (names : List String) (text : List Char) : List String :=
  let file := scheme = "file"
  let names := addSegments file names (splitSegments (isSpecial scheme) text)
  if file then
    match names.dropWhile (·.isEmpty) with
    | [] => [""]
    | names => names
  else names

/-! ## Query and fragment -/

/-- A text before the first character of a kind, and from there on. -/
def splitBefore (stop : Char → Bool) (text : List Char) : List Char × List Char :=
  (text.takeWhile (!stop ·), text.dropWhile (!stop ·))

/-- The text of a fragment. -/
def fragmentText (text : List Char) : String := String.ofList (percentEncode inFragmentSet text)

/-- The query and the fragment that a text from `?` or `#` on writes. -/
def queryAndFragment (scheme : String) (text : List Char) : Option String × Option String :=
  let fragment : List Char → Option String
    | _ :: rest => some (fragmentText rest)
    | [] => none
  match text with
  | '?' :: rest =>
    let (query, behind) := splitBefore (· = '#') rest
    let escaped := if isSpecial scheme then inSpecialQuerySet else inQuerySet
    (some (String.ofList (percentEncode escaped query)), fragment behind)
  | behind => (none, fragment behind)

/-- An address whose path, query and fragment are still to be read. -/
def finish (scheme : String) (authority : Option Authority) (names : List String)
    (text : List Char) : Uri :=
  let (path, rest) := splitBefore endsPath text
  let (query, fragment) := queryAndFragment scheme rest
  ⟨scheme, authority, .segments (pathNames scheme names path), query, fragment⟩

/-! ## Authorities -/

/-- The user of an authority with the sign behind it, and what follows.  The last sign in the
authority counts. -/
def userInfo (special : Bool) (text : List Char) : Except Fault (String × List Char) :=
  let (authority, _) := splitBefore (fun c => isSlash special c || endsPath c) text
  match authority.reverse.dropWhile (· != '@') with
  | [] => .ok ("", text)
  | _ :: reversed =>
    let user := reversed.reverse
    let rest := text.drop (user.length + 1)
    if user.isEmpty then
      if rest.head?.any fun c => isSlash special c || endsPath c then .error .emptyHost
      else .ok ("", rest)
    else
      let (name, password) := splitBefore (· = ':') user
      let password := password.drop 1
      let text := percentEncode inUserSet name
        ++ (if password.isEmpty then [] else ':' :: percentEncode inUserSet password)
      .ok (if text.isEmpty then "" else String.ofList (text ++ ['@']), rest)

/-- How many characters of a text belong to its host: up to a delimiter or to a colon that is not in
brackets. -/
def hostLength (special : Bool) : Bool → List Char → Nat
  | _, [] => 0
  | inBrackets, c :: rest =>
    if isSlash special c || endsPath c || (c = ':' && !inBrackets) then 0
    else
      let inBrackets := if c = '[' then true else if c = ']' then false else inBrackets
      hostLength special inBrackets rest + 1

/-- The port at the front of a text, and what follows. -/
def readPort (scheme : String) (text : List Char) : Except Fault (Option Nat × List Char) :=
  let digits := text.takeWhile isAsciiDigit
  let rest := text.drop digits.length
  let n := digits.foldl (fun acc c => acc * 10 + (c.toNat - 48)) 0
  if 65535 < n then .error .invalidPort
  else if rest.head?.any fun c => !(c = '/' || c = '\\' || c = '?' || c = '#') then
    .error .invalidPort
  else .ok (if digits.isEmpty || usualPorts.lookup scheme = some n then none else some n, rest)

/-- The authority of an address and what follows it. -/
def readAuthority (scheme : String) (text : List Char) : Except Fault (Authority × List Char) := do
  let special := isSpecial scheme
  let (user, text) ← userInfo special text
  let length := hostLength special false text
  let hostText := text.take length
  let rest := text.drop length
  if special && hostText.isEmpty then throw .emptyHost
  let host ← if special then specialHost hostText else plainHost hostText
  match rest with
  | ':' :: rest =>
    if host.isEmpty then throw .emptyHost
    let (port, rest) ← readPort scheme rest
    return (⟨user, host, port⟩, rest)
  | _ =>
    if host.isEmpty && !user.isEmpty then throw .emptyHost
    return (⟨user, host, none⟩, rest)

/-- An address from behind the two slashes that announce its authority. -/
def afterSlashes (scheme : String) (text : List Char) : Except Fault Uri := do
  let (a, rest) ← readAuthority scheme text
  match rest with
  | [] => return ⟨scheme, some a, .segments (if isSpecial scheme then [""] else []), none, none⟩
  | c :: behind =>
    if isSlash (isSpecial scheme) c then return finish scheme (some a) [] behind
    else if endsPath c && !isSpecial scheme then
      let (query, fragment) := queryAndFragment scheme rest
      return ⟨scheme, some a, .segments [], query, fragment⟩
    else return finish scheme (some a) [] rest

/-! ## Files -/

/-- An authority without user, host and port. -/
def noHost : Authority := ⟨"", "", none⟩

/-- Whether the names of a file path begin with a drive letter, as it is read. -/
def beginsWithDrive (text : List Char) : Bool :=
  let (path, _) := splitBefore endsPath text
  (addSegments true [] (splitSegments true path)).head?.any isNormalDrive

/-- A file address from behind the two slashes that announce its host.  Without a host the slash
before the path counts as an empty first name, which is dropped in the end.  A host gives way to a
drive letter. -/
def fileAfterSlashes (text : List Char) : Except Fault Uri := do
  let (hostText, rest) := splitBefore (fun c => isSlash true c || endsPath c) text
  if isDrive hostText then return finish "file" (some noHost) [] text
  else if hostText.isEmpty then return finish "file" (some noHost) [] rest
  else
    let host ← specialHost hostText
    if host = "localhost" then return finish "file" (some noHost) [] rest
    else
      let behind := if rest.head?.any (isSlash true) then rest.drop 1 else rest
      let authority := if beginsWithDrive behind then noHost else ⟨"", host, none⟩
      return finish "file" (some authority) [] behind

/-- A text relative to a drive letter in the last place of a file path, with that letter.  Where
other names come before it, it is a name to be continued, and dots leave it as it is. -/
def behindDrive (first : Bool) (drive text : List Char) : List Char :=
  let (segment, rest) := splitBefore (fun c => isSlash true c || endsPath c) text
  if first then drive ++ '/' :: text
  else if isDoubleDot segment then drive ++ rest
  else if isSingleDot segment then
    drive ++ '/' :: (if rest.head?.any (isSlash true) then rest.drop 1 else rest)
  else drive ++ text

/-- A file address from behind its scheme, or a text relative to a file. -/
def file (base : Option Uri) (text : List Char) : Except Fault Uri :=
  match text with
  | c :: d :: rest =>
    if isSlash true c && isSlash true d then fileAfterSlashes rest
    else .ok (single c (d :: rest))
  | [c] => .ok (single c [])
  | [] => .ok (match base with
    | some b => { b with fragment := none }
    | none => finish "file" (some noHost) [] [])
where
  single (c : Char) (rest : List Char) : Uri :=
    let text := c :: rest
    match base with
    | some b =>
      if isSlash true c then
        if startsWithDrive rest then finish "file" (some noHost) [] rest
        else match b.path.names with
          | first :: _ =>
            if isNormalDrive first then finish "file" (some noHost) [first] rest
            else finish "file" b.authority [] rest
          | [] => finish "file" b.authority [] rest
      else if c = '?' then
        let (query, fragment) := queryAndFragment "file" text
        { b with query := query, fragment := fragment }
      else if c = '#' then { b with fragment := some (fragmentText rest) }
      else if startsWithDrive text then finish "file" (some noHost) [] text
      else
        let names := b.path.names.dropLast
        match b.path.names.getLast?.filter isNormalDrive with
        | some drive =>
          finish "file" b.authority names (behindDrive names.isEmpty drive.toList text)
        | none => finish "file" b.authority names text
    | none => finish "file" (some noHost) [] (if isSlash true c then rest else text)

/-! ## Whole addresses -/

/-- A text relative to a base that is no file and names a hierarchy. -/
def relative (base : Uri) (text : List Char) : Except Fault Uri :=
  match text with
  | [] => .ok { base with fragment := none }
  | '?' :: _ =>
    let (query, fragment) := queryAndFragment base.scheme text
    .ok { base with query := query, fragment := fragment }
  | '#' :: rest => .ok { base with fragment := some (fragmentText rest) }
  | c :: rest =>
    if isSlash true c then
      if rest.head?.any (isSlash true) then
        afterSlashes base.scheme
          (if ['/', '/'].isPrefixOf text then text.drop 2 else text.dropWhile (isSlash true))
      else .ok (finish base.scheme base.authority [] rest)
    else .ok (finish base.scheme base.authority base.path.names.dropLast text)

/-- An address that starts with its scheme. -/
def absolute (base : Option Uri) (scheme : String) (rest : List Char) : Except Fault Uri :=
  if scheme = "file" then file (base.filter (·.scheme = "file")) rest
  else if isSpecial scheme then
    match base with
    | some b =>
      if (rest.takeWhile (isSlash true)).length < 2 && b.scheme = scheme then relative b rest
      else afterSlashes scheme (rest.dropWhile (isSlash true))
    | none => afterSlashes scheme (rest.dropWhile (isSlash true))
  else match rest with
    | '/' :: '/' :: behind => afterSlashes scheme behind
    | '/' :: behind => .ok (finish scheme none [] behind)
    | _ =>
      let (path, behind) := splitBefore endsPath rest
      let (query, fragment) := queryAndFragment scheme behind
      .ok ⟨scheme, none, .plain (String.ofList (percentEncode isControl path)), query, fragment⟩

/-- The address of a text, relative to a base if there is one. -/
def read (base : Option Uri) (text : String) : Except Fault Uri :=
  let cs := cleaned text
  match scheme? cs with
  | some (scheme, rest) => absolute base scheme rest
  | none =>
    match base with
    | none => .error .relativeWithoutBase
    | some b =>
      match cs with
      | '#' :: rest => .ok { b with fragment := some (fragmentText rest) }
      | _ =>
        if b.isPlain then .error .relativeToPlainPath
        else if b.scheme = "file" then file (some b) cs
        else relative b cs

/-- The address that a text stands for at a base. -/
def join (base : Uri) (text : String) : Except Fault Uri := read (some base) text

/-- The fragment without its escapes; one that is no text without them stays as it is. -/
def decodedFragment (u : Uri) : String :=
  match u.fragment with
  | none => ""
  | some f => ((percentDecode? f.toList).map String.ofList).getD f

end JsonQuery.Uri
