/-
# JsonQuery.Pattern.Parser — reading regular expressions.

The usual notation: alternatives, concatenation, repetition, groups, bracketed sets, escapes and
inline flags.  Reading keeps the flags in force; they are settled in the sets and tests that come
out, so that matching knows no flags.  A flag that is set inside a group holds up to the group's
end.
-/
import JsonQuery.Pattern.Automaton
import JsonQuery.Pattern.Normal
import JsonQuery.Pattern.Property

namespace JsonQuery.Pattern

open Text (isBlank hexDigit? hexNumber? charOfCodePoint? isAsciiDigit isAsciiLetter)

/-- Why a text is no pattern. -/
inductive Fault where
  | nothingToRepeat
  | unclosedRepetition
  | invalidRepetition
  | unclosedGroup
  | unopenedGroup
  | lookAround
  | invalidGroupName
  | invalidFlags
  | invalidEscape
  | unknownProperty
  | unclosedSet
  | invalidSet
  | nestingTooDeep
  | notUnicode
  | tooLarge
  deriving DecidableEq, Repr

/-- The wording of a fault. -/
def Fault.message : Fault → String
  | .nothingToRepeat => "repetition operator without an expression"
  | .unclosedRepetition => "unclosed counted repetition"
  | .invalidRepetition => "invalid repetition count"
  | .unclosedGroup => "unclosed group"
  | .unopenedGroup => "unopened group"
  | .lookAround => "look-around is not supported"
  | .invalidGroupName => "invalid group name"
  | .invalidFlags => "invalid flags"
  | .invalidEscape => "invalid escape sequence"
  | .unknownProperty => "unknown character property"
  | .unclosedSet => "unclosed character set"
  | .invalidSet => "invalid character set"
  | .nestingTooDeep => "pattern nesting is too deep"
  | .notUnicode => "pattern may match part of a character"
  | .tooLarge => "pattern is too large"

/-- The flags in force. -/
structure Flags where
  /-- `i`: letter case does not matter. -/
  ignoreCase : Bool := false
  /-- `m`: `^` and `$` also match at line ends. -/
  multiLine : Bool := false
  /-- `s`: the dot also matches a line feed. -/
  dotAll : Bool := false
  /-- `x`: blanks and comments in the pattern mean nothing. -/
  spaced : Bool := false
  /-- `u`: classes and letter case follow Unicode. -/
  unicode : Bool := true
  /-- `R`: carriage returns end lines too. -/
  carriageReturns : Bool := false
  /-- `U`: repetition is greedy exactly where a question mark follows it. -/
  swapGreed : Bool := false
  deriving DecidableEq, Repr

/-- Sets a flag by its letter. -/
def Flags.set (f : Flags) (letter : Char) (on : Bool) : Flags :=
  match letter with
  | 'i' => { f with ignoreCase := on }
  | 'm' => { f with multiLine := on }
  | 's' => { f with dotAll := on }
  | 'x' => { f with spaced := on }
  | 'u' => { f with unicode := on }
  | 'R' => { f with carriageReturns := on }
  | 'U' => { f with swapGreed := on }
  | _ => f

/-- What is left of the pattern, the flags in force, the group names seen, and the number of groups
seen. -/
structure Scan where
  rest : List Char
  flags : Flags
  names : List (List Char) := []
  groups : Nat := 0

/-- Reading a part of a pattern. -/
abbrev Scanner := StateT Scan (Except Fault)

/-- The greatest nesting of a pattern. -/
def maxPatternNesting : Nat := 250

namespace Scanner

/-! ## Characters -/

/-- Stops with a fault. -/
def fail {α : Type} (fault : Fault) : Scanner α := throw fault

/-- The next character. -/
def peek : Scanner (Option Char) := return (← get).rest.head?

/-- Steps over one character. -/
def advance : Scanner Unit := modify fun s => { s with rest := s.rest.tail }

/-- Steps over a text if it comes next. -/
def accept (text : List Char) : Scanner Bool := do
  let s ← get
  if text.isPrefixOf s.rest then
    set { s with rest := s.rest.drop text.length }
    return true
  else return false

/-- The text behind blanks and comments. -/
def skipSpacing : Nat → List Char → List Char
  | 0, cs => cs
  | n + 1, cs =>
    match cs with
    | [] => []
    | c :: rest =>
      if isBlank c then skipSpacing n rest
      else if c = '#' then skipSpacing n ((rest.dropWhile (· != '\n')).drop 1)
      else c :: rest

/-- Steps over blanks and comments where they mean nothing. -/
def skipIgnored : Scanner Unit :=
  modify fun s => if s.flags.spaced then { s with rest := skipSpacing s.rest.length s.rest } else s

/-- Steps over one character and what may be ignored behind it. -/
def advanceSkipping : Scanner Unit := do
  advance
  skipIgnored

/-- The next character, or a fault at the end. -/
def demand (fault : Fault) : Scanner Char := do
  match ← peek with
  | some c => return c
  | none => fail fault

/-! ## Sets and tests under flags -/

/-- A set with all its case variants, if letter case does not matter. -/
def foldCase (s : CharSet) : Scanner CharSet := do
  let flags := (← get).flags
  return if !flags.ignoreCase then s else if flags.unicode then s.anyCase else s.anyAsciiCase

/-- A set that must not reach past ASCII unless classes follow Unicode. -/
def checkUnicode (s : CharSet) : Scanner CharSet := do
  if (← get).flags.unicode || s.isAscii then return s else fail .notUnicode

/-- A set or its complement, case variants first. -/
def foldAndComplement (negated : Bool) (s : CharSet) : Scanner CharSet := do
  let s ← foldCase s
  checkUnicode (if negated then s.complement else s)

/-- The set of one character in brackets, without case variants. -/
def single (c : Char) : Scanner CharSet := checkUnicode (.single c.toNat)

/-- The set of the dot. -/
def dotSet : Scanner CharSet := do
  let flags := (← get).flags
  if !flags.unicode then fail .notUnicode
  else if flags.dotAll then return .any
  else if flags.carriageReturns then return ((CharSet.single 0x0A).union (.single 0x0D)).complement
  else return (CharSet.single 0x0A).complement

/-- The test of `^`. -/
def lineStart : Scanner Look := do
  let flags := (← get).flags
  return if !flags.multiLine then .textStart
    else if flags.carriageReturns then .anyLineStart else .lineStart

/-- The test of `$`. -/
def lineEnd : Scanner Look := do
  let flags := (← get).flags
  return if !flags.multiLine then .textEnd
    else if flags.carriageReturns then .anyLineEnd else .lineEnd

/-- The set of `\d`, `\s`, `\w` and their complements. -/
def shorthand (letter : Char) : Scanner CharSet := do
  let unicode := (← get).flags.unicode
  let s : CharSet :=
    if letter.toLower = 'd' then if unicode then .digits else .asciiDigits
    else if letter.toLower = 's' then if unicode then .blanks else .asciiBlanks
    else if unicode then .wordChars
    else .asciiWordChars
  checkUnicode (if letter.isUpper then s.complement else s)

/-- The set of a class name, `[:alpha:]`. -/
def asciiClass? (name : List Char) : Option CharSet :=
  match String.ofList name with
  | "alnum" => some (CharSet.asciiDigits.union .asciiLetters)
  | "alpha" => some .asciiLetters
  | "ascii" => some (.range 0 0x7F)
  | "blank" => some ((CharSet.single 0x09).union (.single 0x20))
  | "cntrl" => some ((CharSet.range 0 0x1F).union (.single 0x7F))
  | "digit" => some .asciiDigits
  | "graph" => some (.range 0x21 0x7E)
  | "lower" => some (.range 0x61 0x7A)
  | "print" => some (.range 0x20 0x7E)
  | "punct" => some ((CharSet.range 0x21 0x7E).diff (CharSet.asciiDigits.union .asciiLetters))
  | "space" => some .asciiBlanks
  | "upper" => some (.range 0x41 0x5A)
  | "word" => some .asciiWordChars
  | "xdigit" => some (.unionOf [.asciiDigits, .range 0x41 0x46, .range 0x61 0x66])
  | _ => none

/-! ## Escapes -/

/-- What one character or escape stands for. -/
inductive Atom where
  /-- A character. -/
  | char (c : Char)
  /-- A shorthand or a property. -/
  | set (s : CharSet)
  | look (l : Look)

/-- The character of a code point in hexadecimal digits. -/
def hexChar (digits : List Char) : Scanner Char :=
  match hexNumber? digits with
  | some n => match charOfCodePoint? n with
    | some c => return c
    | none => fail .invalidEscape
  | none => fail .invalidEscape

/-- A number of hexadecimal digits. -/
def hexDigits : Nat → Scanner (List Char)
  | 0 => return []
  | n + 1 => do
    let c ← demand .invalidEscape
    if (hexDigit? c).isNone then fail .invalidEscape
    advanceSkipping
    return c :: (← hexDigits n)

/-- Hexadecimal digits up to a closing brace, which is consumed. -/
def bracedHexDigits : Nat → Scanner (List Char)
  | 0 => fail .invalidEscape
  | fuel + 1 => do
    let c ← demand .invalidEscape
    if c = '}' then
      advanceSkipping
      return []
    else if (hexDigit? c).isNone then fail .invalidEscape
    else
      advanceSkipping
      return c :: (← bracedHexDigits fuel)

/-- The character of `\x`, `\u` or `\U`; the letter is next.  Unless classes follow Unicode, two
digits name a byte, and a byte past ASCII is no character. -/
def hexEscape (digits : Nat) : Scanner Char := do
  advanceSkipping
  if (← peek) = some '{' then
    advanceSkipping
    hexChar (← bracedHexDigits ((← get).rest.length + 1))
  else
    let c ← hexChar (← hexDigits digits)
    if digits = 2 && 0x80 ≤ c.toNat && !(← get).flags.unicode then fail .notUnicode
    return c

/-- The text up to a closing brace, which is consumed; blanks may be ignored between characters. -/
def bracedText : Nat → Scanner (List Char)
  | 0 => fail .invalidEscape
  | fuel + 1 => do
    let c ← demand .invalidEscape
    if c = '}' then
      advance
      return []
    else
      advanceSkipping
      return c :: (← bracedText fuel)

/-- The set of `\p` or `\P`; the letter is next. -/
def propertyEscape (negated : Bool) : Scanner CharSet := do
  advanceSkipping
  let c ← demand .invalidEscape
  let name ←
    if c = '{' then do
      advanceSkipping
      bracedText ((← get).rest.length + 1)
    else if c = '\\' then fail .invalidEscape
    else do
      advanceSkipping
      pure [c]
  if !(← get).flags.unicode then fail .notUnicode
  match if c = '{' then propertySet? name else (namedSet? name).map (·, false) with
  | some (s, complement) => foldAndComplement (negated != complement) s
  | none => fail .unknownProperty

/-- Letters and hyphens, blanks being ignored between them where they are. -/
def wordLetters : Nat → Scanner (List Char)
  | 0 => return []
  | fuel + 1 => do
    match ← peek with
    | some c =>
      if isAsciiLetter c || c = '-' then
        advanceSkipping
        return c :: (← wordLetters fuel)
      else return []
    | none => return []

/-- The test of `\b`, whose letter has been read: `\b` alone or with a kind in braces.  Braces that
hold no letter are a repetition and stay unread. -/
def boundary (unicode : Bool) : Scanner Look := do
  if (← peek) != some '{' then return .boundary unicode
  let before ← get
  advanceSkipping
  let c ← demand .invalidEscape
  if !(isAsciiLetter c || c = '-') then
    set before
    return .boundary unicode
  let word ← wordLetters before.rest.length
  if (← peek) != some '}' then fail .invalidEscape
  advance
  match String.ofList word with
  | "start" => return .wordStart unicode
  | "end" => return .wordEnd unicode
  | "start-half" => return .wordStartHalf unicode
  | "end-half" => return .wordEndHalf unicode
  | _ => fail .invalidEscape

/-- The characters that an escape names by a letter. -/
def controlLetter? : Char → Option Char
  | 'a' => some '\x07'
  | 'f' => some '\x0C'
  | 't' => some '\t'
  | 'n' => some '\n'
  | 'r' => some '\r'
  | 'v' => some '\x0B'
  | _ => none

/-- What the escape after a backslash stands for. -/
def escape : Scanner Atom := do
  let c ← demand .invalidEscape
  let unicode := (← get).flags.unicode
  if c = 'x' then return .char (← hexEscape 2)
  else if c = 'u' then return .char (← hexEscape 4)
  else if c = 'U' then return .char (← hexEscape 8)
  else if c = 'p' || c = 'P' then return .set (← propertyEscape (c = 'P'))
  else if ['d', 's', 'w', 'D', 'S', 'W'].contains c then
    advance
    return .set (← shorthand c)
  else
    advance
    match c with
    | 'A' => return .look .textStart
    | 'z' => return .look .textEnd
    | 'b' => return .look (← boundary unicode)
    | 'B' => return .look (.noBoundary unicode)
    | '<' => return .look (.wordStart unicode)
    | '>' => return .look (.wordEnd unicode)
    | _ =>
      match controlLetter? c with
      | some control => return .char control
      | none =>
        if c.toNat < 0x80 && !isAsciiLetter c && !isAsciiDigit c then return .char c
        else fail .invalidEscape

/-! ## Bracketed sets -/

/-- One character or escape of a bracketed set. -/
def setAtom : Scanner Atom := do
  let c ← demand .unclosedSet
  advance
  if c = '\\' then escape else return .char c

/-- An atom as a set. -/
def atomSet : Atom → Scanner CharSet
  | .char c => single c
  | .set s => return s
  | .look _ => fail .invalidSet

/-- An atom as an end of a range. -/
def atomChar : Atom → Scanner Char
  | .char c => return c
  | _ => fail .invalidSet

/-- The first character that is neither a blank nor the first number sign. -/
def firstInked (signSeen : Bool) : List Char → Option Char
  | [] => none
  | c :: rest =>
    if isBlank c then firstInked signSeen rest
    else if !signSeen && c = '#' then firstInked true rest
    else some c

/-- The character that follows the next one.  Where blanks mean nothing they are passed over, and so
is one number sign, but not the comment behind it; if nothing else follows, they count. -/
def peekPastNext : Scanner (Option Char) := do
  let s ← get
  let behind := s.rest.tail
  return if s.flags.spaced then firstInked false behind <|> behind.head? else behind.head?

/-- One character, escape or range. -/
def setItem : Scanner CharSet := do
  let first ← setAtom
  skipIgnored
  let c ← demand .unclosedSet
  let after ← peekPastNext
  if c != '-' || after = some ']' || after = some '-' then atomSet first
  else
    advanceSkipping
    let second ← setAtom
    let low ← atomChar first
    let high ← atomChar second
    if high < low then fail .invalidSet
    let _ ← single high
    return .range low.toNat high.toNat

/-- A class name between `[:` and `:]`; anything else stays unread. -/
def classItem? : Scanner (Option CharSet) := do
  let before ← get
  if !(← accept ['[', ':']) then return none
  let negated ← accept ['^']
  let name := (← get).rest.takeWhile (· != ':')
  modify fun s => { s with rest := s.rest.drop name.length }
  let closed ← accept [':', ']']
  match if closed then asciiClass? name else none with
  | some s => return some (← foldAndComplement negated s)
  | none =>
    set before
    return none

/-- A set operation. -/
inductive SetOperation where
  | intersection | difference | symmetricDifference

/-- The operation that comes next, which is consumed. -/
def setOperation? : Scanner (Option SetOperation) := do
  if ← accept ['&', '&'] then return some .intersection
  else if ← accept ['-', '-'] then return some .difference
  else if ← accept ['~', '~'] then return some .symmetricDifference
  else return none

/-- Hyphens at the start of a set, each standing for itself. -/
def leadingHyphens : Nat → Scanner Nat
  | 0 => return 0
  | fuel + 1 => do
    if (← peek) = some '-' then
      advanceSkipping
      let _ ← demand .unclosedSet
      return (← leadingHyphens fuel) + 1
    else return 0

/-- A set with the nesting of its notation. -/
structure NestedSet where
  set : CharSet
  height : Nat

/-- Items side by side. -/
structure Items where
  sets : List CharSet := []
  height : Nat := 0

/-- One more item. -/
def Items.add (items : Items) (s : NestedSet) : Items :=
  ⟨s.set :: items.sets, max items.height s.height⟩

/-- The union of items; more than one of them make a level. -/
def Items.union (items : Items) : NestedSet :=
  ⟨.unionOf items.sets.reverse, if items.sets.length ≤ 1 then items.height else items.height + 1⟩

/-- The result of the operation that waits for its right operand, if there is one. -/
def settle (waiting : Option (SetOperation × NestedSet)) (right : NestedSet) :
    Scanner NestedSet := do
  match waiting with
  | none => return right
  | some (operation, left) =>
    let l ← foldCase left.set
    let r ← foldCase right.set
    let s : CharSet := match operation with
      | .intersection => l.inter r
      | .difference => l.diff r
      | .symmetricDifference => l.symmDiff r
    return ⟨s, max left.height right.height + 1⟩

mutual

/-- A bracketed set; its opening bracket is next. -/
def bracketed : Nat → Scanner NestedSet
  | 0 => fail .unclosedSet
  | fuel + 1 => do
    advanceSkipping
    let _ ← demand .unclosedSet
    let negated := (← peek) = some '^'
    if negated then
      advanceSkipping
      let _ ← demand .unclosedSet
    let hyphens ← leadingHyphens (← get).rest.length
    let hyphen ← single '-'
    let items : Items := ⟨List.replicate hyphens hyphen, 0⟩
    let items ←
      if hyphens = 0 && (← peek) = some ']' then do
        advanceSkipping
        let _ ← demand .unclosedSet
        pure (items.add ⟨← single ']', 0⟩)
      else pure items
    let inner ← setItems fuel none items
    let s ← foldAndComplement negated inner.set
    return ⟨s, inner.height + 1⟩

/-- The items of a bracketed set up to its closing bracket, which is consumed. -/
def setItems : Nat → Option (SetOperation × NestedSet) → Items → Scanner NestedSet
  | 0, _, _ => fail .unclosedSet
  | fuel + 1, waiting, items => do
    skipIgnored
    match ← peek with
    | none => fail .unclosedSet
    | some '[' =>
      match ← classItem? with
      | some s => setItems fuel waiting (items.add ⟨s, 0⟩)
      | none => setItems fuel waiting (items.add (← bracketed fuel))
    | some ']' =>
      advance
      settle waiting items.union
    | some _ =>
      match ← setOperation? with
      | some operation =>
        let left ← settle waiting items.union
        setItems fuel (some (operation, left)) {}
      | none => setItems fuel waiting (items.add ⟨← setItem, 0⟩)

end

/-! ## Repetition -/

/-- A part of a concatenation, with the nesting of its notation; flags cannot be repeated. -/
structure Part where
  regex : Regex
  height : Nat := 0
  repeatable : Bool := true

/-- Takes the last part for repetition. -/
def lastPart : List Part → Scanner (Part × List Part)
  | part :: rest => if part.repeatable then return (part, rest) else fail .nothingToRepeat
  | [] => fail .nothingToRepeat

/-- The decimal digits of a count, blanks aside. -/
def countDigits : Nat → Scanner (List Char)
  | 0 => return []
  | fuel + 1 => do
    match ← peek with
    | some c =>
      if isAsciiDigit c then
        advanceSkipping
        return c :: (← countDigits fuel)
      else return []
    | none => return []

/-- Steps over blanks. -/
def skipBlanks : Scanner Unit := modify fun s => { s with rest := s.rest.dropWhile isBlank }

/-- A count of a repetition; none if there are no digits. -/
def count? : Scanner (Option Nat) := do
  skipBlanks
  let digits ← countDigits (← get).rest.length
  skipBlanks
  skipIgnored
  if digits.isEmpty then return none
  let n := digits.foldl (fun acc c => acc * 10 + (c.toNat - 48)) 0
  if n < 0x100000000 then return some n else fail .invalidRepetition

/-- A count that must be there. -/
def needed (count : Option Nat) : Scanner Nat :=
  match count with
  | some n => return n
  | none => fail .invalidRepetition

/-- The bounds of a counted repetition; the opening brace is next. -/
def bounds : Scanner (Nat × Option Nat) := do
  advanceSkipping
  let _ ← demand .unclosedRepetition
  let first ← count?
  let c ← demand .unclosedRepetition
  let (least, most) ←
    if c = ',' then do
      advanceSkipping
      let c ← demand .unclosedRepetition
      let least ← needed first
      if c = '}' then pure (least, none)
      else pure (least, some (← needed (← count?)))
    else do
      let least ← needed first
      pure (least, some least)
  if (← demand .unclosedRepetition) != '}' then fail .unclosedRepetition
  advanceSkipping
  if most.any (· < least) then fail .invalidRepetition
  return (least, most)

/-- Repeats the last part; a question mark behind the operator asks for few times. -/
def repeatLast (parts : List Part) (least : Nat) (most : Option Nat) : Scanner (List Part) := do
  let (part, rest) ← lastPart parts
  let few ← accept ['?']
  let greedy := few == (← get).flags.swapGreed
  return ⟨.repeated part.regex least most greedy, part.height + 1, true⟩ :: rest

/-! ## Groups -/

/-- Whether a character may stand in a group name. -/
def isNameChar (first : Bool) (c : Char) : Bool :=
  c = '_' || (if first then Text.isAlphabetic c
    else c = '.' || c = '[' || c = ']' || Text.isAlphanumeric c)

/-- A group name up to its closing angle bracket, which is consumed. -/
def groupName : Scanner Unit := do
  let s ← get
  let name := s.rest.takeWhile (· != '>')
  if name.isEmpty || name.length = s.rest.length || s.names.contains name
      || !name.head?.all (isNameChar true) || !name.tail.all (isNameChar false) then
    fail .invalidGroupName
  set { s with rest := s.rest.drop (name.length + 1), names := name :: s.names }

/-- Flags and a hyphen that turns those behind it off; none may come twice. -/
def applyFlags (flags : Flags) (on : Bool) (seen : List Char) : List Char → Option Flags
  | [] => some flags
  | c :: rest =>
    if seen.contains c then none
    else if c = '-' then
      if rest.isEmpty then none else applyFlags flags false (c :: seen) rest
    else if ['i', 'm', 's', 'U', 'u', 'x', 'R'].contains c then
      applyFlags (flags.set c on) on (c :: seen) rest
    else none

/-- Inline flags up to their colon or parenthesis, which is consumed; true if a group follows. -/
def inlineFlags : Scanner (Flags × Bool) := do
  let s ← get
  let letters := s.rest.takeWhile fun c => c != ':' && c != ')'
  match s.rest.drop letters.length with
  | [] => fail .invalidFlags
  | c :: rest =>
    set { s with rest := rest }
    match applyFlags s.flags true [] letters with
    | none => fail .invalidFlags
    | some flags =>
      if c = ')' && letters.isEmpty then fail .nothingToRepeat
      return (flags, c = ':')

/-! ## Expressions -/

/-- The height of parts that stand on one level. -/
def levelHeight (parts : List Part) : Nat := parts.foldl (fun h p => max h p.height) 0 + 1

/-- Parts one after another. -/
def concatenate (parts : List Part) : Part :=
  match parts with
  | [] => { regex := .empty }
  | [part] => part
  | _ => { regex := .inSequence (parts.map (·.regex)), height := levelHeight parts }

/-- One of several parts. -/
def alternate (parts : List Part) : Part :=
  match parts with
  | [part] => part
  | _ => { regex := .inChoice (parts.map (·.regex)), height := levelHeight parts }

/-- A part outside brackets that consists of one character or escape. -/
def atomPart : Atom → Scanner Part
  | .char c => do return { regex := .ofSet (← foldCase (.single c.toNat)) }
  | .set s => return { regex := .ofSet s }
  | .look l => return { regex := .look l }

mutual

/-- Alternatives up to the end of the group or of the pattern. -/
def alternatives : Nat → List Part → Scanner Part
  | 0, _ => fail .nestingTooDeep
  | fuel + 1, before => do
    let part ← sequence fuel []
    if (← peek) = some '|' then
      advance
      alternatives fuel (part :: before)
    else return alternate (part :: before).reverse

/-- Parts up to the end of the alternative; those read so far come last one first. -/
def sequence : Nat → List Part → Scanner Part
  | 0, _ => fail .nestingTooDeep
  | fuel + 1, parts => do
    skipIgnored
    match ← peek with
    | none | some ')' | some '|' => return concatenate parts.reverse
    | some '(' =>
      advance
      skipIgnored
      sequence fuel ((← group fuel) :: parts)
    | some '[' =>
      let s ← bracketed fuel
      sequence fuel (⟨.ofSet s.set, s.height, true⟩ :: parts)
    | some '?' =>
      advance
      sequence fuel (← repeatLast parts 0 (some 1))
    | some '*' =>
      advance
      sequence fuel (← repeatLast parts 0 none)
    | some '+' =>
      advance
      sequence fuel (← repeatLast parts 1 none)
    | some '{' =>
      let _ ← lastPart parts
      let (least, most) ← bounds
      sequence fuel (← repeatLast parts least most)
    | some '\\' =>
      advance
      sequence fuel ((← atomPart (← escape)) :: parts)
    | some '.' =>
      advance
      sequence fuel ({ regex := .ofSet (← dotSet) } :: parts)
    | some '^' =>
      advance
      sequence fuel ({ regex := .look (← lineStart) } :: parts)
    | some '$' =>
      advance
      sequence fuel ({ regex := .look (← lineEnd) } :: parts)
    | some c =>
      advance
      sequence fuel ((← atomPart (.char c)) :: parts)

/-- A group or inline flags; the opening parenthesis has been read. -/
def group : Nat → Scanner Part
  | 0 => fail .nestingTooDeep
  | fuel + 1 => do
    let rest := (← get).rest
    if [['?', '='], ['?', '!'], ['?', '<', '='], ['?', '<', '!']].any (·.isPrefixOf rest) then
      fail .lookAround
    let outer := (← get).flags
    let named ← accept ['?', 'P', '<']
    let named ← if named then pure true else accept ['?', '<']
    if named then
      groupName
      numberedGroup fuel outer
    else if ← accept ['?'] then
      let (flags, opensGroup) ← inlineFlags
      modify fun s => { s with flags := flags }
      if opensGroup then closeGroup fuel outer
      else return ⟨.empty, 0, false⟩
    else numberedGroup fuel outer

/-- The inside of a group that has a number. -/
def numberedGroup : Nat → Flags → Scanner Part
  | 0, _ => fail .nestingTooDeep
  | fuel + 1, outer => do
    let number := (← get).groups
    modify fun s => { s with groups := number + 1 }
    let inner ← closeGroup fuel outer
    return { inner with regex := .group number inner.regex }

/-- The inside of a group and its closing parenthesis; the flags outside hold again behind it. -/
def closeGroup : Nat → Flags → Scanner Part
  | 0, _ => fail .nestingTooDeep
  | fuel + 1, outer => do
    let inner ← alternatives fuel []
    if (← peek) != some ')' then fail .unclosedGroup
    advance
    modify fun s => { s with flags := outer }
    return ⟨inner.regex, inner.height + 1, true⟩

end

/-- A whole pattern. -/
def whole : Scanner Regex := do
  let part ← alternatives (6 * ((← get).rest.length + 2)) []
  if !(← get).rest.isEmpty then fail .unopenedGroup
  if maxPatternNesting < part.height then fail .nestingTooDeep
  if part.regex.tooLarge then fail .tooLarge
  return part.regex

end Scanner

/-- The pattern that a text describes, with flags in force from the start. -/
def ofText? (source : String) (flags : Flags) : Except Fault Pattern := do
  let regex ← Scanner.whole.run' { rest := source.toList, flags := flags }
  return ⟨source, regex⟩

end JsonQuery.Pattern
