/-
# JsonQuery.Expr.Parser — reading expressions.

The parser is a machine with three stacks and no recursion.  States say what may come next; operands
and operators wait on the other two.  A move is planned from the state on top and the text alone: how
many characters it steps over, which states come in place of the one on top, and what happens to the
operands and operators.  `step` makes one move; `run` repeats it until the text has been read.
-/
import JsonQuery.Expr.Stacks
import JsonQuery.Json.Reader

namespace JsonQuery.Expr

open Text (Cursor Position isBlank isIdentifierStart isIdentifierPart isAsciiDigit hexDigit?
  charOfCodePoint?)

/-- What may come next. -/
inductive State where
  /-- Nothing but the end of the text. -/
  | finish
  /-- An operand. -/
  | operand
  /-- A step, an infix operator, or the end of the group. -/
  | afterOperand
  /-- A step after a dot. -/
  | afterDot
  /-- More of an identifier. -/
  | identifier
  /-- More of a quoted name. -/
  | quoted
  /-- More of a raw string, and the character after a backslash in it. -/
  | raw
  | rawEscape
  /-- More of a JSON literal. -/
  | jsonText
  /-- The character after a backslash in a quoted name. -/
  | escape
  /-- Digits of a `\u` escape, and the second escape of a surrogate pair. -/
  | escapeHex (remaining : Nat) (low : Bool)
  | surrogateBackslash
  | surrogateU
  /-- An identifier, a quoted name, a raw string or a JSON literal has been read. -/
  | identifierRead (chained : Bool)
  | quotedRead (chained : Bool)
  | rawRead
  | jsonRead
  /-- What stands in a bracket after an operand. -/
  | bracketStep
  /-- What stands in a bracket that starts an operand. -/
  | bracketOperand
  /-- The end of `[*]`. -/
  | wildcardEnd
  /-- An integer, and the three places of a slice. -/
  | number
  | indexOrStart
  | sliceStop
  | sliceStep
  /-- The end of a filter. -/
  | filterEnd
  /-- A comma or the end of a list. -/
  | listEnd
  /-- A key, a key that has been read, its colon, and what follows its value. -/
  | hashKey
  | hashKeyRead
  | hashColon
  | hashValueEnd
  /-- The end of a parenthesis. -/
  | parenEnd
  /-- The first argument or the end of a call, and what follows an argument. -/
  | firstArgument
  | argumentEnd
  /-- The second character of an operator. -/
  | afterPipe
  | afterAmpersand
  | afterLess
  | afterGreater
  | afterEquals
  | afterBang
  | afterSlash
  deriving DecidableEq, Repr

/-- Whether blanks may stand before what the state expects. -/
def State.skipsBlanks : State → Bool
  | .operand | .afterOperand | .afterDot | .identifierRead _ | .bracketStep | .bracketOperand
  | .wildcardEnd | .indexOrStart | .sliceStop | .sliceStep | .filterEnd | .listEnd | .hashKey
  | .hashColon | .hashValueEnd | .parenEnd | .firstArgument | .argumentEnd => true
  | _ => false

/-- The parts of `[start:stop:step]` read so far. -/
structure SliceParts where
  start : Option Int := none
  stop : Option Int := none
  step : Option Int := none
  /-- Which part is being read: 0, 1 or 2. -/
  place : Nat := 0
  deriving DecidableEq, Repr

namespace SliceParts

/-- The part being read. -/
def part (p : SliceParts) : Option Int :=
  match p.place with
  | 0 => p.start
  | 1 => p.stop
  | _ => p.step

/-- Fills the part being read. -/
def fill (p : SliceParts) (n : Int) : SliceParts :=
  match p.place with
  | 0 => { p with start := some n }
  | 1 => { p with stop := some n }
  | _ => { p with step := some n }

end SliceParts

/-- What is kept of the name, the literal or the bracket being read. -/
structure Scratch where
  /-- The characters of the name or literal, the last one first. -/
  buffer : List Char := []
  codePoint : Nat := 0
  lowCodePoint : Nat := 0
  parts : SliceParts := {}
  /-- Where the JSON literal starts. -/
  literalStart : Position := {}

namespace Scratch

/-- Adds a character to the name or literal. -/
def keep (s : Scratch) (c : Char) : Scratch := { s with buffer := c :: s.buffer }

/-- The name or literal. -/
def text (s : Scratch) : String := String.ofList s.buffer.reverse

/-- Forgets the name or literal. -/
def clearText (s : Scratch) : Scratch := { s with buffer := [] }

end Scratch

/-- A move: how many characters it steps over, the states in place of the one on top, what happens to
the operands and operators, and what is kept afterwards. -/
structure Move where
  width : Nat
  next : List State
  action : Action
  scratch : Scratch

/-- What a move is planned from, besides the state. -/
structure Reader where
  cursor : Cursor
  registry : Registry
  scratch : Scratch := {}

namespace Reader

/-- An error at the cursor. -/
def fail {α : Type} (r : Reader) (cause : ParseError.Cause) : Except ParseError α :=
  .error ⟨cause, r.cursor.position⟩

/-- A move that leaves what is kept as it is. -/
def go (r : Reader) (width : Nat) (next : List State) (action : Action := .nothing) :
    Except ParseError Move :=
  .ok ⟨width, next, action, r.scratch⟩

/-- A move that keeps something else. -/
def note (scratch : Scratch) (width : Nat) (next : List State) (action : Action := .nothing) :
    Except ParseError Move :=
  .ok ⟨width, next, action, scratch⟩

/-- A whole expression, an operand and whatever follows it, and a state for what stands behind. -/
def expressionThen (behind : State) : List State := [.operand, .afterOperand, behind]

/-- Expects a character and closes the innermost group behind it. -/
def closeWith (r : Reader) (ch : Option Char) (expected : Char) (closer : Closer)
    (cause : ParseError.Cause) : Except ParseError Move :=
  match ch with
  | none => r.fail .unexpectedEndOfInput
  | some c => if c = expected then r.go 1 [] (.token (.closing closer)) else r.fail cause

/-- Adds an infix operator and expects its right operand. -/
def infixOperator (r : Reader) (width : Nat) (op : Operator) : Except ParseError Move :=
  r.go width [.operand] (.token (.operator op))

/-- The end of a comparison operator, of which one character has been read. -/
def comparison (r : Reader) (ch : Option Char) (withEquals : BinaryOperator)
    (alone : Option BinaryOperator) : Except ParseError Move :=
  if ch = some '=' then r.infixOperator 1 (.binary withEquals)
  else match alone with
    | some op => r.infixOperator 0 (.binary op)
    | none => r.fail .expectedComparator

/-- What adds a name as an operand or as a step. -/
def pushField (name : String) (chained : Bool) : Action :=
  if chained then .attach (.field name) else .leaf (.field name) false

/-- The start of an operand. -/
def startOperand (r : Reader) : Option Char → Except ParseError Move
  | none => r.fail .unexpectedEndOfInput
  | some c =>
    if c = '"' then r.go 1 [.quoted, .quotedRead false]
    else if c = '\'' then r.go 1 [.raw, .rawRead]
    else if c = '\x60' then
      note { r.scratch with literalStart := r.cursor.position } 1 [.jsonText, .jsonRead]
    else if c = '[' then r.go 1 [.bracketOperand]
    else if c = '{' then r.go 1 [.hashKey] (.token (.opening (.hash false)))
    else if c = '*' then r.go 1 [] (.leaf (projectAll .object .current) true)
    else if c = '@' then r.go 1 [] (.token .current)
    else if c = '(' then r.go 1 (expressionThen .parenEnd) (.token (.opening .paren))
    else if c = '!' then r.go 1 [.operand] (.token (.operator (.unary .not)))
    else if c = '-' then r.go 1 [.operand] (.token (.operator (.unary .minus)))
    else if c = '&' then r.go 1 [.operand] (.token (.operator (.reference r.cursor.offset)))
    else if isIdentifierStart c then r.go 0 [.identifier, .identifierRead false]
    else r.fail .syntaxError

/-- The state in which the second character of an operator or a step is read. -/
def lookahead? (c : Char) : Option State :=
  match c with
  | '.' => some .afterDot
  | '[' => some .bracketStep
  | '|' => some .afterPipe
  | '&' => some .afterAmpersand
  | '<' => some .afterLess
  | '>' => some .afterGreater
  | '=' => some .afterEquals
  | '!' => some .afterBang
  | '/' => some .afterSlash
  | _ => none

/-- The infix operator of one character that no longer one starts with. -/
def shortOperator? (c : Char) : Option BinaryOperator :=
  match c with
  | '+' => some .add
  | '-' => some .subtract
  | '*' => some .multiply
  | '%' => some .modulo
  | _ => none

/-- What follows an operand. -/
def continueOperand (r : Reader) : Option Char → Except ParseError Move
  | none => r.go 0 []
  | some c =>
    match lookahead? c with
    | some state => r.go 1 [state, .afterOperand]
    | none =>
      match shortOperator? c with
      | some op => r.go 1 [.operand, .afterOperand] (.token (.operator (.binary op)))
      | none =>
        if c = ')' || c = ']' || c = '}' || c = ',' then r.go 0 []
        else if isIdentifierStart c || c = '"' then r.fail .expectedDot
        else r.fail .syntaxError

/-- A step after a dot. -/
def stepAfterDot (r : Reader) : Option Char → Except ParseError Move
  | none => r.fail .unexpectedEndOfInput
  | some c =>
    if isIdentifierStart c then r.go 0 [.identifier, .identifierRead true]
    else if c = '"' then r.go 1 [.quoted, .quotedRead true]
    else if c = '*' then r.go 1 [] (.attach .values)
    else if c = '[' then r.go 1 (expressionThen .listEnd) (.token (.opening (.list true)))
    else if c = '{' then r.go 1 [.hashKey] (.token (.opening (.hash true)))
    else r.fail .expectedIdentifier

/-- The rest of an identifier. -/
def restOfIdentifier (r : Reader) : Except ParseError Move :=
  let name := r.cursor.rest.takeWhile isIdentifierPart
  note { r.scratch with buffer := name.reverse ++ r.scratch.buffer } name.length []

/-- The next character of a quoted name or a raw string. -/
def quotedText (r : Reader) (quote : Char) (self escaped : State) :
    Option Char → Except ParseError Move
  | none => r.fail .unexpectedEndOfInput
  | some c =>
    if c = quote then r.go 1 []
    else if c = '\\' then r.go 1 [escaped, self]
    else note (r.scratch.keep c) 1 [self]

/-- The next character of a JSON literal. -/
def literalText (r : Reader) : Option Char → Except ParseError Move
  | none => r.fail .unexpectedEndOfInput
  | some c =>
    if c = '\x60' then r.go 1 []
    else if c = '\\' && r.cursor.peek 1 == some '\x60' then
      note (r.scratch.keep '\x60') 2 [.jsonText]
    else note (r.scratch.keep c) 1 [.jsonText]

/-- The character after a backslash in a raw string: only the quote loses its backslash. -/
def rawEscaped (r : Reader) : Option Char → Except ParseError Move
  | none => r.fail .unexpectedEndOfInput
  | some c =>
    note ((if c = '\'' then r.scratch else r.scratch.keep '\\').keep c) 1 []

/-- The character after a backslash in a quoted name. -/
def escaped (r : Reader) : Option Char → Except ParseError Move
  | none => r.fail .unexpectedEndOfInput
  | some c =>
    if c = 'u' then note { r.scratch with codePoint := 0 } 1 [.escapeHex 4 false]
    else match Json.simpleEscape? c with
      | some unescaped => note (r.scratch.keep unescaped) 1 []
      | none => r.fail .illegalEscapeCharacter

/-- Adds the character of a code point to the name being read. -/
def keepCodePoint (r : Reader) (scratch : Scratch) (n : Nat) : Except ParseError Move :=
  match charOfCodePoint? n with
  | some c => note (scratch.keep c) 1 []
  | none => r.fail .invalidCodepoint

/-- A digit of a `\u` escape. -/
def escapeDigit (r : Reader) (remaining : Nat) (low : Bool) :
    Option Char → Except ParseError Move
  | none => r.fail .unexpectedEndOfInput
  | some c =>
    match hexDigit? c with
    | none => r.fail .invalidCodepoint
    | some digit =>
      let s :=
        if low then { r.scratch with lowCodePoint := r.scratch.lowCodePoint * 16 + digit }
        else { r.scratch with codePoint := r.scratch.codePoint * 16 + digit }
      if 1 < remaining then note s 1 [.escapeHex (remaining - 1) low]
      else if low then
        if Json.isLowSurrogate s.lowCodePoint then
          r.keepCodePoint s (Json.joinSurrogates s.codePoint s.lowCodePoint)
        else r.fail .invalidCodepoint
      else if Json.isHighSurrogate s.codePoint then note s 1 [.surrogateBackslash]
      else if Json.isLowSurrogate s.codePoint then r.fail .invalidCodepoint
      else r.keepCodePoint s s.codePoint

/-- The characters between the two escapes of a surrogate pair. -/
def surrogateNext (r : Reader) (ch : Option Char) (expected : Char) (scratch : Scratch)
    (next : State) : Except ParseError Move :=
  match ch with
  | none => r.fail .unexpectedEndOfInput
  | some c => if c = expected then note scratch 1 [next] else r.fail .invalidCodepoint

/-- An identifier has been read: a call if a parenthesis follows, otherwise a name. -/
def finishIdentifier (r : Reader) (ch : Option Char) (chained : Bool) : Except ParseError Move :=
  let name := r.scratch.text
  if ch = some '(' then
    match r.registry.find? name with
    | none => r.fail (.unknownFunction name)
    | some function =>
      note r.scratch.clearText 1 [.firstArgument] (.token (.opening (.call function chained)))
  else note r.scratch.clearText 0 [] (pushField name chained)

/-- A JSON literal has been read. -/
def finishLiteral (r : Reader) : Except ParseError Move :=
  match Json.parse? r.scratch.text with
  | none => .error ⟨.invalidLiteral, r.scratch.literalStart⟩
  | some json => note r.scratch.clearText 0 [] (.token (.literal json))

/-- What stands in a bracket after an operand. -/
def bracketStep (r : Reader) : Option Char → Except ParseError Move
  | none => r.fail .unexpectedEndOfInput
  | some c =>
    if c = '*' then r.go 1 [.wildcardEnd]
    else if c = ']' then r.go 1 [] .flatten
    else if c = '?' then
      r.go 1 (expressionThen .filterEnd) (.token (.opening (.filter true)))
    else if c = '-' || c = ':' || isAsciiDigit c then r.go 0 [.indexOrStart]
    else r.fail .syntaxError

/-- What stands in a bracket that starts an operand. -/
def bracketOperand (r : Reader) : Option Char → Except ParseError Move
  | none => r.fail .unexpectedEndOfInput
  | some c =>
    if c = '*' && r.cursor.peekSignificant == some ']' then
      r.go 1 [.wildcardEnd] (.leaf .current false)
    else if c = ']' then r.go 1 [] (.leaf (projectAll .flatten .current) true)
    else if c = '?' then
      r.go 1 (expressionThen .filterEnd) (.token (.opening (.filter false)))
    else if isAsciiDigit c || c = ':' || (c = '-' && (r.cursor.peek 1).any isAsciiDigit) then
      r.go 0 [.indexOrStart] (.leaf .current false)
    else r.go 0 (expressionThen .listEnd) (.token (.opening (.list false)))

/-- The end of `[*]`. -/
def wildcardEnd (r : Reader) : Option Char → Except ParseError Move
  | none => r.fail .unexpectedEndOfInput
  | some c =>
    if c = ']' then r.go 1 [] (.attach .items)
    else r.fail .expectedRightBracket

/-- Whether an integer is in the range of indices, −2^63 up to 2^63 − 1. -/
def inIndexRange (n : Int) : Bool := -0x8000000000000000 ≤ n && n < 0x8000000000000000

/-- An integer for the part of the slice being read. -/
def readNumber (r : Reader) : Except ParseError Move :=
  let negative := r.cursor.current == some '-'
  let sign := if negative then 1 else 0
  let digits := (r.cursor.rest.drop sign).takeWhile isAsciiDigit
  let width := sign + digits.length
  let invalid := .error ⟨.invalidNumber, (r.cursor.advanceBy width).position⟩
  if digits.isEmpty then invalid
  else
    let n : Int := digits.foldl (fun acc c => acc * 10 + Json.digitValue c) 0
    let n := if negative then -n else n
    if inIndexRange n then note { r.scratch with parts := r.scratch.parts.fill n } width []
    else invalid

/-- The step of an index or a slice whose parts have been read. -/
def sliceStep (r : Reader) : Except ParseError Step :=
  if r.scratch.parts.place = 0 then
    match r.scratch.parts.start with
    | some i => .ok (.index i)
    | none => r.fail .syntaxError
  else
    let step := r.scratch.parts.step.getD 1
    if step = 0 then r.fail .stepCannotBeZero
    else .ok (.slice ⟨r.scratch.parts.start, r.scratch.parts.stop, step⟩)

/-- What stands in a bracket with an index or a slice. -/
def indexOrSlice (r : Reader) (self : State) : Option Char → Except ParseError Move
  | none => r.fail .unexpectedEndOfInput
  | some c =>
    if (c = '-' || isAsciiDigit c) && r.scratch.parts.part.isNone then r.go 0 [.number, self]
    else if c = ':' && r.scratch.parts.place < 2 then
      let parts := { r.scratch.parts with place := r.scratch.parts.place + 1 }
      note { r.scratch with parts := parts } 1
        [if parts.place = 1 then .sliceStop else .sliceStep]
    else if c = ']' then do
      note { r.scratch with parts := {} } 1 [] (.attach (← r.sliceStep))
    else r.fail .expectedRightBracket

/-- A key of an object. -/
def hashKey (r : Reader) : Option Char → Except ParseError Move
  | none => r.fail .unexpectedEndOfInput
  | some c =>
    if c = '"' then r.go 1 [.quoted, .hashKeyRead]
    else if isIdentifierStart c then r.go 0 [.identifier, .hashKeyRead]
    else r.fail .expectedIdentifier

/-- The colon after a key. -/
def hashColon (r : Reader) : Option Char → Except ParseError Move
  | none => r.fail .unexpectedEndOfInput
  | some c =>
    if c = ':' then r.go 1 (expressionThen .hashValueEnd)
    else r.fail .expectedColon

/-- The second character of `&&`. -/
def secondAmpersand (r : Reader) : Option Char → Except ParseError Move
  | none => r.fail .unexpectedEndOfInput
  | some c => if c = '&' then r.infixOperator 1 (.binary .and) else r.fail .syntaxError

/-- The move in a state, at a character or at the end of the text. -/
def planAt (r : Reader) (ch : Option Char) : State → Except ParseError Move
  | .finish => r.fail .syntaxError
  | .operand => r.startOperand ch
  | .afterOperand => r.continueOperand ch
  | .afterDot => r.stepAfterDot ch
  | .identifier => r.restOfIdentifier
  | .quoted => r.quotedText '"' .quoted .escape ch
  | .raw => r.quotedText '\'' .raw .rawEscape ch
  | .rawEscape => r.rawEscaped ch
  | .jsonText => r.literalText ch
  | .escape => r.escaped ch
  | .escapeHex remaining low => r.escapeDigit remaining low ch
  | .surrogateBackslash => r.surrogateNext ch '\\' r.scratch .surrogateU
  | .surrogateU =>
    r.surrogateNext ch 'u' { r.scratch with lowCodePoint := 0 } (.escapeHex 4 true)
  | .identifierRead chained => r.finishIdentifier ch chained
  | .quotedRead chained => note r.scratch.clearText 0 [] (pushField r.scratch.text chained)
  | .rawRead => note r.scratch.clearText 0 [] (.token (.literal (.string r.scratch.text)))
  | .jsonRead => r.finishLiteral
  | .bracketStep => r.bracketStep ch
  | .bracketOperand => r.bracketOperand ch
  | .wildcardEnd => r.wildcardEnd ch
  | .number => r.readNumber
  | .indexOrStart => r.indexOrSlice .indexOrStart ch
  | .sliceStop => r.indexOrSlice .sliceStop ch
  | .sliceStep => r.indexOrSlice .sliceStep ch
  | .filterEnd => r.closeWith ch ']' .filter .expectedRightBracket
  | .listEnd =>
    if ch = some ',' then r.go 1 (expressionThen .listEnd) (.token .separator)
    else r.closeWith ch ']' .list .expectedRightBracket
  | .hashKey => r.hashKey ch
  | .hashKeyRead => note r.scratch.clearText 0 [.hashColon] (.token (.key r.scratch.text))
  | .hashColon => r.hashColon ch
  | .hashValueEnd =>
    if ch = some ',' then r.go 1 [.hashKey] (.token .separator)
    else r.closeWith ch '}' .hash .expectedRightBrace
  | .parenEnd => r.closeWith ch ')' .paren .expectedRightParen
  | .firstArgument =>
    if ch = some ')' then r.closeWith ch ')' .call .expectedRightParen
    else r.go 0 (expressionThen .argumentEnd)
  | .argumentEnd =>
    if ch = some ',' then r.go 1 (expressionThen .argumentEnd) (.token .separator)
    else r.closeWith ch ')' .call .expectedRightParen
  | .afterPipe =>
    if ch = some '|' then r.infixOperator 1 (.binary .or) else r.infixOperator 0 .pipe
  | .afterAmpersand => r.secondAmpersand ch
  | .afterLess => r.comparison ch .lessEqual (some .lessThan)
  | .afterGreater => r.comparison ch .greaterEqual (some .greaterThan)
  | .afterEquals => r.comparison ch .equal none
  | .afterBang => r.comparison ch .notEqual none
  | .afterSlash =>
    if ch = some '/' then r.infixOperator 1 (.binary .integerDivide)
    else r.infixOperator 0 (.binary .divide)

/-- The move in a state. -/
def plan (r : Reader) (state : State) : Except ParseError Move :=
  let ch := r.cursor.current
  if state.skipsBlanks && ch.any isBlank then r.go 1 [state] else r.planAt ch state

end Reader

/-- The parser between two moves. -/
structure Machine extends Reader where
  /-- What may come next, the nearest first. -/
  states : List State := [.operand, .afterOperand, .finish]
  waiting : Stacks := {}

namespace Machine

/-- Makes a move; `below` are the states under the one on top.  Where the stacks refuse, the error is
behind the characters of the move. -/
def make (m : Machine) (below : List State) (move : Move) : Except ParseError Machine :=
  let cursor := m.cursor.advanceBy move.width
  match m.waiting.perform move.action with
  | .error cause => .error ⟨cause, cursor.position⟩
  | .ok waiting =>
    .ok { m with
      cursor := cursor, scratch := move.scratch, states := move.next ++ below, waiting := waiting }

/-- One move. -/
def step (m : Machine) : Except ParseError Machine :=
  match m.states with
  | [] => m.fail .syntaxError
  | state :: below => do m.make below (← m.plan state)

/-- Whether the text has been read and nothing more is expected. -/
def isDone (m : Machine) : Bool := m.cursor.atEnd && m.states == [.finish]

/-- The expression on the stacks at the end of the text. -/
def result (m : Machine) : Except ParseError Expr :=
  match m.waiting.result with
  | .ok o => .ok o.expr
  | .error cause => m.fail cause

/-- Moves until the text has been read, at most as often as the fuel says. -/
def run : Nat → Machine → Except ParseError Expr
  | 0, m => m.fail .syntaxError
  | fuel + 1, m =>
    if m.isDone then m.result
    else do run fuel (← m.step)

end Machine

/-- How many moves a text of a length can take: every character takes a few moves, and so does the
end. -/
def moveBound (length : Nat) : Nat := 16 * (length + 2)

/-- The expression of a text, with functions from a registry. -/
def parse (text : String) (registry : Registry) : Except ParseError Expr :=
  Machine.run (moveBound text.toList.length) { cursor := Cursor.start text, registry := registry }

end JsonQuery.Expr
