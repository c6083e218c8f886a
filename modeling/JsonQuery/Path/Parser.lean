/-
# JsonQuery.Path.Parser — reading paths.

Paths are read by recursive descent; the operators of a filter wait on a stack until their operands
are complete.  A depth is kept for steps, parentheses, nested paths and calls, and a height for
every operand of a filter; together they must not pass the nesting limit.  Recursion consumes fuel,
of which a text gets more than it can use.
-/
import JsonQuery.Path.Basic
import JsonQuery.Pattern.Parser
import JsonQuery.ParseError
import JsonQuery.Json.Reader

namespace JsonQuery.Path

open Text (Cursor isAsciiDigit isAsciiLetter isAlphabetic isAlphanumeric hexDigit? charOfCodePoint?)

/-- A character that may start a name. -/
def isNameStart (c : Char) : Bool := isAlphabetic c || c = '_'

/-- A character that may follow in a name. -/
def isNamePart (c : Char) : Bool := isAlphanumeric c || c = '_'

/-- Where the reader is: its place, how deep it is, and how many root signs it has passed. -/
structure Reading where
  cursor : Cursor
  depth : Nat := 0
  roots : Nat := 0

/-- Reading a part of a path, with functions from a registry. -/
abbrev Reader := ReaderT Registry (StateT Reading (Except ParseError))

namespace Reader

/-! ## Characters -/

/-- Stops with an error at the current place. -/
def fail {α : Type} (cause : ParseError.Cause) : Reader α := do
  throw ⟨cause, (← get).cursor.position⟩

/-- The current character. -/
def current : Reader (Option Char) := return (← get).cursor.current

/-- The character behind the current one. -/
def next : Reader (Option Char) := return (← get).cursor.peek 1

/-- Steps over one character. -/
def advance : Reader Unit := modify fun r => { r with cursor := r.cursor.advance }

/-- Steps over blanks. -/
def skipBlanks : Reader Unit := modify fun r => { r with cursor := r.cursor.skipBlanks }

/-- Reads the longest run of characters that pass a test. -/
def readWhile (accept : Char → Bool) : Reader (List Char) := do
  let r ← get
  let (run, cursor) := r.cursor.readWhile accept
  set { r with cursor := cursor }
  return run

/-- The current character, or an error at the end of the text. -/
def demand : Reader Char := do
  match ← current with
  | some c => return c
  | none => fail .unexpectedEndOfInput

/-! ## Depth -/

/-- One level deeper. -/
def enter : Reader Unit := do
  modify fun r => { r with depth := r.depth + 1 }
  if maxNesting < (← get).depth then fail .nestingTooDeep

/-- One level back. -/
def leave : Reader Unit := modify fun r => { r with depth := r.depth - 1 }

/-- Goes to a depth. -/
def setDepth (depth : Nat) : Reader Unit := modify fun r => { r with depth := depth }

/-- A height that fits under the current depth. -/
def checkedHeight (height : Nat) : Reader Nat := do
  if maxNesting < (← get).depth + height then fail .nestingTooDeep else return height

/-! ## Integers and slices -/

/-- An integer with or without a minus sign. -/
def integer : Reader Int := do
  let negative := (← current) = some '-'
  if negative then advance
  let digits ← readWhile isAsciiDigit
  if digits.isEmpty then fail .invalidNumber
  let n : Int := (digits.foldl (fun acc c => acc * 10 + (c.toNat - 48)) 0 : Nat)
  let i := if negative then -n else n
  if -0x8000000000000000 ≤ i ∧ i < 0x8000000000000000 then return i else fail .invalidNumber

/-- An integer, if one comes next. -/
def integer? : Reader (Option Int) := do
  skipBlanks
  match ← current with
  | some c => if c = '-' || isAsciiDigit c then return some (← integer) else return none
  | none => return none

/-- The step of a slice, if one is written. -/
def sliceStep : Reader Int := do
  if (← current) != some ':' then return 1
  advance
  match ← integer? with
  | none => return 1
  | some step => if step = 0 then fail .stepCannotBeZero else return step

/-- An index or a slice in brackets. -/
def indexOrSlice : Reader Step := do
  let start ← integer?
  skipBlanks
  if (← current) != some ':' then
    match start with
    | some i => return .index i
    | none => fail .syntaxError
  else
    advance
    let stop ← integer?
    skipBlanks
    return .slice ⟨start, stop, ← sliceStep⟩

/-! ## Quoted names -/

/-- The value of so many hexadecimal digits, with what came before them. -/
def hexDigits : Nat → Nat → Reader Nat
  | 0, value => return value
  | n + 1, value => do
    match (← current).bind hexDigit? with
    | some digit =>
      advance
      hexDigits n (value * 16 + digit)
    | none => fail .invalidCodepoint

/-- The character of a `\u` escape, whose letter has been read; two escapes may form one
character. -/
def unicodeEscape : Reader Char := do
  let high ← hexDigits 4 0
  let code ←
    if Json.isHighSurrogate high then do
      if (← current) != some '\\' || (← next) != some 'u' then fail .invalidCodepoint
      advance
      advance
      let low ← hexDigits 4 0
      if Json.isLowSurrogate low then pure (Json.joinSurrogates high low)
      else fail .invalidCodepoint
    else pure high
  match charOfCodePoint? code with
  | some c => return c
  | none => fail .invalidCodepoint

/-- The character that a one-letter escape stands for. -/
def letterEscape? : Char → Option Char
  | '\'' => some '\''
  | '"' => some '"'
  | '\\' => some '\\'
  | '/' => some '/'
  | 'b' => some '\x08'
  | 'f' => some '\x0C'
  | 'n' => some '\n'
  | 'r' => some '\r'
  | 't' => some '\t'
  | _ => none

/-- The character of the escape behind a backslash that has been read. -/
def escape : Reader Char := do
  let c ← demand
  if c = 'u' then
    advance
    unicodeEscape
  else
    match letterEscape? c with
    | some unescaped =>
      advance
      return unescaped
    | none => fail .illegalEscapeCharacter

/-- The rest of a quoted text up to its closing quote, which is consumed. -/
def quotedRest (quote : Char) : Nat → Reader (List Char)
  | 0 => fail .unexpectedEndOfInput
  | fuel + 1 => do
    let c ← demand
    advance
    if c = quote then return []
    else if c = '\\' then
      let unescaped ← escape
      return unescaped :: (← quotedRest quote fuel)
    else return c :: (← quotedRest quote fuel)

/-- A text between quotes; the opening quote is the current character. -/
def quoted (quote : Char) : Reader String := do
  advance
  return String.ofList (← quotedRest quote ((← get).cursor.rest.length + 1))

/-! ## Parts of filters -/

/-- The infix operator that starts with one character, before another. -/
def operatorOf (first : Char) (second : Option Char) :
    Except ParseError.Cause (BinaryOperator × Nat) :=
  if first = '=' then if second = some '=' then .ok (.equal, 2) else .error .expectedComparator
  else if first = '!' then
    if second = some '=' then .ok (.notEqual, 2) else .error .expectedComparator
  else if first = '<' then .ok (if second = some '=' then (.lessEqual, 2) else (.lessThan, 1))
  else if first = '>' then .ok (if second = some '=' then (.greaterEqual, 2) else (.greaterThan, 1))
  else if first = '&' then if second = some '&' then .ok (.and, 2) else .error .syntaxError
  else if first = '|' then if second = some '|' then .ok (.or, 2) else .error .syntaxError
  else if first = '/' then .ok (if second = some '/' then (.integerDivide, 2) else (.divide, 1))
  else if first = '+' then .ok (.add, 1)
  else if first = '-' then .ok (.subtract, 1)
  else if first = '*' then .ok (.multiply, 1)
  else if first = '%' then .ok (.modulo, 1)
  else .error .syntaxError

/-- An infix operator. -/
def binaryOperator : Reader BinaryOperator := do
  match operatorOf (← demand) (← next) with
  | .error cause => fail cause
  | .ok (op, width) =>
    modify fun r => { r with cursor := r.cursor.advanceBy width }
    return op

/-- Keeps the current character if it passes a test. -/
def optional (accept : Char → Bool) : Reader (List Char) := do
  match ← current with
  | some c =>
    if accept c then
      advance
      return [c]
    else return []
  | none => return []

/-- A number of a filter. -/
def number : Reader Filter := do
  let sign ← optional (· = '-')
  let whole ← readWhile isAsciiDigit
  let point ← optional (· = '.')
  let fraction ← if point.isEmpty then pure [] else readWhile isAsciiDigit
  let letter ← optional fun c => c = 'e' || c = 'E'
  let exponentSign ← if letter.isEmpty then pure [] else optional fun c => c = '+' || c = '-'
  let exponent ← if letter.isEmpty then pure [] else readWhile isAsciiDigit
  let text := sign ++ whole ++ point ++ fraction ++ letter ++ exponentSign ++ exponent
  match Json.ofChars? text with
  | some (.number n) => return .literal (.number n)
  | _ => fail .invalidNumber

/-- The text of a pattern up to its closing slash, which is consumed; an escaped slash loses its
backslash, every other escape is kept. -/
def patternText : Nat → Reader (List Char)
  | 0 => fail .unexpectedEndOfInput
  | fuel + 1 => do
    let c ← demand
    advance
    if c = '/' then return []
    else if c = '\\' then
      let escaped ← demand
      advance
      let rest ← patternText fuel
      return if escaped = '/' then '/' :: rest else '\\' :: escaped :: rest
    else return c :: (← patternText fuel)

/-- The flags behind a pattern. -/
def patternFlags (flags : Pattern.Flags) : List Char → Except Char Pattern.Flags
  | [] => .ok flags
  | c :: rest =>
    if ['i', 'm', 's', 'x'].contains c then patternFlags (flags.set c true) rest else .error c

/-- A pattern between slashes, with its flags. -/
def pattern : Reader Pattern := do
  skipBlanks
  if (← current) != some '/' then fail .syntaxError
  advance
  let text ← patternText ((← get).cursor.rest.length + 1)
  let letters ← readWhile isAsciiLetter
  match patternFlags {} letters with
  | .error flag => fail (.unknownFlag flag)
  | .ok flags =>
    match Pattern.ofText? (String.ofList text) flags with
    | .ok p => return p
    | .error fault => fail (.rejectedPattern fault.message)

/-! ## Operators that wait -/

/-- What waits on the stack of a filter. -/
inductive Pending where
  | binary (op : BinaryOperator)
  | unary (op : UnaryOperator)
  | paren

/-- The stacks of a filter: operands with their heights, waiting operators, and the number of open
parentheses. -/
structure Stacks where
  operands : List (Filter × Nat) := []
  pending : List Pending := []
  parens : Nat := 0

/-- The precedence of what waits; a parenthesis is no operator. -/
def Pending.precedence? : Pending → Option Precedence
  | .binary op => some op.precedence
  | .unary _ => some .unary
  | .paren => none

/-- Applies the operator on top to the operands on top. -/
def reduce (s : Stacks) : Reader Stacks := do
  match s.pending, s.operands with
  | .binary op :: pending, (right, rightHeight) :: (left, leftHeight) :: operands =>
    let height ← checkedHeight (max leftHeight rightHeight + 1)
    return { s with operands := (.binary op left right, height) :: operands, pending := pending }
  | .unary op :: pending, (operand, height) :: operands =>
    let height ← checkedHeight (height + 1)
    return { s with operands := (.unary op operand, height) :: operands, pending := pending }
  | _, _ => fail .syntaxError

/-- Applies waiting operators as long as they pass a test, a parenthesis never passing. -/
def reduceWhile (test : Precedence → Bool) : Nat → Stacks → Reader Stacks
  | 0, s => return s
  | fuel + 1, s =>
    match s.pending with
    | top :: _ =>
      if top.precedence?.any test then do reduceWhile test fuel (← reduce s) else return s
    | [] => return s

/-- Adds an infix operator; the waiting ones that bind tighter are applied first. -/
def pushBinary (op : BinaryOperator) (s : Stacks) : Reader Stacks := do
  let s ← reduceWhile (fun pending => pending.yieldsTo op.precedence false) s.pending.length s
  return { s with pending := .binary op :: s.pending }

/-- Closes the innermost parenthesis. -/
def closeParen (s : Stacks) : Reader Stacks := do
  let s ← reduceWhile (fun _ => true) s.pending.length s
  leave
  return { s with pending := s.pending.tail, parens := s.parens - 1 }

/-- Binds a pattern to the operand on top. -/
def matchTop (p : Pattern) (s : Stacks) : Reader Stacks := do
  match s.operands with
  | (operand, height) :: operands =>
    let height ← checkedHeight (height + 1)
    return { s with operands := (.matching p operand, height) :: operands }
  | [] => fail .syntaxError

/-- The filter that the stacks hold at its end. -/
def finish (s : Stacks) : Reader Filter := do
  if 0 < s.parens then
    match ← current with
    | none => fail .unexpectedEndOfInput
    | some _ => fail .expectedRightParen
  let s ← reduceWhile (fun _ => true) s.pending.length s
  match s.operands with
  | [(f, _)] =>
    leave
    return f
  | _ => fail .syntaxError

/-! ## Paths -/

/-- The name or star behind a dot. -/
def memberStep : Reader Step := do
  let c ← demand
  if c = '*' then
    advance
    return .wildcard
  else if isNameStart c then return .name (String.ofList (← readWhile isNamePart))
  else fail .expectedIdentifier

/-- The sign that a path starts with. -/
def headStep : Reader Step := do
  match ← current with
  | some '$' =>
    let r ← get
    set { r with roots := r.roots + 1, cursor := r.cursor.advance }
    return .root r.roots
  | some '@' =>
    advance
    return .current
  | _ => fail .syntaxError

/-- The literal that a word stands for. -/
def literalWord? : List Char → Option Json
  | ['t', 'r', 'u', 'e'] => some (.bool true)
  | ['f', 'a', 'l', 's', 'e'] => some (.bool false)
  | ['n', 'u', 'l', 'l'] => some .null
  | _ => none

mutual

/-- A path; the current character is its sign. -/
def path : Nat → Reader (List Step)
  | 0 => fail .nestingTooDeep
  | fuel + 1 => do
    let head ← headStep
    let outer := (← get).depth
    let steps ← pathSteps fuel outer [head]
    setDepth outer
    return steps

/-- The steps of a path up to its end; those read so far come last one first. -/
def pathSteps : Nat → Nat → List Step → Reader (List Step)
  | 0, _, _ => fail .nestingTooDeep
  | fuel + 1, outer, steps => do
    setDepth (outer + steps.length)
    if maxNesting < (← get).depth then fail .nestingTooDeep
    match ← current with
    | some '.' =>
      advance
      if (← current) = some '.' then
        advance
        let steps := .descend :: steps
        if (← current) = some '[' then pathSteps fuel outer steps
        else pathSteps fuel outer ((← memberStep) :: steps)
      else pathSteps fuel outer ((← memberStep) :: steps)
    | some '[' =>
      advance
      pathSteps fuel outer ((← brackets fuel []) :: steps)
    | some '^' =>
      let carets ← readWhile (· = '^')
      pathSteps fuel outer (.parent carets.length :: steps)
    | _ => return steps.reverse

/-- What stands in brackets up to the closing one; the branches read so far come last one first. -/
def brackets : Nat → List Step → Reader Step
  | 0, _ => fail .nestingTooDeep
  | fuel + 1, before => do
    skipBlanks
    let c ← demand
    let step ←
      if c = '*' then do
        advance
        pure .wildcard
      else if c = '\'' || c = '"' then pure (.name (← quoted c))
      else if c = '?' then do
        advance
        pure (.filter (← filter fuel))
      else if c = '-' || c = ':' || isAsciiDigit c then indexOrSlice
      else fail .syntaxError
    skipBlanks
    let c ← demand
    if c = ',' then
      advance
      brackets fuel (step :: before)
    else if c = ']' then
      advance
      return if before.isEmpty then step else .union (step :: before).reverse
    else fail .expectedRightBracket

/-- A filter expression up to a parenthesis, bracket or comma that does not belong to it. -/
def filter : Nat → Reader Filter
  | 0 => fail .nestingTooDeep
  | fuel + 1 => do
    enter
    operandPosition fuel {}

/-- A filter from where an operand is expected. -/
def operandPosition : Nat → Stacks → Reader Filter
  | 0, _ => fail .nestingTooDeep
  | fuel + 1, s => do
    skipBlanks
    match ← current with
    | some '!' =>
      advance
      operandPosition fuel { s with pending := .unary .not :: s.pending }
    | some '(' =>
      advance
      enter
      operandPosition fuel { s with pending := .paren :: s.pending, parens := s.parens + 1 }
    | c =>
      if c = some '-' && !(← next).any isAsciiDigit then
        advance
        operandPosition fuel { s with pending := .unary .minus :: s.pending }
      else
        let f ← operand fuel
        afterOperand fuel { s with operands := (f, 1) :: s.operands }

/-- A filter from behind an operand. -/
def afterOperand : Nat → Stacks → Reader Filter
  | 0, _ => fail .nestingTooDeep
  | fuel + 1, s => do
    skipBlanks
    match ← current with
    | none => finish s
    | some c =>
      if c = ')' && 0 < s.parens then
        advance
        afterOperand fuel (← closeParen s)
      else if c = '=' && (← next) = some '~' then
        advance
        advance
        afterOperand fuel (← matchTop (← pattern) s)
      else if c = ')' || c = ']' || c = ',' then finish s
      else
        let op ← binaryOperator
        operandPosition fuel (← pushBinary op s)

/-- An operand of a filter. -/
def operand : Nat → Reader Filter
  | 0 => fail .nestingTooDeep
  | fuel + 1 => do
    let c ← demand
    if c = '@' || c = '$' then
      enter
      let steps ← path fuel
      leave
      return .path steps
    else if c = '\'' || c = '"' then return .literal (.string (← quoted c))
    else if c = '-' || isAsciiDigit c then number
    else if isNameStart c then
      let word ← readWhile isNamePart
      match literalWord? word with
      | some json => return .literal json
      | none =>
        skipBlanks
        if (← current) != some '(' then fail .syntaxError
        call fuel (String.ofList word)
    else fail .syntaxError

/-- A call; the current character is its opening parenthesis. -/
def call : Nat → String → Reader Filter
  | 0, _ => fail .nestingTooDeep
  | fuel + 1, name => do
    match (← read).find? name with
    | none => fail (.unknownFunction name)
    | some function =>
      advance
      enter
      skipBlanks
      let args ←
        if (← current) = some ')' then do
          advance
          pure []
        else arguments fuel
      leave
      match function.arity with
      | some expected =>
        if expected != args.length then fail (.invalidArity name expected args.length)
      | none => pure ()
      return .call function args

/-- The arguments of a call up to its closing parenthesis, which is consumed. -/
def arguments : Nat → Reader (List Filter)
  | 0 => fail .nestingTooDeep
  | fuel + 1 => do
    let arg ← filter fuel
    let c ← demand
    if c = ',' then
      advance
      return arg :: (← arguments fuel)
    else if c = ')' then
      advance
      return [arg]
    else fail .expectedRightParen

end

/-- A whole path text. -/
def whole : Reader (List Step) := do
  skipBlanks
  if (← demand) != '$' then fail .syntaxError
  let steps ← path (8 * ((← get).cursor.rest.length + 2))
  skipBlanks
  if (← get).cursor.atEnd then return steps else fail .syntaxError

end Reader

/-- The steps of a path text, with functions from a registry. -/
def parseSteps (text : String) (registry : Registry) : Except ParseError (List Step) :=
  (Reader.whole.run registry).run' { cursor := Cursor.start text }

end JsonQuery.Path
