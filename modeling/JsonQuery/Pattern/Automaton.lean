/-
# JsonQuery.Pattern.Automaton — how large patterns become.

A pattern is matched by automata that read bytes, one forwards and one backwards, and patterns whose
automata would take too much memory are rejected.  No automaton is built here: what is counted is
the number of its states and the memory of the links at states with any number of them.  A counted
repetition repeats the states of what it repeats.

A set past ASCII becomes a graph of byte ranges in which equal continuations are shared.  Shared
states are found in a table of fixed size, where a later entry overwrites an earlier one in the same
slot, so that some states are built twice; the numbers of the states decide about the slots.
-/
import Std.Data.HashMap
import JsonQuery.Pattern.Basic
import JsonQuery.Text.ByteRange

namespace JsonQuery.Pattern

open Text (ByteRange utf8Bytes)

/-- The direction in which an automaton reads. -/
inductive Direction where
  | forward
  | backward
  deriving DecidableEq, Repr

/-- What has been counted so far. -/
structure Automaton where
  states : Nat := 0
  /-- The bytes of links, besides those of the states. -/
  links : Nat := 0
  /-- Whether the part counted last ends at a state from which a link leads back; a link out of it
  takes room, as it does not at other ends. -/
  openEnd : Bool := false

namespace Automaton

/-- The bytes of an automaton. -/
def memory (a : Automaton) : Nat := 32 * a.states + a.links

/-- The most bytes that an automaton may take. -/
def maxMemory : Nat := 10485760

/-- Whether an automaton takes too much memory. -/
def tooLarge (a : Automaton) : Bool := maxMemory < a.memory

/-- More states, the last of which is the end. -/
def addStates (n : Nat) (a : Automaton) : Automaton :=
  { a with states := a.states + n, openEnd := false }

/-- More bytes of links. -/
def addLinks (n : Nat) (a : Automaton) : Automaton := { a with links := a.links + n }

/-- A link out of the end, to what comes next. -/
def leave (a : Automaton) : Automaton :=
  if a.openEnd then { a with links := a.links + 4, openEnd := false } else a

/-- A state that is the end and leads back too. -/
def addLoop (a : Automaton) : Automaton :=
  { (a.leave.addStates 1).addLinks 4 with openEnd := true }

/-- Counts a number of copies one after another, unless there is no room for them. -/
def copies (grow : Automaton → Automaton) : Nat → Automaton → Automaton
  | 0, a => a
  | n + 1, a => if a.tooLarge then a else copies grow n (grow a.leave)

/-! ## Sets -/

/-- Mixes some numbers into a hash. -/
def mix : UInt64 → List Nat → UInt64
  | hash, [] => hash
  | hash, n :: rest => mix ((hash ^^^ n.toUInt64) * 1099511628211) rest

/-- The slot of some numbers in a table. -/
def slot (size : UInt64) (key : List Nat) : UInt64 := mix 14695981039346656037 key % size

/-- States under numbers that tell what they do, of which one is kept in each slot. -/
abbrev Known := Std.HashMap UInt64 (List Nat × Nat)

/-- The state for a key, which is added with the bytes of its links if it is not known. -/
def state (size : UInt64) (key : List Nat) (links : Nat) (a : Automaton) (known : Known) :
    Nat × Automaton × Known :=
  let place := slot size key
  let add := (a.states, (a.addStates 1).addLinks links, known.insert place (key, a.states))
  match known[place]? with
  | some (key', n) => if key' = key then (n, a, known) else add
  | none => add

/-- A link for the bytes of a range. -/
structure Link where
  bytes : ByteRange
  target : Nat

/-- A state that may still get links: those it has, and the range of one whose target is not known
yet. -/
structure Unfinished where
  links : List Link
  pending : ByteRange

/-- The state of some links. -/
def ofLinks (links : List Link) (a : Automaton) (known : Known) : Nat × Automaton × Known :=
  let key := links.flatMap fun link => [link.bytes.first, link.bytes.last, link.target]
  state 10000 key (8 * links.length) a known

/-- The state of the first of some unfinished states, each of which is the target of the one before
it; the last leads to the end. -/
def finish (end_ : Nat) : List Unfinished → Automaton → Known → Nat × Automaton × Known
  | [], a, known => (end_, a, known)
  | u :: rest, a, known =>
    let (target, a, known) := finish end_ rest a known
    ofLinks (u.links ++ [⟨u.pending, target⟩]) a known

/-- Adds a product of byte ranges; what it starts with may be unfinished already. -/
def addProduct (end_ : Nat) : List ByteRange → List Unfinished → Automaton → Known →
    List Unfinished × Automaton × Known
  | [], unfinished, a, known => (unfinished, a, known)
  | r :: rest, [], a, known => (⟨[], r⟩ :: rest.map (⟨[], ·⟩), a, known)
  | r :: rest, u :: below, a, known =>
    if u.pending = r then
      let (below, a, known) := addProduct end_ rest below a known
      (u :: below, a, known)
    else
      let (target, a, known) := finish end_ below a known
      (⟨u.links ++ [⟨u.pending, target⟩], r⟩ :: rest.map (⟨[], ·⟩), a, known)

/-- Counts a set past ASCII for reading forwards. -/
def addSetForward (products : List (List ByteRange)) (a : Automaton) : Automaton :=
  let end_ := a.states
  let (unfinished, a, known) := products.foldl
    (fun (unfinished, a, known) product => addProduct end_ product unfinished a known)
    ([], a.addStates 1, ∅)
  (finish end_ unfinished a known).2.1

/-- Counts one product for reading backwards: a state for each range, that of the last byte first to
be entered. -/
def addChain : List ByteRange → Nat → Automaton → Known → Automaton × Known
  | [], _, a, known => (a, known)
  | r :: rest, target, a, known =>
    let (n, a, known) := state 1000 [target, r.first, r.last] 0 a known
    addChain rest n a known

/-- Counts a set past ASCII for reading backwards. -/
def addSetBackward (products : List (List ByteRange)) (a : Automaton) : Automaton :=
  let a := a.addStates 2
  let end_ := a.states - 1
  (products.foldl
    (fun (a, known) product =>
      let (a, known) := addChain product end_ a known
      (a.addLinks 4, known))
    (a, (∅ : Known))).1

/-- Counts a set. -/
def addSet (d : Direction) (s : CharSet) (a : Automaton) : Automaton :=
  if a.tooLarge then a
  else if s.isAscii then (a.addStates 2).addLinks (8 * s.ranges.length)
  else
    let products := s.ranges.flatMap (·.byteRanges)
    match d with
    | .forward => addSetForward products a
    | .backward => addSetBackward products a

/-! ## Texts -/

/-- The bytes of a text in the order in which they are read. -/
def textBytes (d : Direction) (cs : List Char) : List Nat :=
  let bytes := cs.flatMap utf8Bytes
  match d with
  | .forward => bytes
  | .backward => bytes.reverse

/-- Counts the tree of some words from one node on.  The words that end there divide the others into
runs, each of which has links of its own. -/
def addTree : Nat → List (List Nat) → Automaton → Automaton
  | 0, _, a => a
  | fuel + 1, words, a =>
    if words.all List.isEmpty then a
    else
      let runs := words.splitBy fun v w => v.isEmpty == w.isEmpty
      let ends := (runs.drop 1).map fun run => if run.all List.isEmpty then run.length else 0
      let early := if words.head?.any List.isEmpty then 1 else 0
      let inner := runs.filter fun run => !run.all List.isEmpty
      let a := inner.foldl
        (fun a run =>
          let bytes := (run.filterMap List.head?).eraseDups
          let a := bytes.foldl
            (fun a b => addTree fuel ((run.filter (·.head? == some b)).map List.tail) a) a
          (a.addStates 1).addLinks (if 1 < bytes.length then 8 * bytes.length else 0))
        a
      (a.addStates 1).addLinks (4 * (inner.length + early + ends.sum))

/-- Counts a choice between texts. -/
def addWords (d : Direction) (words : List (List Char)) (a : Automaton) : Automaton :=
  let words := words.map (textBytes d)
  addTree (words.foldl (fun n w => max n w.length) 0 + 1) words (a.addStates 1)

end Automaton

/-! ## Expressions -/

namespace Regex

open Automaton (copies)

/-- The text that an expression is. -/
def text? : Regex → Option (List Char)
  | .text cs => some cs
  | _ => none

mutual

/-- Counts an expression. -/
def grow (d : Direction) : Regex → Automaton → Automaton
  | .text cs, a => a.addStates (cs.foldl (fun n c => n + c.utf8Size) 0)
  | .set s, a => a.addSet d s
  | .look _, a => a.addStates 1
  | .group _ r, a =>
    match d with
    | .forward => (r.grow d (a.addStates 1)).leave.addStates 1
    | .backward => r.grow d a
  | .repetition r least none _, a =>
    if 0 < least then (copies (r.grow d) least a).addLoop
    else if r.alwaysReads then
      { (r.grow d (a.addStates 1)).leave.addLinks 4 with openEnd := true }
    else ((r.grow d a).leave.addStates 3).addLinks 16
  | .repetition r 0 (some 1) _, a => ((r.grow d (a.addStates 1)).leave.addStates 1).addLinks 8
  | .repetition r least (some most) _, a =>
    let a := if least = 0 then a.addStates 1 else copies (r.grow d) least a
    if least = most then a
    else
      let open_ := a.openEnd
      let a := { a.addStates 1 with openEnd := open_ }
      (copies (fun a => (r.grow d (a.addStates 1)).addLinks 8) (most - least) a).leave
  | .sequence [], a => a.addStates 1
  | .sequence parts, a => growParts d parts a
  | .choice branches, a =>
    match branches.mapM text? with
    | some words => a.addWords d words
    | none => growBranches d 0 branches a

/-- Counts the parts of a sequence in the order in which they are read. -/
def growParts (d : Direction) : List Regex → Automaton → Automaton
  | [], a => a
  | r :: rest, a =>
    match d with
    | .forward => growParts d rest (r.grow d a.leave)
    | .backward => r.grow d (growParts d rest a).leave

/-- Counts the branches of a choice; the states that they start from and end at come behind the
second of them. -/
def growBranches (d : Direction) (before : Nat) : List Regex → Automaton → Automaton
  | [], a => a
  | r :: rest, a =>
    let a := (r.grow d a).leave.addLinks 4
    growBranches d (before + 1) rest (if before = 1 then a.addStates 2 else a)

end

mutual

/-- Whether every match starts at the start of the text, as far as the first tests tell. -/
def startsAnchored : Regex → Bool
  | .look .textStart => true
  | .group _ r => r.startsAnchored
  | .repetition r least _ _ => 0 < least && r.startsAnchored
  | .sequence parts => anyStartsAnchored parts
  | .choice branches => allStartAnchored branches
  | _ => false

/-- The same of a sequence. -/
def anyStartsAnchored : List Regex → Bool
  | [] => false
  | r :: rest => r.startsAnchored || (r.neverReads && anyStartsAnchored rest)

/-- The same of a choice. -/
def allStartAnchored : List Regex → Bool
  | [] => true
  | r :: rest => r.startsAnchored && allStartAnchored rest

end

mutual

/-- Whether every match ends at the end of the text, as far as the last tests tell. -/
def endsAnchored : Regex → Bool
  | .look .textEnd => true
  | .group _ r => r.endsAnchored
  | .repetition r least _ _ => 0 < least && r.endsAnchored
  | .sequence parts => anyEndsAnchored parts
  | .choice branches => allEndAnchored branches
  | _ => false

/-- The same of a sequence. -/
def anyEndsAnchored : List Regex → Bool
  | [] => false
  | r :: rest => anyEndsAnchored rest || (allNeverRead rest && r.endsAnchored)

/-- The same of a choice. -/
def allEndAnchored : List Regex → Bool
  | [] => true
  | r :: rest => r.endsAnchored && allEndAnchored rest

end

/-- The automaton of an expression.  Unless matches start at the end that is read first, a loop over
all bytes comes before it; reading forwards, the whole match counts as a group. -/
def automaton (d : Direction) (r : Regex) : Automaton :=
  let anchored := match d with
    | .forward => r.startsAnchored
    | .backward => r.endsAnchored
  let start : Automaton := if anchored then { states := 1 } else { states := 3, links := 16 }
  match d with
  | .forward => ((r.grow d (start.addStates 1)).leave.addStates 1).addStates 1
  | .backward => (r.grow d start).leave.addStates 1

/-- Whether an automaton of an expression takes too much memory. -/
def tooLarge (r : Regex) : Bool :=
  (r.automaton .forward).tooLarge || (r.automaton .backward).tooLarge

end Regex

end JsonQuery.Pattern
