/-
# JsonQuery.Pattern.Match — where a pattern matches.

A regular expression moves sets of places in a text: from the places where a match may start to the
places where it may end.  A set of places is a number: bit `i` tells whether the place before the
character with the number `i` belongs to it.  For one text an expression becomes a motion, in which
every set of characters and every test is such a number too.  A pattern matches a text if it leads
from some place to some place.
-/
import JsonQuery.Pattern.Basic
import JsonQuery.Pattern.CharClass

namespace JsonQuery.Pattern

/-! ## Places -/

/-- A set of places. -/
abbrev Places := Nat

/-- The places whose entry is true. -/
def Places.ofList (entries : List Bool) : Places :=
  entries.foldr (fun here rest => 2 * rest + here.toNat) 0

/-- All places of a text. -/
def Places.all (text : List Char) : Places := (1 <<< (text.length + 1)) - 1

/-- The places of the first set that the second has not. -/
def Places.diff (a b : Places) : Places := (a ||| b) ^^^ b

/-- The characters before and behind a place. -/
abbrev Surroundings := Option Char × Option Char

/-- The surroundings of every place of a text. -/
def surroundings (text : List Char) : List Surroundings :=
  (none :: text.map some).zip (text.map some ++ [none])

/-- Whether a character that may be missing is part of a word. -/
def inWord (unicode : Bool) (c : Option Char) : Bool :=
  c.any fun c => (if unicode then CharSet.wordChars else CharSet.asciiWordChars).contains c.toNat

/-- Whether a test passes at a place. -/
def Look.holds : Look → Surroundings → Bool
  | .textStart, (before, _) => before.isNone
  | .textEnd, (_, behind) => behind.isNone
  | .lineStart, (before, _) => before.isNone || before == some '\n'
  | .lineEnd, (_, behind) => behind.isNone || behind == some '\n'
  | .anyLineStart, (before, behind) =>
    before.isNone || before == some '\n' || (before == some '\r' && behind != some '\n')
  | .anyLineEnd, (before, behind) =>
    behind.isNone || behind == some '\r' || (behind == some '\n' && before != some '\r')
  | .boundary u, (before, behind) => inWord u before != inWord u behind
  | .noBoundary u, (before, behind) => inWord u before == inWord u behind
  | .wordStart u, (before, behind) => !inWord u before && inWord u behind
  | .wordEnd u, (before, behind) => inWord u before && !inWord u behind
  | .wordStartHalf u, (before, _) => !inWord u before
  | .wordEndHalf u, (_, behind) => !inWord u behind

/-! ## Motions -/

/-- What an expression does to sets of places of one text. -/
inductive Motion where
  /-- One step from each of some places. -/
  | step (places : Places)
  /-- No step, at some places. -/
  | stay (places : Places)
  | concat (m n : Motion)
  | either (m n : Motion)
  /-- At least `least` times, and up to `optional` times more. -/
  | repetition (m : Motion) (least optional : Nat)

/-- Applies a move a number of times, or until it changes nothing. -/
def iterate (move : Places → Places) : Nat → Places → Places
  | 0, places => places
  | n + 1, places =>
    let next := move places
    if next = places then places else iterate move n next

/-- The places that up to a number of moves lead to, from a set all of whose places have been
reached; only places reached last are moved again. -/
def reach (move : Places → Places) : Nat → Places → Places → Places
  | 0, reached, _ => reached
  | n + 1, reached, latest =>
    if latest = 0 then reached
    else
      let next := Places.diff (move latest) reached
      reach move n (reached ||| next) next

/-- From the places where a match may start to those where it may end. -/
def Motion.apply : Motion → Places → Places
  | .step here, places => (places &&& here) <<< 1
  | .stay here, places => places &&& here
  | .concat m n, places => n.apply (m.apply places)
  | .either m n, places => m.apply places ||| n.apply places
  | .repetition m least optional, places =>
    let start := iterate m.apply least places
    reach m.apply optional start start

namespace Regex

/-- The motion that steps over characters of a kind. -/
def stepOver (text : List Char) (accept : Char → Bool) : Motion :=
  .step (Places.ofList (text.map accept))

mutual

/-- The motion of an expression.  A move does not lead back, so that one round for each place
suffices, and one more changes nothing. -/
def motion (text : List Char) : Regex → Motion
  | .text cs =>
    cs.foldr (fun c m => .concat (stepOver text (· == c)) m) (.stay (Places.all text))
  | .set s => stepOver text fun c => s.contains c.toNat
  | .look l => .stay (Places.ofList ((surroundings text).map l.holds))
  | .group _ r => r.motion text
  | .repetition r least most _ =>
    let rounds := text.length + 1
    .repetition (r.motion text) (min least rounds)
      (most.elim rounds fun most => min (most - least) rounds)
  | .sequence parts => sequenceMotion text parts
  | .choice branches => choiceMotion text branches

/-- The motion of expressions one after another. -/
def sequenceMotion (text : List Char) : List Regex → Motion
  | [] => .stay (Places.all text)
  | r :: rest => .concat (r.motion text) (sequenceMotion text rest)

/-- The motion of one of some expressions. -/
def choiceMotion (text : List Char) : List Regex → Motion
  | [] => .stay 0
  | r :: rest => .either (r.motion text) (choiceMotion text rest)

end

end Regex

/-- Whether the pattern matches somewhere in a text. -/
def isMatch (p : Pattern) (text : String) : Bool :=
  let cs := text.toList
  (p.regex.motion cs).apply (Places.all cs) != 0

end JsonQuery.Pattern
