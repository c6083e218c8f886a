/-
# JsonQuery.Pattern.Basic — regular expressions over Unicode text.

A pattern is built from texts, sets of characters and tests at a place by sequences, choices and
repetition.  Patterns have neither back-references nor tests that look further than one character,
so they describe sets of texts in the strict sense: which of several ways to match is taken is never
visible.  Groups and the order of preference are kept because they tell expressions apart.
-/
import JsonQuery.Pattern.CharSet

namespace JsonQuery.Pattern

/-- A test at a place between two characters. -/
inductive Look where
  | textStart
  | textEnd
  | lineStart
  | lineEnd
  /-- Line ends at a carriage return, a line feed, or both together. -/
  | anyLineStart
  | anyLineEnd
  | boundary (unicode : Bool)
  | noBoundary (unicode : Bool)
  | wordStart (unicode : Bool)
  | wordEnd (unicode : Bool)
  | wordStartHalf (unicode : Bool)
  | wordEndHalf (unicode : Bool)
  deriving DecidableEq, Repr

/-- A regular expression. -/
inductive Regex where
  /-- Some characters one after another. -/
  | text (cs : List Char)
  | set (s : CharSet)
  | look (l : Look)
  /-- A group with its number. -/
  | group (number : Nat) (r : Regex)
  /-- At least `least` times and at most `most` times, if there is a limit; a greedy repetition
  prefers more times. -/
  | repetition (r : Regex) (least : Nat) (most : Option Nat) (greedy : Bool)
  | sequence (parts : List Regex)
  | choice (branches : List Regex)

namespace Regex

/-- Matches at every place without reading. -/
def empty : Regex := .sequence []

/-! ## Equality -/

mutual

/-- Whether two expressions are the same. -/
def same : Regex → Regex → Bool
  | .text cs, .text ds => cs == ds
  | .set s, .set t => s == t
  | .look l, .look m => l == m
  | .group i r, .group j s => i == j && r.same s
  | .repetition r least most greedy, .repetition s least' most' greedy' =>
    least == least' && most == most' && greedy == greedy' && r.same s
  | .sequence rs, .sequence ss => allSame rs ss
  | .choice rs, .choice ss => allSame rs ss
  | _, _ => false

/-- Whether the expressions of two lists are the same one by one. -/
def allSame : List Regex → List Regex → Bool
  | [], [] => true
  | r :: rs, s :: ss => r.same s && allSame rs ss
  | _, _ => false

end

/-! ## Lengths -/

mutual

/-- A number of characters that every match reads; none if nothing matches. -/
def leastLength : Regex → Option Nat
  | .text cs => some cs.length
  | .set s => if s.ranges.isEmpty then none else some 1
  | .look _ => some 0
  | .group _ r => r.leastLength
  | .repetition r least _ _ => r.leastLength.map (· * least)
  | .sequence parts => leastSum parts
  | .choice branches => leastOf branches

/-- The sum of the lengths. -/
def leastSum : List Regex → Option Nat
  | [] => some 0
  | r :: rest => do return (← r.leastLength) + (← leastSum rest)

/-- The smallest of the lengths. -/
def leastOf : List Regex → Option Nat
  | [] => none
  | [r] => r.leastLength
  | r :: rest => do return min (← r.leastLength) (← leastOf rest)

end

/-- Whether every match reads a character. -/
def alwaysReads (r : Regex) : Bool := r.leastLength.any (0 < ·)

mutual

/-- Whether no match reads a character. -/
def neverReads : Regex → Bool
  | .text cs => cs.isEmpty
  | .set _ => false
  | .look _ => true
  | .group _ r => r.neverReads
  | .repetition r _ most _ => most.isSome && r.neverReads
  | .sequence parts => allNeverRead parts
  | .choice branches => allNeverRead branches

/-- Whether none of some expressions reads a character. -/
def allNeverRead : List Regex → Bool
  | [] => true
  | r :: rest => r.neverReads && allNeverRead rest

end

end Regex

end JsonQuery.Pattern

namespace JsonQuery

/-- A pattern: its text, and the regular expression that the text describes. -/
structure Pattern where
  source : String
  regex : Pattern.Regex

end JsonQuery
