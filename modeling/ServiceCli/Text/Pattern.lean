import ServiceCli.Text.Blank
import ServiceCli.Text.CaseMapping
import ServiceCli.Text.Letters

/-!
Patterns for texts: regular expressions whose alternatives are tried in order. A pattern fits a text
if the first way to go on leads to its end; once an earlier way has come to an end of its own, later
ways are given up.
-/
namespace ServiceCli.Text

/-- A set of characters as a pattern writes it. -/
inductive CharSet where
  | none
  | range (first last : Char)
  | digit
  | space
  | word
  | not (s : CharSet)
  | union (s t : CharSet)
  /-- The characters that differ from one of the set in case only. -/
  | anyCase (s : CharSet)
deriving Repr, DecidableEq

namespace CharSet

def single (c : Char) : CharSet := range c c

/-- The other characters that a character is in another case, as long as it is one. -/
def caseVariants (c : Char) : List Char :=
  let alone (cs : List Char) : List Char :=
    match cs with
    | [d] => [d]
    | _ => []
  let upper := alone (upperChar c)
  let lower := alone (lowerChar c)
  upper ++ lower ++ upper.flatMap (alone ∘ lowerChar) ++ lower.flatMap (alone ∘ upperChar)

def contains : CharSet → Char → Bool
  | none, _ => false
  | range first last, c => first ≤ c && c ≤ last
  | digit, c => isDigitChar c
  | space, c => isBlank c
  | word, c => isWordChar c
  | not s, c => !s.contains c
  | union s t, c => s.contains c || t.contains c
  | anyCase s, c => s.contains c || (caseVariants c).any s.contains

end CharSet

inductive Pattern where
  | empty
  | one (s : CharSet)
  | both (p q : Pattern)
  | either (p q : Pattern)
  /-- Any number of times, and if greedy as often as possible. -/
  | many (greedy : Bool) (p : Pattern)
  | textStart
  | textEnd
deriving Repr, DecidableEq

/-- A way to go on: to read a character and then to fit further patterns, or to stop, in some cases
only where the text ends. -/
inductive Choice where
  | read (s : CharSet) (rest : List Pattern)
  | stop (onlyAtEnd : Bool)
deriving Repr, DecidableEq

namespace Choice

def isStop : Choice → Bool
  | stop _ => true
  | read .. => false

/-- The same way, if it may be taken in front of the end of the text only. -/
def atEnd? : Choice → Option Choice
  | stop _ => some (stop true)
  | read .. => none

/-- The patterns that are left after a character, if the way leads over it. -/
def after? (c : Char) : Choice → Option (List Pattern)
  | read s rest => if s.contains c then some rest else none
  | stop _ => none

/-- The ways up to the first that may stop anywhere. -/
def untilStop : List Choice → List Choice
  | [] => []
  | stop false :: _ => []
  | c :: cs => c :: untilStop cs

end Choice

namespace Pattern

/-- The ways to go on at a place, the preferred ones first. `rest` are the patterns that follow, and
`after` the ways to go on with these. -/
def choices (atStart : Bool) : Pattern → (rest : List Pattern) → (after : List Choice) → List Choice
  | empty, _, after => after
  | one s, rest, _ => [.read s rest]
  | both p q, rest, after => p.choices atStart (q :: rest) (q.choices atStart rest after)
  | either p q, rest, after => p.choices atStart rest after ++ q.choices atStart rest after
  | many true p, rest, after => p.choices atStart (many true p :: rest) after ++ after
  | many false p, rest, after => after ++ p.choices atStart (many false p :: rest) after
  | textStart, _, after => if atStart then after else []
  | textEnd, _, after => after.filterMap Choice.atEnd?

/-- The ways to go on with patterns that follow one another. -/
def allChoices (atStart : Bool) : List Pattern → List Choice
  | [] => [.stop false]
  | p :: ps => p.choices atStart ps (allChoices atStart ps)

/-- Whether one of `ways`, the preferred ones first, leads to the end of a text. -/
def fitsFrom : (atStart : Bool) → (ways : List (List Pattern)) → List Char → Bool
  | atStart, ways, [] => (ways.flatMap (allChoices atStart)).any (·.isStop)
  | atStart, ways, c :: cs =>
    let next := (Choice.untilStop (ways.flatMap (allChoices atStart))).filterMap (·.after? c)
    fitsFrom false next.eraseDups cs

/-- Whether a pattern fits a whole text. -/
def fits (p : Pattern) (s : String) : Bool := fitsFrom true [[p]] s.toList

end Pattern

end ServiceCli.Text
