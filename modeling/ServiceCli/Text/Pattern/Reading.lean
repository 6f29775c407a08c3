import ServiceCli.Text.Pattern

/-!
The written form of patterns. Readers take a list of characters and give what they read with the
characters after it, or nothing if these are no pattern. Braces are no part of it: counted
repetitions cannot be written.
-/
namespace ServiceCli.Text.Pattern

/-- What flags say about the patterns after them. -/
structure Flags where
  anyCase : Bool := false
  /-- A dot also stands for a line break. -/
  dotAll : Bool := false
  /-- Repetitions are as short as possible unless a question mark follows them. -/
  swapGreed : Bool := false

def hexValue? (c : Char) : Option Nat :=
  if '0' ≤ c ∧ c ≤ '9' then some (c.toNat - '0'.toNat)
  else if 'a' ≤ c ∧ c ≤ 'f' then some (c.toNat - 'a'.toNat + 10)
  else if 'A' ≤ c ∧ c ≤ 'F' then some (c.toNat - 'A'.toNat + 10)
  else none

/-- A character given by exactly `count` hexadecimal digits of its number. -/
def readNumbered (count : Nat) (cs : List Char) : Option (Char × List Char) := do
  let digits ← (cs.take count).mapM hexValue?
  let n := digits.foldl (fun n d => 16 * n + d) 0
  if digits.length = count ∧ n.isValidChar then some (Char.ofNat n, cs.drop count) else none

/-- Part of a set: one character, which may begin a range, or more. -/
inductive SetItem where
  | char (c : Char)
  | set (s : CharSet)

def SetItem.toSet (flags : Flags) : SetItem → CharSet
  | char c => if flags.anyCase then .anyCase (.single c) else .single c
  | set s => s

/-- The ASCII characters that are neither letters nor digits stand for themselves after a backslash,
except angle brackets. -/
def isEscapable (c : Char) : Bool :=
  c.toNat < 0x80 && !c.isAlphanum && c ≠ '<' && c ≠ '>'

/-- What stands after a backslash, inside brackets or not. -/
def readEscape : List Char → Option (SetItem × List Char)
  | [] => none
  | c :: cs =>
    match c with
    | 'd' => some (.set .digit, cs)
    | 'D' => some (.set (.not .digit), cs)
    | 's' => some (.set .space, cs)
    | 'S' => some (.set (.not .space), cs)
    | 'w' => some (.set .word, cs)
    | 'W' => some (.set (.not .word), cs)
    | 'n' => some (.char '\n', cs)
    | 't' => some (.char '\t', cs)
    | 'r' => some (.char '\r', cs)
    | 'f' => some (.char '\x0c', cs)
    | 'v' => some (.char '\x0b', cs)
    | 'a' => some (.char '\x07', cs)
    | 'x' => (readNumbered 2 cs).map fun (c, cs) => (.char c, cs)
    | 'u' => (readNumbered 4 cs).map fun (c, cs) => (.char c, cs)
    | 'U' => (readNumbered 8 cs).map fun (c, cs) => (.char c, cs)
    | c => if isEscapable c then some (.char c, cs) else none

/-- Sets that are named between colons; all of them are ASCII. -/
def namedSets : List (String × List (Char × Char)) :=
  [("alnum", [('0', '9'), ('A', 'Z'), ('a', 'z')]), ("alpha", [('A', 'Z'), ('a', 'z')]),
   ("ascii", [('\x00', '\x7f')]), ("blank", [('\t', '\t'), (' ', ' ')]),
   ("cntrl", [('\x00', '\x1f'), ('\x7f', '\x7f')]), ("digit", [('0', '9')]),
   ("graph", [('!', '~')]), ("lower", [('a', 'z')]), ("print", [(' ', '~')]),
   ("punct", [('!', '/'), (':', '@'), ('[', '\x60'), ('\x7b', '~')]),
   ("space", [('\t', '\r'), (' ', ' ')]), ("upper", [('A', 'Z')]),
   ("word", [('0', '9'), ('A', 'Z'), ('a', 'z'), ('_', '_')]),
   ("xdigit", [('0', '9'), ('A', 'F'), ('a', 'f')])]

/-- A named set after its opening bracket and colon. -/
def readNamedSet (flags : Flags) (cs : List Char) : Option (CharSet × List Char) := do
  let negated := cs.head? = some '^'
  let cs := if negated then cs.tail else cs
  let name := cs.takeWhile Char.isAlpha
  let ranges ← namedSets.lookup (String.ofList name)
  let set := ranges.foldl (fun s (a, b) => CharSet.union s (.range a b)) CharSet.none
  let set := if flags.anyCase then CharSet.anyCase set else set
  match cs.drop name.length with
  | ':' :: ']' :: rest => some (if negated then .not set else set, rest)
  | _ => none

/-- One item of a set that is no set in brackets itself. -/
def readSetItem : List Char → Option (SetItem × List Char)
  | [] => none
  | '\\' :: cs => readEscape cs
  | c :: cs => some (.char c, cs)

/-- A range, or a single item if no range begins with it. -/
def readRange (flags : Flags) (cs : List Char) : Option (CharSet × List Char) := do
  let (first, rest) ← readSetItem cs
  match rest with
  | '-' :: ']' :: _ | '-' :: '-' :: _ => some (first.toSet flags, rest)
  | '-' :: rest =>
    match first, ← readSetItem rest with
    | .char a, (.char b, rest) =>
      if b < a then none
      else some (if flags.anyCase then .anyCase (.range a b) else .range a b, rest)
    | _, _ => none
  | _ => some (first.toSet flags, rest)

mutual

/-- A set after its opening bracket. A closing bracket and hyphens at its beginning stand for
themselves. -/
def readSet : (fuel : Nat) → Flags → List Char → Option (CharSet × List Char)
  | 0, _, _ => none
  | fuel + 1, flags, cs => do
    let negated := cs.head? = some '^'
    let cs := if negated then cs.tail else cs
    let hyphens := cs.takeWhile (· == '-')
    let cs := cs.drop hyphens.length
    let start := if hyphens = [] then CharSet.none else .single '-'
    let bracket := hyphens = [] && cs.head? = some ']'
    let start := if bracket then .union start (.single ']') else start
    let (s, rest) ← readSetItems fuel flags start (if bracket then cs.tail else cs)
    return (if negated then .not s else s, rest)

/-- The items of a set up to its closing bracket, added to those already read. -/
def readSetItems : (fuel : Nat) → Flags → CharSet → List Char → Option (CharSet × List Char)
  | 0, _, _, _ => none
  | fuel + 1, flags, sofar, cs =>
    match cs with
    | ']' :: rest => some (sofar, rest)
    | '&' :: '&' :: _ | '-' :: '-' :: _ | '~' :: '~' :: _ => none
    | '[' :: ':' :: rest =>
      match readNamedSet flags rest with
      | some (s, rest) => readSetItems fuel flags (.union sofar s) rest
      | none => (readSet fuel flags (':' :: rest)).bind fun (s, rest) =>
        readSetItems fuel flags (.union sofar s) rest
    | '[' :: rest =>
      (readSet fuel flags rest).bind fun (s, rest) =>
        readSetItems fuel flags (.union sofar s) rest
    | cs =>
      (readRange flags cs).bind fun (s, rest) =>
        readSetItems fuel flags (.union sofar s) rest

end

/-- Flags up to the colon or the parenthesis that ends them; those after a hyphen are taken back. -/
def readFlags : (on : Bool) → Flags → List Char → Option (Flags × List Char)
  | _, _, [] => none
  | on, flags, c :: cs =>
    match c with
    | 'i' => readFlags on { flags with anyCase := on } cs
    | 's' => readFlags on { flags with dotAll := on } cs
    | 'U' => readFlags on { flags with swapGreed := on } cs
    | 'u' | 'm' | 'R' => readFlags on flags cs
    | '-' => if on then readFlags false flags cs else none
    | ':' | ')' => some (flags, c :: cs)
    | _ => none

/-- The name of a group and the angle bracket after it. -/
def skipGroupName (cs : List Char) : Option (List Char) :=
  let name := cs.takeWhile fun c => c == '_' || c == '.' || isAlphanumeric c
  match name, cs.drop name.length with
  | c :: _, '>' :: rest => if c.isDigit || c == '.' then none else some rest
  | _, _ => none

/-- What an opening parenthesis begins: flags for what follows, or a group with flags of its own. -/
inductive Opening where
  | flags (flags : Flags)
  | group (flags : Flags)

def readOpening (flags : Flags) : List Char → Option (Opening × List Char)
  | '?' :: 'P' :: '<' :: cs | '?' :: '<' :: cs => (skipGroupName cs).map (.group flags, ·)
  | '?' :: cs =>
    match readFlags true flags cs with
    | some (inner, ':' :: rest) => some (.group inner, rest)
    | some (after, ')' :: rest) =>
      if rest.length + 1 = cs.length then none else some (.flags after, rest)
    | _ => none
  | cs => some (.group flags, cs)

/-- Repetitions that follow a pattern, each of them repeating what stands before it. -/
def readRepetitions (flags : Flags) : (fuel : Nat) → Pattern → List Char → Pattern × List Char
  | 0, p, cs => (p, cs)
  | fuel + 1, p, cs =>
    match cs with
    | [] => (p, [])
    | mark :: rest =>
      let isLazy := rest.head? = some '?'
      let after := if isLazy then rest.tail else rest
      let greedy := isLazy == flags.swapGreed
      match mark with
      | '*' => readRepetitions flags fuel (.many greedy p) after
      | '+' => readRepetitions flags fuel (.both p (.many greedy p)) after
      | '?' =>
        readRepetitions flags fuel (if greedy then .either p .empty else .either .empty p) after
      | _ => (p, cs)

/-- A pattern that is no group: a character, a set or an end of the text. -/
def readAtom (flags : Flags) : List Char → Option (Pattern × List Char)
  | [] => none
  | c :: cs =>
    match c with
    | '*' | '+' | '?' | '\x7b' => none
    | '.' => some (.one (if flags.dotAll then .not .none else .not (.single '\n')), cs)
    | '^' => some (.textStart, cs)
    | '$' => some (.textEnd, cs)
    | '[' => (readSet (cs.length + 1) flags cs).map fun (s, rest) => (.one s, rest)
    | '\\' =>
      match cs with
      | 'A' :: rest => some (.textStart, rest)
      | 'z' :: rest => some (.textEnd, rest)
      | _ => (readEscape cs).map fun (item, rest) => (.one (item.toSet flags), rest)
    | c => some (.one ((SetItem.char c).toSet flags), cs)

/-- Adds an alternative after the earlier ones. -/
def withAlternative : Option Pattern → Pattern → Pattern
  | none, p => p
  | some earlier, p => .either earlier p

/-- The alternatives up to the parenthesis that ends their group or to the end of the text.
`earlier` are those that are complete, and `current` is the beginning of the next. -/
def readAlternatives : (fuel : Nat) → Flags → (earlier : Option Pattern) → (current : Pattern) →
    List Char → Option (Pattern × List Char)
  | 0, _, _, _, _ => none
  | fuel + 1, flags, earlier, current, cs =>
    match cs with
    | [] => some (withAlternative earlier current, [])
    | ')' :: _ => some (withAlternative earlier current, cs)
    | '|' :: rest =>
      readAlternatives fuel flags (some (withAlternative earlier current)) .empty rest
    | '(' :: rest => do
      match ← readOpening flags rest with
      | (.flags after, rest) => readAlternatives fuel after earlier current rest
      | (.group inner, rest) =>
        match ← readAlternatives fuel inner none .empty rest with
        | (p, ')' :: rest) =>
          let (p, rest) := readRepetitions flags rest.length p rest
          readAlternatives fuel flags earlier (.both current p) rest
        | _ => none
    | cs => do
      let (p, rest) ← readAtom flags cs
      let (p, rest) := readRepetitions flags rest.length p rest
      readAlternatives fuel flags earlier (.both current p) rest

/-- The pattern that a text writes. -/
def ofChars? (cs : List Char) : Option Pattern :=
  match readAlternatives (cs.length + 1) {} none .empty cs with
  | some (p, []) => some p
  | _ => none

end ServiceCli.Text.Pattern
