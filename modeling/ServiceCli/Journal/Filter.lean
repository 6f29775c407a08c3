import ServiceCli.Journal
import ServiceCli.Number.Numeral
import ServiceCli.Text.Blank
import ServiceCli.Text.Pattern.Reading
import ServiceCli.Text.Pieces

/-!
Which entries of a log are written. A filter is a list of directives with commas between them. A
directive is a level, a target, or both as `target=level`; in square brackets after the target it
may name a span, and in braces fields with or without values. Directives without a span and without
values select events by their fields; directives with a span or with fields select what happens
inside the span of a service.
-/
namespace ServiceCli

/-- What a directive asks of the value of a field. -/
inductive ValuePattern where
  /-- To be a truth value or a number. -/
  | plain
  | text (pattern : Text.Pattern)
deriving Repr, DecidableEq

structure FieldPattern where
  name : String
  value : Option ValuePattern := none
deriving Repr, DecidableEq

structure Directive where
  target : Option String := none
  span : Option String := none
  fields : List FieldPattern := []
  /-- Entries up to this rank are written. -/
  rank : Nat
deriving Repr, DecidableEq

/-- A pattern as it is written: a truth value, a number, or else a pattern for texts. -/
def ValuePattern.ofChars? (cs : List Char) : Option ValuePattern :=
  let s := String.ofList cs
  if s = "true" ∨ s = "false" ∨ (Number.real? cs).isSome then some plain
  else (Text.Pattern.ofChars? cs).map text

/-- Whether a text has the value that is asked for. -/
def ValuePattern.fits : ValuePattern → String → Bool
  | plain, _ => false
  | text p, s => p.fits s

/-- A field's name, and its value after an equals sign. What follows another such sign is
ignored. -/
def FieldPattern.ofChars? (cs : List Char) : Option FieldPattern := do
  match Text.pieces (· == '=') cs with
  | name :: value :: _ => some ⟨String.ofList name, some (← ValuePattern.ofChars? value)⟩
  | _ => some ⟨String.ofList cs, none⟩

namespace Directive

/-- The rank of a level that is given by its name in any case, or by a number. -/
def rankOf? (cs : List Char) : Option Nat :=
  let digits := if cs.head? = some '+' then cs.tail else cs
  if digits ≠ [] ∧ digits.all Char.isDigit then
    let n := digits.foldl (fun n d => 10 * n + (d.toNat - '0'.toNat)) 0
    if n ≤ 5 then some n else none
  else if cs.map Char.toLower = "off".toList then some 0
  else (Level.all.find? fun l => l.name.toList = cs.map Char.toUpper).map Level.rank

/-- What stands after the equals sign. Nothing at all stands for the least level. -/
def rankAfter? : List Char → Option Nat
  | [] => some Level.trace.rank
  | cs => rankOf? cs

/-- What stands after the square brackets. -/
def rankAtEnd? : List Char → Option Nat
  | [] => some Level.trace.rank
  | '=' :: cs => rankAfter? cs
  | _ => none

/-- The fields between braces, and what follows the closing bracket. -/
def fields? (cs : List Char) : Option (List FieldPattern × List Char) := do
  let (inside, after) ← Text.cutAt (· == '\x7d') cs
  let fields ← (Text.pieces (· == ',') inside).mapM fun field =>
    if field.isEmpty then none else FieldPattern.ofChars? field
  match after with
  | ']' :: rest => some (fields, rest)
  | _ => none

/-- A span and fields after their opening bracket, and what follows the closing one. -/
def span? (cs : List Char) : Option (Option String × List FieldPattern × List Char) := do
  let name := cs.takeWhile fun c => c ≠ ']' ∧ c ≠ '\x7b'
  match cs.drop name.length with
  | ']' :: rest => some (some (String.ofList name), [], rest)
  | '\x7b' :: rest =>
    let (fields, rest) ← fields? rest
    some (if name = [] then none else some (String.ofList name), fields, rest)
  | _ => none

/-- Whether a directive may begin with a character. -/
def mayBegin (c : Char) : Bool := c ∈ ['[', '-', ':', '_'] || Text.isAlphanumeric c

def ofChars? (cs : List Char) : Option Directive := do
  if !mayBegin (← cs.head?) then none
  let front := cs.takeWhile fun c => c ≠ '=' ∧ c ≠ '['
  let target := if front = [] then none else some (String.ofList front)
  match cs.drop front.length with
  | [] =>
    match rankOf? front with
    | some rank => some { rank }
    | none => some { target, rank := Level.trace.rank }
  | '=' :: level => some { target, rank := ← rankAfter? level }
  | _ :: rest =>
    let (span, fields, rest) ← span? rest
    some { target, span, fields, rank := ← rankAtEnd? rest }

/-- Whether a directive is about a target: one that begins like its own. -/
def coversTarget (d : Directive) (target : String) : Bool :=
  match d.target with
  | none => true
  | some t => t.toList.isPrefixOf target.toList

def hasValue (d : Directive) : Bool := d.fields.any (·.value.isSome)

/-- Whether a directive selects by target and the presence of fields alone. -/
def isAboutEvents (d : Directive) : Bool := d.span.isNone && !d.hasValue

/-- Whether a directive selects what happens inside a span. -/
def isAboutSpans (d : Directive) : Bool := d.span.isSome || !d.fields.isEmpty

/-- Whether the first list of names comes after the second in the order of dictionaries. -/
def namesAfter : List String → List String → Bool
  | [], _ => false
  | _ :: _, [] => true
  | a :: as, b :: bs => b < a || (a == b && namesAfter as bs)

/-- Whether a directive goes before another that is about the same event: the one with the longer
target does, or with more fields, or whose target or fields come later in the order of
dictionaries. -/
def goesBefore (d e : Directive) : Bool :=
  let size (t : Option String) : Nat := (t.map fun t => t.utf8ByteSize + 1).getD 0
  if size d.target ≠ size e.target then size e.target < size d.target
  else if d.fields.length ≠ e.fields.length then e.fields.length < d.fields.length
  else if d.target ≠ e.target then e.target.getD "" < d.target.getD ""
  else namesAfter (d.fields.map (·.name)) (e.fields.map (·.name))

end Directive

/-- The span of a service: its name, its only field, and the target and level that it has. -/
def serviceSpanName : String := "service"

def serviceSpanField : String := "name"

def serviceSpanTarget : String := "protoc_gen_cli::generator"

def serviceSpanLevel : Level := .debug

/-- Whether a directive asks for the span of a service. -/
def Directive.asksForService (d : Directive) : Bool :=
  d.isAboutSpans && d.coversTarget serviceSpanTarget && d.span.all (· == serviceSpanName) &&
    d.fields.all (·.name == serviceSpanField)

/-- Whether the span of a service with a name has the values that a directive asks for. -/
def Directive.fitsService (d : Directive) (name : String) : Bool :=
  d.fields.all fun f => f.value.all (·.fits name)

/-- Directives, of which an empty list means errors only. -/
structure Filter where
  directives : List Directive
deriving Repr, DecidableEq

namespace Filter

/-- What is written if nothing else is asked for. -/
def warnings : Filter := ⟨[{ rank := Level.warn.rank }]⟩

/-- The filter with a text; none if some directive cannot be understood. -/
def ofText? (s : String) : Option Filter := do
  let parts := (Text.pieces (· == ',') s.toList).filter (· ≠ [])
  let directives ← parts.mapM fun part => Directive.ofChars? (Text.trim part)
  return ⟨if directives = [] then [{ rank := Level.error.rank }] else directives⟩

/-- The rank that directives about events give to what they cover: that of the one that goes before
all others, the latest of equal ones. -/
def rankBy (f : Filter) (covers : Directive → Bool) : Nat :=
  match f.directives.filter fun d => d.isAboutEvents && covers d with
  | [] => 0
  | d :: ds => (ds.foldl (fun best d => if best.goesBefore d then best else d) d).rank

/-- The rank up to which an event is written wherever it happens. It must have all fields that a
directive names. -/
def rankFor (f : Filter) (e : Event) : Nat :=
  f.rankBy fun d => d.coversTarget e.target && d.fields.all (e.fieldNames.contains ·.name)

/-- The greatest rank of any directive. Spans above it do not exist, unless the values of their
fields are asked for. -/
def greatestRank (f : Filter) : Nat :=
  if f.directives.any (·.hasValue) then Level.trace.rank
  else (f.directives.map (·.rank)).foldl max 0

/-- Whether spans of services exist at all. -/
def knowsServices (f : Filter) : Bool := serviceSpanLevel.rank ≤ f.greatestRank

/-- The rank up to which the span of a service with a name admits the entries inside it. -/
def rankInService (f : Filter) (name : String) : Nat :=
  if f.knowsServices then
    ((f.directives.filter fun d => d.asksForService && d.fitsService name).map (·.rank)).foldl max 0
  else 0

/-- Whether the service of an entry is named in its line. Fields do not matter to a span that no
directive asks for. -/
def showsService (f : Filter) : Bool :=
  f.knowsServices &&
    (f.directives.any (·.asksForService) ||
      serviceSpanLevel.rank ≤ f.rankBy (·.coversTarget serviceSpanTarget))

/-- Whether an entry is written. -/
def admits (f : Filter) (e : Entry) : Bool :=
  e.event.level.rank ≤ f.rankFor e.event ||
    e.service.any fun name => e.event.level.rank ≤ f.rankInService name

/-- The lines of a log. A text of several lines takes as many. -/
def lines (f : Filter) (entries : List Entry) : List String :=
  (entries.filter f.admits).flatMap fun e =>
    (Text.pieces (· == '\n') (e.line f.showsService).toList).map String.ofList

end Filter

end ServiceCli
