/-!
Layout of source text. A document is text with places where a line may break, and boxes around what
belongs together. A box that fits on the rest of its line is written on it; otherwise a consistent
box breaks at each of its places and any other only where it must.
-/
namespace ServiceCli.Source

/-- A place where a line may break. -/
structure LineBreak where
  /-- The blanks that stand there if the line does not break. -/
  blank : Nat := 0
  /-- How much the new line is indented beyond its box. -/
  offset : Int := 0
  /-- Whether a comma ends the line that breaks here. -/
  comma : Bool := false
  /-- Whether the line must not break here. -/
  never : Bool := false
deriving Repr, DecidableEq

inductive Doc where
  | text (s : String)
  | line (b : LineBreak)
  | box (consistent : Bool) (offset : Int) (body : List Doc)
deriving Repr

namespace Doc

/-- How many columns there are on a line. -/
def margin : Int := 89

/-- How many columns a line has at least, however far it is indented. -/
def leastRoom : Int := 60

/-- Wider than any line, so that a box with a break as wide as this always breaks. -/
def endless : Nat := 0xffff

/-- A break without blanks. -/
def cut (offset : Int) : Doc := .line { offset }

/-- A break that ends its line with a comma. -/
def commaCut (offset : Int) : Doc := .line { offset, comma := true }

def space : Doc := .line { blank := 1 }

/-- A break that never happens. -/
def glue : Doc := .line { never := true }

/-- A break that always happens. -/
def newline (offset : Int) : Doc := .line { blank := endless, offset }

/-- A box that breaks at all its places or at none. -/
def group (offset : Int) (body : List Doc) : Doc := .box true offset body

/-- A box that breaks only where it must. -/
def fill (offset : Int) (body : List Doc) : Doc := .box false offset body

mutual

/-- The width of a document on one line. Text is measured in bytes. -/
def width : Doc → Nat
  | text s => s.utf8ByteSize
  | line b => b.blank
  | box _ _ body => widths body

def widths : List Doc → Nat
  | [] => 0
  | d :: ds => d.width + widths ds

end

/-- The width of what must stand on the same line as what came before: the documents up to the next
break outside a box, and `after` if there is none among them. -/
def tail (after : Nat) : List Doc → Nat
  | [] => after
  | line _ :: _ => 0
  | d :: ds => d.width + tail after ds

/-- Where the writing has come to. -/
structure Pen where
  /-- The text written, its last piece first. -/
  written : List String := []
  /-- The columns that are left on the line. -/
  room : Int := margin
  /-- Blanks to be written before the next text on the line. -/
  pending : Nat := 0

namespace Pen

def blanks (n : Nat) : String := String.ofList (List.replicate n ' ')

def write (p : Pen) (s : String) : Pen where
  written := s :: blanks p.pending :: p.written
  room := p.room - s.utf8ByteSize
  pending := 0

/-- Writes a place where the line does not break. -/
def skip (p : Pen) (b : LineBreak) : Pen :=
  { p with room := p.room - b.blank, pending := p.pending + b.blank }

/-- Breaks the line. Blanks at its end are dropped unless a comma follows them. -/
def wrap (p : Pen) (b : LineBreak) (indent : Int) : Pen where
  written :=
    if b.comma then "\n" :: "," :: blanks p.pending :: p.written else "\n" :: p.written
  room := max (margin - (indent + b.offset)) leastRoom
  pending := (indent + b.offset).toNat

end Pen

/-- How a box is written. -/
inductive Mode where
  | flat
  | filled
  | broken
deriving Repr, DecidableEq

/-- Whether the line goes on at a break, with `size` columns up to the next break. -/
def LineBreak.goesOn (b : LineBreak) (mode : Mode) (size : Nat) (room : Int) : Bool :=
  b.never ||
    match mode with
    | .flat => true
    | .filled => size ≤ room
    | .broken => false

mutual

/-- Writes a document with `after` more columns to stand on its last line. -/
def put (mode : Mode) (indent : Int) (after : Nat) (p : Pen) : Doc → Pen
  | text s => p.write s
  | line b =>
    if LineBreak.goesOn b mode (b.blank + after) p.room then p.skip b else p.wrap b indent
  | box consistent offset body =>
    if widths body + after ≤ p.room then putAll .flat indent after p body
    else putAll (if consistent then .broken else .filled) (indent + offset) after p body

def putAll (mode : Mode) (indent : Int) (after : Nat) (p : Pen) : List Doc → Pen
  | [] => p
  | d :: ds => putAll mode indent after (put mode indent (tail after ds) p d) ds

end

/-- The text of documents that stand one after the other, from the beginning of a line. -/
def render (ds : List Doc) : String := String.join (putAll .filled 0 0 {} ds).written.reverse

end Doc

end ServiceCli.Source
