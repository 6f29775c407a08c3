import ServiceCli.Text.Visible

/-!
String and character literals of the generated source. Invisible characters are written by their
number in braces, so that what a literal shows is what it holds.
-/
namespace ServiceCli.Text

/-- The lower-case hexadecimal digits of a number, without leading zeros. -/
def hexDigits (n : Nat) : List Char := Nat.toDigits 16 n

/-- A character by its number, as in `\u{301}`. -/
def numberEscape (c : Char) : List Char :=
  ['\\', 'u', '\x7b'] ++ hexDigits c.toNat ++ ['\x7d']

/-- The characters that either kind of literal writes for one character, its own quote mark and the
null character aside. -/
def escapeChar (c : Char) : List Char :=
  if c = '\t' then ['\\', 't']
  else if c = '\r' then ['\\', 'r']
  else if c = '\n' then ['\\', 'n']
  else if c = '\\' then ['\\', '\\']
  else if isVisible c then [c]
  else numberEscape c

def isOctalDigit (c : Char) : Bool := '0' ≤ c && c ≤ '7'

/-- A null character before an octal digit has the longer escape, or the two would read as one. -/
def nullEscape : List Char → List Char
  | [] => ['\\', '0']
  | next :: _ => if isOctalDigit next then ['\\', 'x', '0', '0'] else ['\\', '0']

def escapeText : List Char → List Char
  | [] => []
  | c :: rest =>
    (if c = '\x00' then nullEscape rest else if c = '"' then ['\\', '"'] else escapeChar c) ++
      escapeText rest

def stringLiteral (s : String) : String :=
  String.ofList ('"' :: escapeText s.toList ++ ['"'])

def charLiteral (c : Char) : String :=
  String.ofList ('\'' ::
    (if c = '\x00' then ['\\', '0'] else if c = '\'' then ['\\', '\''] else escapeChar c) ++ ['\''])

end ServiceCli.Text
