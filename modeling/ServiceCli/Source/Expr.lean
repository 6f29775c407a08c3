import ServiceCli.Source.Doc
import ServiceCli.Text.Quoted

/-!
Expressions of the generated source and how they are laid out. Calls of methods one after the other
form a chain, which has one line per call unless it fits on one line.
-/
namespace ServiceCli.Source

inductive Expr where
  /-- A variable or a function of the generated file. -/
  | ident (s : String)
  /-- Something defined elsewhere, by its full path, or a literal. -/
  | verbatim (s : String)
  /-- The macro that makes a parser of values of a type. -/
  | valueParser (type : String)
  | call (function : Expr) (args : List Expr)
  | method (receiver : Expr) (name : String) (args : List Expr)
deriving Repr

namespace Expr

/-- A literal text. -/
def ofText (s : String) : Expr := verbatim (Text.stringLiteral s)

def ofChar (c : Char) : Expr := verbatim (Text.charLiteral c)

def ofBool (b : Bool) : Expr := verbatim (toString b)

/-- Calls methods of an expression one after the other. -/
def methods (e : Expr) (calls : List (String × List Expr)) : Expr :=
  calls.foldl (fun e (name, args) => method e name args) e

/-- Four columns: how far lines are indented. -/
def indent : Int := 4

/-- A name that is no wider than the indentation. Nothing is gained by a new line after it. -/
def isShort : Expr → Bool
  | ident s => s.utf8ByteSize ≤ 4
  | _ => false

/-- Arguments between the parentheses of a call. -/
def arguments : List (List Doc) → List Doc
  | [] => []
  | args =>
    [.group indent
      (.cut 0 :: [.text ",", .space].intercalate args ++ [.commaCut (-indent)])]

mutual

/-- An expression; `atStart` tells whether it stands at the beginning of a line. -/
def docs (atStart : Bool) : Expr → List Doc
  | ident s => [.text s]
  | verbatim s => [.text s]
  | valueParser type =>
    [.text "::clap::value_parser!(",
      .group indent [.cut 0, .fill 0 [.text type], .cut (-indent)], .text ")"]
  | call function args =>
    function.docs atStart ++ [.text "("] ++ arguments (docsOfAll args) ++ [.text ")"]
  | method receiver name args =>
    let hugged := atStart && receiver.isShort
    [.group indent (receiver.links atStart ++ (if hugged then [] else [.cut 0]) ++
      [.text ("." ++ name), .group (if hugged then -indent else 0)
        (.text "(" :: arguments (docsOfAll args) ++ [.text ")"])])]

/-- The beginning of a chain up to an expression. -/
def links (atStart : Bool) : Expr → List Doc
  | ident s => [.group (-indent) [.text s]]
  | verbatim s => [.group (-indent) [.text s]]
  | valueParser type =>
    [.group (-indent) [.text "::clap::value_parser!(",
      .group indent [.cut 0, .fill 0 [.text type], .cut (-indent)], .text ")"]]
  | call function args =>
    function.links false ++ [.text "("] ++ arguments (docsOfAll args) ++ [.text ")"]
  | method receiver name args =>
    receiver.links atStart ++ (if atStart && receiver.isShort then [] else [.cut 0]) ++
      [.text ("." ++ name),
        .group 0 (.text "(" :: arguments (docsOfAll args) ++ [.text ")"])]

def docsOfAll : List Expr → List (List Doc)
  | [] => []
  | e :: es => e.docs false :: docsOfAll es

end

mutual

/-- The names of the generated file that an expression mentions. -/
def mentions : Expr → List String
  | ident s => [s]
  | verbatim _ | valueParser _ => []
  | call function args => function.mentions ++ mentionsOfAll args
  | method receiver _ args => receiver.mentions ++ mentionsOfAll args

def mentionsOfAll : List Expr → List String
  | [] => []
  | e :: es => e.mentions ++ mentionsOfAll es

end

end Expr

end ServiceCli.Source
