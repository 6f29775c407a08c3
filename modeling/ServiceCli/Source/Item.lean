import ServiceCli.Source.Expr

/-!
The items of a generated file: functions that build commands, and two fixed functions that parse the
values of flags.
-/
namespace ServiceCli.Source

/-- The variable that holds the command being built. -/
def commandVariable : String := "cmd"

/-- A function that yields a command. -/
structure Function where
  name : String
  doc : Option String := none
  /-- Whether the function starts from a command that it is given. -/
  takesCommand : Bool := false
  /-- The command that the function starts from otherwise. -/
  start : Option Expr := none
  result : Expr
deriving Repr

inductive Item where
  | function (f : Function)
  | keyValueParser
  | base64Parser
deriving Repr

/-- The names of the fixed functions. -/
def keyValueParserName : String := "parse_key_value"

def base64ParserName : String := "parse_base64"

namespace Item

/-- The name of the function that an item defines. -/
def name : Item → String
  | function f => f.name
  | keyValueParser => keyValueParserName
  | base64Parser => base64ParserName

/-- The functions of the file that an item refers to. -/
def references : Item → List String
  | function f =>
    (((f.start.map Expr.mentions).getD []) ++ f.result.mentions).filter (· ≠ commandVariable)
  | keyValueParser | base64Parser => []

end Item

/-- Whether every end of a block comment closes one that was opened, and all are closed. `depth` is
the number of open ones. -/
def balanced : (depth : Nat) → List Char → Bool
  | depth, '/' :: '*' :: cs => balanced (depth + 1) cs
  | depth, '*' :: '/' :: cs =>
    match depth with
    | 0 => false
    | depth + 1 => balanced depth cs
  | depth, _ :: cs => balanced depth cs
  | depth, [] => depth == 0

/-- A text without the blanks at the ends of its lines, the last line aside. -/
def trimLineEnds (cs : List Char) : List Char :=
  cs.foldr (fun c rest =>
    if c = ' ' ∧ rest.head? = some '\n' then rest else c :: rest) []

/-- The lines that document a function. A text of many lines becomes a block comment if it can be
one. -/
def docLines (doc : String) : String :=
  let cs := doc.toList
  if '\n' ∉ cs then "///" ++ doc ++ "\n"
  else if balanced 0 cs then "/**" ++ String.ofList (trimLineEnds cs) ++ "*/\n"
  else "#[doc = " ++ Text.stringLiteral doc ++ "]\n"

namespace Function

/-- What stands between the braces of a function, without the last end of line. -/
def body (f : Function) : List Doc :=
  (match f.start with
    | none => []
    | some e =>
      [.fill 0 ([.text ("let " ++ commandVariable ++ " = "), .glue] ++ e.docs false ++
        [.text ";"]), .newline 0]) ++
    [.fill 0 (f.result.docs true)]

def docs (f : Function) : List Doc :=
  let parameters : List Doc :=
    if f.takesCommand then
      [.group 0 [.cut 0, .text (commandVariable ++ ": ::clap::Command"),
        .commaCut (-Expr.indent)]]
    else []
  [.group Expr.indent
    ([.text "pub ", .text "fn ", .text f.name, .text "(", .glue] ++ parameters ++
      [.text ")", .group (-Expr.indent) [.text " -> ::clap::Command"], .text " \x7b",
        .newline 0] ++ f.body ++ [.newline (-Expr.indent)]),
    .text "\x7d", .newline 0]

def text (f : Function) : String :=
  ((f.doc.map docLines).getD "") ++ Doc.render f.docs

end Function

/-- Lines of text, each with its end. -/
def unlines (lines : List String) : String := String.join (lines.map (· ++ "\n"))

/-- The function that takes `KEY=VALUE` apart. -/
def keyValueParserText : String :=
  unlines
    ["fn parse_key_value(s: &str) -> Result<(String, String), String> \x7b",
     "    s.split_once('=')",
     "        .map(|(key, value)| (key.to_string(), value.to_string()))",
     "        .ok_or_else(|| format!(\"expected KEY=VALUE, got `\x7bs\x7d`\"))",
     "\x7d"]

/-- The function that checks standard base64. -/
def base64ParserText : String :=
  unlines
    ["fn parse_base64(s: &str) -> Result<String, String> \x7b",
     "    let body = s.trim_end_matches('=');",
     "    let valid = s.len() % 4 == 0 && s.len() - body.len() <= 2",
     "        && body.bytes().all(|b| b.is_ascii_alphanumeric() || b == b'+' || b == b'/');",
     "    if valid \x7b",
     "        Ok(s.to_string())",
     "    \x7d else \x7b",
     "        Err(format!(\"expected standard base64, got `\x7bs\x7d`\"))",
     "    \x7d",
     "\x7d"]

def Item.text : Item → String
  | .function f => f.text
  | .keyValueParser => keyValueParserText
  | .base64Parser => base64ParserText

end ServiceCli.Source
