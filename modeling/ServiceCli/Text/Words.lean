import ServiceCli.Text.Letters
import ServiceCli.Text.CaseMapping
import ServiceCli.Text.Pieces

/-!
The words of a name and the spellings made of them. A name is cut at everything that is not
alphanumeric, where a lower-case letter meets an upper-case one, and before the last capital of an
acronym that runs into a capitalised word.
-/
namespace ServiceCli.Text

/-- What the letters since the last boundary were. Digits and caseless letters change nothing. -/
inductive CaseMode where
  | boundary
  | lower
  | upper
deriving Repr, DecidableEq

def CaseMode.next (mode : CaseMode) (c : Char) : CaseMode :=
  if isLower c then .lower else if isUpper c then .upper else mode

/-- The words of a text without separators. `current` holds the characters of the word being read,
the latest first. -/
def wordsFrom (mode : CaseMode) (current : List Char) : List Char → List (List Char)
  | [] => []
  | [c] => [(c :: current).reverse]
  | c :: next :: rest =>
    if mode.next c = .lower ∧ isUpper next then
      (c :: current).reverse :: wordsFrom .boundary [] (next :: rest)
    else if mode = .upper ∧ isUpper c ∧ isLower next then
      current.reverse :: wordsFrom .boundary [c] (next :: rest)
    else wordsFrom (mode.next c) (c :: current) (next :: rest)

def words (name : List Char) : List (List Char) :=
  (pieces (!isAlphanumeric ·) name).flatMap (wordsFrom .boundary [])

/-- A word in lower case. A capital sigma takes its final form at the end of the word only. -/
def lowerWord : List Char → List Char
  | [] => []
  | [c] => if c = 'Σ' then ['ς'] else lowerChar c
  | c :: cs => lowerChar c ++ lowerWord cs

/-- A word with its first character in upper case and the others in lower case. -/
def capitalWord : List Char → List Char
  | [] => []
  | c :: cs => upperChar c ++ lowerWord cs

/-- `GetAccountList` becomes `get_account_list`. -/
def snakeChars (name : List Char) : List Char :=
  ['_'].intercalate ((words name).map lowerWord)

def snake (name : String) : String := String.ofList (snakeChars name.toList)

/-- `account_list` becomes `AccountList`. -/
def upperCamel (name : String) : String :=
  String.ofList ((words name.toList).flatMap capitalWord)

/-- `account_list` becomes `accountList`. -/
def lowerCamel (name : String) : String :=
  match words name.toList with
  | [] => ""
  | w :: ws => String.ofList (lowerWord w ++ ws.flatMap capitalWord)

end ServiceCli.Text
