import NumericLanguage.Text.Quoted

/-!
# Switches of the command

The command takes switches and at most one file. This module holds the switches, the texts that
explain them, and the ways in which arguments fail to make sense.
-/

set_option autoImplicit false

namespace NumericLanguage.Command

/-- The version of the command. -/
def version : String := "0.1.0"

/-! ## Switches -/

/-- What a word of the command line can ask for. -/
inductive Switch
  | help
  | verbose
  | tokens
  | symbols
  | warnings
  | stopOnLexicalErrors
  deriving DecidableEq, Repr

namespace Switch

/-- Every spelling of a switch, in the order in which they are offered. -/
def spellings : List (String × Switch) :=
  [("-h", help), ("--help", help), ("-v", verbose), ("--verbose", verbose), ("--tokens", tokens),
    ("--symbols", symbols), ("-W", warnings), ("--stop-on-lex-errors", stopOnLexicalErrors)]

/-- The switch with a given spelling. -/
def ofSpelling? (text : String) : Option Switch := spellings.lookup text

/-- The switch that is written as one letter. -/
def ofLetter? (letter : Char) : Option Switch := ofSpelling? (String.ofList ['-', letter])

/-- All spellings of a switch. -/
def name (switch : Switch) : String :=
  "/".intercalate ((spellings.filter fun entry => entry.2 = switch).map Prod.fst)

/-- Whether a value belongs to a switch. -/
def takesValue : Switch → Bool
  | warnings => true
  | _ => false

end Switch

/-- What to do about warnings. -/
inductive WarningMode
  | normal
  | error
  | ignore
  deriving DecidableEq, Repr

namespace WarningMode

/-- Every mode with its spelling. -/
def spellings : List (String × WarningMode) :=
  [("default", normal), ("error", error), ("ignore", ignore)]

/-- The mode with a given spelling. -/
def ofSpelling? (text : String) : Option WarningMode := spellings.lookup text

end WarningMode

/-! ## Faults -/

/-- Why arguments make no sense. -/
inductive UsageFault
  /-- The word begins several spellings. -/
  | ambiguous (word : String) (spellings : List String)
  /-- The switch takes no value. -/
  | valueNotTaken (switch : Switch) (value : String)
  /-- No value follows the switch. -/
  | valueMissing (switch : Switch)
  /-- The value is none that the switch offers. -/
  | valueNotOffered (switch : Switch) (value : String)
  /-- The words were of no use. -/
  | unrecognized (words : List String)
  deriving DecidableEq, Repr

/-- The fault in words. -/
def UsageFault.message : UsageFault → String
  | ambiguous word spellings =>
      "ambiguous option: " ++ word ++ " could match " ++ ", ".intercalate spellings
  | valueNotTaken switch value =>
      "argument " ++ switch.name ++ ": ignored explicit argument " ++ Text.quoted value
  | valueMissing switch => "argument " ++ switch.name ++ ": expected one argument"
  | valueNotOffered switch value =>
      "argument " ++ switch.name ++ ": invalid choice: " ++ Text.quoted value ++
        " (choose from " ++
        ", ".intercalate (WarningMode.spellings.map fun mode => Text.quoted mode.1) ++ ")"
  | unrecognized words => "unrecognized arguments: " ++ " ".intercalate words

/-! ## Texts -/

/-- The shape of the command line. -/
def usage : String :=
  "usage: numlang [-h] [-v] [--tokens] [--symbols] [-W \x7bdefault,error,ignore\x7d]\n" ++
  "               [--stop-on-lex-errors]\n" ++
  "               [file]\n"

/-- The explanation of the command. -/
def helpText : String :=
  usage ++
  "\n" ++
  "numlang front end: tokenize, parse and check a program\n" ++
  "\n" ++
  "positional arguments:\n" ++
  "  file                  source file (the built-in sample program is used when\n" ++
  "                        omitted)\n" ++
  "\n" ++
  "options:\n" ++
  "  -h, --help            show this help message and exit\n" ++
  "  -v, --verbose         log scope and pipeline activity\n" ++
  "  --tokens              print the token list\n" ++
  "  --symbols             print the final symbol table\n" ++
  "  -W \x7bdefault,error,ignore\x7d\n" ++
  "                        treat redeclaration warnings as errors, or drop them\n" ++
  "  --stop-on-lex-errors  do not parse when the tokenizer reported errors\n"

/-- What is printed about a fault of the arguments. -/
def UsageFault.text (fault : UsageFault) : String :=
  usage ++ "numlang: error: " ++ fault.message ++ "\n"

end NumericLanguage.Command
