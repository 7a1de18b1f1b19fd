import NumericLanguage.Command.Usage
import NumericLanguage.Text.DecimalDigit

/-!
# Reading the arguments of the command

Words are sorted first: a word that begins with `-` is a switch, unless it is a negative number
or holds a space; a long switch may be cut short as long as it stays unambiguous, and behind `--`
no word is a switch. Then the words are read from left to right. Letters may share one dash, a
value may stand in the same word as its switch, the first plain word is the file, and help is
given as soon as a word that makes sense asks for it. Words that are of no use are named at the
end, all together.
-/

set_option autoImplicit false

namespace NumericLanguage.Command

/-! ## Sorting words -/

/-- A sorted word. -/
inductive Word
  /-- A word that is no switch. -/
  | plain (text : String)
  /-- A switch of one dash and one letter, and what is attached to it. -/
  | short (switch : Switch) (attached : List Char)
  /-- A switch of two dashes, and what stands behind the `=` if there is one. -/
  | long (switch : Switch) (value : Option (List Char))
  /-- A word that looks like a switch but is none. -/
  | unknown (text : String)
  /-- The word behind which no word is a switch. -/
  | separator
  deriving DecidableEq, Repr

/-- A minus sign and a decimal number, with at most one newline behind it. -/
def isNegativeNumber (text : List Char) : Bool :=
  let trimmed := if text.getLast? = some '\n' then text.dropLast else text
  match trimmed with
  | '-' :: number =>
      match number.dropWhile Text.isDecimalDigit with
      | [] => !number.isEmpty
      | '.' :: fraction => !fraction.isEmpty && fraction.all Text.isDecimalDigit
      | _ => false
  | _ => false

/-- What stands in front of the first `=`. -/
def beforeSign (text : List Char) : List Char := text.takeWhile fun c => c ≠ '='

/-- What stands behind the first `=`. -/
def behindSign (text : List Char) : Option (List Char) :=
  match text.dropWhile fun c => c ≠ '=' with
  | [] => none
  | _ :: value => some value

/-- The spellings that a word with two dashes may be short for. -/
def candidates (text : List Char) : List (String × Switch) :=
  Switch.spellings.filter fun entry => (beforeSign text).isPrefixOf entry.1.toList

/-- Sorts a word that begins with a dash and stands for no switch. -/
def sortUnknown (text : List Char) : Word :=
  if isNegativeNumber text || text.contains ' ' then .plain (String.ofList text)
  else .unknown (String.ofList text)

/-- Sorts a word in front of the separator. -/
def sortWord (word : String) : Except UsageFault Word :=
  match word.toList with
  | '-' :: '-' :: rest =>
      match candidates ('-' :: '-' :: rest) with
      | [] => .ok (sortUnknown ('-' :: '-' :: rest))
      | [(_, switch)] => .ok (.long switch (behindSign rest))
      | several => .error (.ambiguous word (several.map Prod.fst))
  | '-' :: letter :: attached =>
      match Switch.ofLetter? letter with
      | some switch => .ok (.short switch attached)
      | none => .ok (sortUnknown ('-' :: letter :: attached))
  | _ => .ok (.plain word)

/-- Sorts all words. -/
def sortWords : List String → Except UsageFault (List Word)
  | [] => .ok []
  | word :: rest => do
      if word = "--" then
        return .separator :: rest.map Word.plain
      let first ← sortWord word
      let others ← sortWords rest
      return first :: others

/-! ## Reading a switch -/

/-- What is left of a word with switches after its plain switches. -/
inductive Remainder
  | nothing
  /-- A switch and its value. -/
  | value (switch : Switch) (value : String)
  /-- A switch whose value is the next word. -/
  | valueFollows (switch : Switch)
  deriving DecidableEq, Repr

/-- The switches of a word and what is left of it. -/
abbrev SwitchWord := List Switch × Remainder

/-- A switch at the end of its word. -/
def lastSwitch (switch : Switch) : SwitchWord :=
  if switch.takesValue then ([], .valueFollows switch) else ([switch], .nothing)

/-- Reads a switch that shares its word with no other switch, and its value if there is one. -/
def readSingle (switch : Switch) : Option (List Char) → Except UsageFault SwitchWord
  | none => .ok (lastSwitch switch)
  | some value =>
      if switch.takesValue then .ok ([], .value switch (String.ofList value))
      else .error (.valueNotTaken switch (String.ofList value))

/-- Reads a switch and the characters attached to it: its value, or else the letters of further
switches. If the first of them is no such letter, they all are a value, which the switch in front
does not take. -/
def readLetters : Switch → List Char → Except UsageFault SwitchWord
  | switch, [] => .ok (lastSwitch switch)
  | switch, letter :: rest =>
      if switch.takesValue then .ok ([], .value switch (String.ofList (letter :: rest)))
      else
        match Switch.ofLetter? letter with
        | none => .error (.valueNotTaken switch (String.ofList (letter :: rest)))
        | some next => (readLetters next rest).map fun word => (switch :: word.1, word.2)

/-- Reads a switch with one dash. A `=` right behind its letter is passed over, unless nothing
follows it. -/
def readShort (switch : Switch) : List Char → Except UsageFault SwitchWord
  | ['='] => readSingle switch (some [])
  | '=' :: attached => readLetters switch attached
  | attached => readLetters switch attached

/-! ## Reading all words -/

/-- What the command is to do. -/
structure Settings where
  file : Option String := none
  verbose : Bool := false
  showTokens : Bool := false
  showSymbols : Bool := false
  warnings : WarningMode := .normal
  stopOnLexicalErrors : Bool := false
  deriving DecidableEq, Repr

/-- What the arguments ask for. -/
inductive Request
  | help
  | analyze (settings : Settings)
  deriving DecidableEq, Repr

/-- The settings with a switch turned on. A value is stored on its own. -/
def Settings.turnOn (settings : Settings) : Switch → Settings
  | .verbose => { settings with verbose := true }
  | .tokens => { settings with showTokens := true }
  | .symbols => { settings with showSymbols := true }
  | .stopOnLexicalErrors => { settings with stopOnLexicalErrors := true }
  | .help | .warnings => settings

/-- The settings with the value of a switch stored. An attached `--` is no value, and chooses
what holds without the switch. -/
def Settings.choose (settings : Settings) (switch : Switch) (value : String) :
    Except UsageFault Settings :=
  if value = "--" then .ok { settings with warnings := .normal }
  else
    match WarningMode.ofSpelling? value with
    | some mode => .ok { settings with warnings := mode }
    | none => .error (.valueNotOffered switch value)

/-- Why reading stops before the last word. -/
inductive Halt
  | help
  | fault (fault : UsageFault)
  deriving DecidableEq, Repr

/-- How far the words have been read. -/
structure Progress where
  settings : Settings := {}
  /-- The words of no use, the oldest first. -/
  useless : List String := []
  /-- The switch whose value is the next word, and whether help is due after that. -/
  awaiting : Option (Switch × Bool) := none
  /-- Whether the word before was the file. -/
  fileBefore : Bool := false
  deriving DecidableEq, Repr

namespace Progress

/-- Stores the value of a switch. -/
def choose (progress : Progress) (switch : Switch) (value : String) : Except Halt Progress :=
  match progress.settings.choose switch value with
  | .ok settings => .ok { progress with settings := settings }
  | .error fault => .error (.fault fault)

/-- Adds a word of no use. -/
def leave (progress : Progress) (word : String) : Progress :=
  { progress with useless := progress.useless ++ [word] }

/-- Turns on the switches of a word and sees to what is left of it. Help is given before values
are looked at, but not before a missing one is noticed. -/
def turnOn (progress : Progress) (word : SwitchWord) : Except Halt Progress :=
  let turned :=
    { progress with settings := word.1.foldl Settings.turnOn progress.settings }
  let wantsHelp := word.1.contains .help
  match word.2 with
  | .valueFollows switch => .ok { turned with awaiting := some (switch, wantsHelp) }
  | .nothing => if wantsHelp then .error .help else .ok turned
  | .value switch value => if wantsHelp then .error .help else turned.choose switch value

/-- Reads a plain word: the file, if there is none yet. -/
def readPlain (progress : Progress) (text : String) : Progress :=
  match progress.settings.file with
  | none =>
      { progress with
        settings := { progress.settings with file := some text }
        fileBefore := true }
  | some _ => progress.leave text

/-- Reads the separator, which is of no use at a distance behind the file. -/
def readSeparator (progress : Progress) (fileBefore : Bool) : Progress :=
  if progress.settings.file.isNone || fileBefore then progress else progress.leave "--"

/-- Reads a word that is no value. -/
def readOther (progress : Progress) (fileBefore : Bool) : Word → Except Halt Progress
  | .plain text => .ok (progress.readPlain text)
  | .separator => .ok (progress.readSeparator fileBefore)
  | .unknown text => .ok (progress.leave text)
  | .short switch attached => (readShort switch attached).mapError .fault >>= progress.turnOn
  | .long switch value => (readSingle switch value).mapError .fault >>= progress.turnOn

/-- Reads the next word. -/
def read (progress : Progress) (word : Word) : Except Halt Progress :=
  match progress.awaiting with
  | none => { progress with fileBefore := false }.readOther progress.fileBefore word
  | some (switch, wantsHelp) =>
      match word with
      | .plain value =>
          if wantsHelp then .error .help
          else { progress with awaiting := none, fileBefore := false }.choose switch value
      | _ => .error (.fault (.valueMissing switch))

/-- What all words together ask for. -/
def finish (progress : Progress) : Except Halt Request :=
  match progress.awaiting with
  | some (switch, _) => .error (.fault (.valueMissing switch))
  | none =>
      if progress.useless.isEmpty then .ok (.analyze progress.settings)
      else .error (.fault (.unrecognized progress.useless))

end Progress

/-- What sorted words ask for. -/
def readWords (words : List Word) : Except UsageFault Request :=
  match words.foldlM Progress.read {} >>= Progress.finish with
  | .ok request => .ok request
  | .error .help => .ok .help
  | .error (.fault fault) => .error fault

/-- What the arguments of the command ask for. -/
def readArguments (arguments : List String) : Except UsageFault Request :=
  sortWords arguments >>= readWords

end NumericLanguage.Command
