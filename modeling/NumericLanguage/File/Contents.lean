import NumericLanguage.Text.Utf8
import NumericLanguage.Text.Newline

/-!
# Reading program files

A file is read by its path. The path may lead nowhere, to a directory, or through something that
is no directory; it may be too long, and with U+0000 in it, it is no path at all. What is read are
bytes; they are decoded strictly, and the line ends are made uniform.
-/

set_option autoImplicit false

namespace NumericLanguage

/-- Why there are no bytes to read at a path. -/
inductive AccessFault
  | notFound
  | isDirectory
  | notDirectory
  | nameTooLong
  | other (number : Nat) (reason : String)
  deriving DecidableEq, Repr

namespace AccessFault

/-- The number of a fault. -/
def number : AccessFault → Nat
  | notFound => 2
  | notDirectory => 20
  | isDirectory => 21
  | nameTooLong => 36
  | other number _ => number

/-- The reason in words. -/
def reason : AccessFault → String
  | notFound => "No such file or directory"
  | isDirectory => "Is a directory"
  | notDirectory => "Not a directory"
  | nameTooLong => "File name too long"
  | other _ reason => reason

/-- The fault in words, with the path. -/
def message (fault : AccessFault) (path : String) : String :=
  "[Errno " ++ toString fault.number ++ "] " ++ fault.reason ++ ": " ++ Text.quoted path

end AccessFault

/-- Why a text is no path. -/
inductive PathFault
  | nullCharacter
  deriving DecidableEq, Repr

/-- The fault in words. -/
def PathFault.message : PathFault → String
  | nullCharacter => "embedded null byte"

/-- Why there is no text to read at a path. -/
inductive ReadFault
  | path (fault : PathFault)
  | access (fault : AccessFault)
  | undecodable (fault : Text.DecodeFault)
  deriving DecidableEq, Repr

/-- The text that bytes stand for. -/
def textOfBytes (bytes : List UInt8) : Except Text.DecodeFault String :=
  match Text.decodeUtf8 bytes with
  | .ok characters => .ok (String.ofList (Text.foldNewlines characters))
  | .error fault => .error fault

/-- The bytes at every path, or why there are none. -/
abbrev FileAccess := String → Except AccessFault (List UInt8)

/-- The text at a path. -/
def readText (files : FileAccess) (path : String) : Except ReadFault String :=
  if path.toList.contains '\x00' then .error (.path .nullCharacter)
  else
    match files path with
    | .error fault => .error (.access fault)
    | .ok bytes =>
        match textOfBytes bytes with
        | .ok text => .ok text
        | .error fault => .error (.undecodable fault)

end NumericLanguage
