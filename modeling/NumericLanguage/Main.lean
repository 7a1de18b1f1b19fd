import NumericLanguage.Command.Run

/-!
# The command

Reads the arguments and the chosen file, runs the command, and writes what it has to say.
-/

set_option autoImplicit false

namespace NumericLanguage.Command

/-- The number of a system error, which some calls give with its sign changed. -/
def systemNumber (code : UInt32) : Nat :=
  if code.toNat < 0x80000000 then code.toNat else 0x100000000 - code.toNat

/-- Why the system refuses to open a file. -/
def accessFault (error : IO.Error) : AccessFault :=
  match error with
  | .noFileOrDirectory _ _ _ => .notFound
  | .inappropriateType _ code _ =>
      if systemNumber code = AccessFault.notDirectory.number then .notDirectory else .isDirectory
  | .invalidArgument _ code reason =>
      if systemNumber code = AccessFault.nameTooLong.number then .nameTooLong
      else .other (systemNumber code) reason
  | .permissionDenied _ code _ => .other (systemNumber code) "Permission denied"
  | error => .other 5 (toString error)

/-- The bytes of a file, or why there are none. -/
def readBytes (path : String) : IO (Except AccessFault (List UInt8)) := do
  try
    return .ok (← IO.FS.readBinFile path).toList
  catch error =>
    return .error (accessFault error)

/-- The file that the arguments name. -/
def chosenFile (arguments : List String) : Option String :=
  match readArguments arguments with
  | .ok (.analyze settings) => settings.file
  | _ => none

/-- What is written when the command ends without a status. -/
def Collapse.message : Collapse → String
  | .path fault => fault.message
  | .undecodable fault => fault.message
  | .failed (.rejected rejection) => rejection.message
  | .failed (.typeWord fault) => fault.message
  | .failed (.noOpenBlock fault) => fault.message

end NumericLanguage.Command

open NumericLanguage Command in
/-- Runs the command with the given arguments. -/
def main (arguments : List String) : IO UInt32 := do
  let bytes ← match chosenFile arguments with
    | some path => readBytes path
    | none => pure (.error .notFound)
  let outcome := run arguments fun _ => bytes
  IO.print outcome.output
  IO.eprint outcome.errors
  match outcome.status with
  | .ok status => return status.toUInt32
  | .error collapse =>
      IO.eprintln collapse.message
      return 1
