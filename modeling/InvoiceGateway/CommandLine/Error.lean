import InvoiceGateway.CommandLine.Setting
import InvoiceGateway.Text.Styled

/-! # Refused command lines -/

namespace InvoiceGateway.CommandLine

/-- Why a command line is refused. -/
inductive Error
  /-- A value that the setting cannot have. -/
  | invalidValue (setting : Setting) (value reason : String)
  /-- An argument that means nothing here; a flag may be like it, and `used` are the flags that the
  usage shows. -/
  | unknownArgument (argument : String) (similar : Option String) (used : List String)
  | missingValue (setting : Setting)
  | repeated (setting : Setting)
  /-- A value for the flag that takes none. -/
  | unexpectedValue (value : String) (used : List String)
  | notUtf8
deriving DecidableEq, Repr

/-- The usage with the given flags, or with all of them left open. -/
def usageLine (used : List String) : String :=
  "Usage: " ++ programName ++ " " ++
    (if used.isEmpty then "[OPTIONS]" else " ".intercalate used)

namespace Error

def complaint : Error → String
  | invalidValue setting value reason =>
      "invalid value '" ++ Text.unstyled value ++ "' for '" ++ setting.usage ++ "': " ++ reason
  | unknownArgument argument _ _ =>
      "unexpected argument '" ++ Text.unstyled argument ++ "' found"
  | missingValue setting =>
      "a value is required for '" ++ setting.usage ++ "' but none was supplied"
  | repeated setting => "the argument '" ++ setting.usage ++ "' cannot be used multiple times"
  | unexpectedValue value _ =>
      "unexpected value '" ++ Text.unstyled value ++
        "' for '--help' found; no more were expected"
  | notUtf8 => "invalid UTF-8 was detected in one or more arguments"

/-- A hint at the flag that was meant. -/
def hint? : Error → Option String
  | unknownArgument _ similar _ =>
      similar.map fun name => "  tip: a similar argument exists: '--" ++ name ++ "'"
  | _ => none

/-- The usage, where the message shows it. -/
def usage? : Error → Option String
  | invalidValue _ _ _ => none
  | missingValue _ => none
  | unknownArgument _ _ used => some (usageLine used)
  | unexpectedValue _ used => some (usageLine used)
  | repeated _ => some (usageLine [])
  | notUtf8 => some (usageLine [])

def message (e : Error) : String :=
  "\n\n".intercalate
    (["error: " ++ e.complaint] ++ e.hint?.toList ++ e.usage?.toList ++
      ["For more information, try '--help'.\n"])

end Error

end InvoiceGateway.CommandLine
