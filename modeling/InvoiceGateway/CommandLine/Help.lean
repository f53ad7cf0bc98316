import InvoiceGateway.CommandLine.Error
import InvoiceGateway.Text.Utf8

/-! # Help -/

namespace InvoiceGateway.CommandLine

def helpColumn : Nat := 31

/-- A text in a style, which is given by its numbers. -/
def styled (style text : String) : String :=
  "\x1b[" ++ style ++ "m" ++ text ++ "\x1b[0m"

/-- What is typed as it stands. -/
def typed (text : String) : String :=
  styled "1" text

def heading (text : String) : String :=
  styled "1;4" text

def blanks (n : Nat) : String :=
  String.ofList (List.replicate n ' ')

def columnText (s : String) : String :=
  s.replace "\n" ("\n" ++ blanks helpColumn)

def settingText (env : Environment) (s : Setting) : String :=
  let value := ((env s).map Text.lossy).getD ""
  s.about ++ " [env: " ++ s.environmentName ++ "=" ++ value ++ "] [default: " ++ s.defaultText ++
    "]"

def padColumn (s : String) : String :=
  s ++ blanks (helpColumn - (Text.unstyled s).length)

def settingLine (env : Environment) (s : Setting) : String :=
  padColumn ("      " ++ typed ("--" ++ s.flag) ++ " <" ++ s.valueName ++ ">") ++
    columnText (settingText env s) ++ "\n"

def styledHelp (env : Environment) : String :=
  "HTTP ingestion endpoint for VOID protocol invoice packets\n\n" ++
    heading "Usage:" ++ " " ++ typed programName ++ " [OPTIONS]\n\n" ++
    heading "Options:" ++ "\n" ++
    String.join (Setting.all.map (settingLine env)) ++
    padColumn ("  " ++ typed "-h" ++ ", " ++ typed ("--" ++ helpFlag)) ++ "Print help\n"

def help (env : Environment) : String :=
  Text.unstyled (styledHelp env)

end InvoiceGateway.CommandLine
