import InvoiceGateway.Bytes

/-! # What the command line can set -/

namespace InvoiceGateway.CommandLine

def programName : String := "void-gateway"

inductive Setting
  | host
  | port
  | logLevel
deriving DecidableEq, Repr

namespace Setting

def all : List Setting :=
  [host, port, logLevel]

def flag : Setting → String
  | host => "host"
  | port => "port"
  | logLevel => "log-level"

/-- The word that stands for the value. -/
def valueName : Setting → String
  | host => "HOST"
  | port => "PORT"
  | logLevel => "LOG_LEVEL"

def environmentName : Setting → String
  | host => "VOID_GATEWAY_HOST"
  | port => "VOID_GATEWAY_PORT"
  | logLevel => "VOID_GATEWAY_LOG_LEVEL"

def about : Setting → String
  | host => "Host to bind to"
  | port => "Port to bind to"
  | logLevel => "Log level"

def defaultText : Setting → String
  | host => "0.0.0.0"
  | port => "8080"
  | logLevel => "info"

/-- The flag with its value, as messages write it. -/
def usage (s : Setting) : String :=
  "--" ++ s.flag ++ " <" ++ s.valueName ++ ">"

def ofFlag? (name : String) : Option Setting :=
  all.find? fun s => s.flag = name

end Setting

/-- The flag that asks for help, without its dashes. -/
def helpFlag : String := "help"

/-- The values of the environment variables. -/
abbrev Environment := Setting → Option Bytes

end InvoiceGateway.CommandLine
