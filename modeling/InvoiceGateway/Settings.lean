import InvoiceGateway.GatewayError
import InvoiceGateway.Text.Basic

/-! # Settings -/

namespace InvoiceGateway

/-- How the gateway is set up. -/
structure Settings where
  host : String
  port : UInt16
  logLevel : String
deriving DecidableEq, Repr

namespace Settings

/-- The settings where nothing else is asked for. -/
def default : Settings where
  host := "0.0.0.0"
  port := 8080
  logLevel := "info"

def trimmedHost (s : Settings) : String :=
  Text.trim s.host

/-- Whether the gateway can listen with these settings. -/
def validate (s : Settings) : Except GatewayError Unit :=
  if s.trimmedHost.isEmpty then .error (.config "host must not be empty")
  else if s.port = 0 then .error (.config "port must be non-zero")
  else .ok ()

def listenAddress (s : Settings) : Except GatewayError String :=
  s.validate.map fun () => s.trimmedHost ++ ":" ++ toString s.port.toNat

end Settings

end InvoiceGateway
