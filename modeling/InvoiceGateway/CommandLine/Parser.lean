import InvoiceGateway.CommandLine.Help
import InvoiceGateway.Decimal.Signed
import InvoiceGateway.Settings
import InvoiceGateway.Text.Similarity

/-! # Reading a command line -/

namespace InvoiceGateway.CommandLine

/-! ## Values -/

/-- The settings chosen so far, with the order in which flags gave them. -/
structure Choices where
  host : Option String
  port : Option UInt16
  logLevel : Option String
  order : List Setting
deriving DecidableEq, Repr

namespace Choices

def none : Choices :=
  ⟨.none, .none, .none, []⟩

def has (c : Choices) : Setting → Bool
  | .host => c.host.isSome
  | .port => c.port.isSome
  | .logLevel => c.logLevel.isSome

def readPort (text : String) : Except Error UInt16 :=
  match Decimal.readSigned text with
  | .error e => .error (.invalidValue .port text e.message)
  | .ok n =>
      if 0 ≤ n && n ≤ 65535 then .ok (UInt16.ofNat n.toNat)
      else .error (.invalidValue .port text (toString n ++ " is not in 0..=65535"))

/-- Chooses a setting by the text of its value. -/
def setText (c : Choices) (s : Setting) (text : String) : Except Error Choices :=
  let c := { c with order := c.order ++ [s] }
  match s with
  | .host => .ok { c with host := some text }
  | .port => (readPort text).map fun port => { c with port := some port }
  | .logLevel => .ok { c with logLevel := some text }

/-- Chooses a setting by the bytes of its value. -/
def set (c : Choices) (s : Setting) (value : Bytes) : Except Error Choices :=
  match Bytes.toString? value with
  | some text => c.setText s text
  | .none => .error .notUtf8

/-- Chooses a setting by a flag, which may not be repeated. -/
def give (c : Choices) (s : Setting) (value : Bytes) : Except Error Choices :=
  if c.has s then .error (.repeated s) else c.set s value

/-- Chooses from the environment what no flag has given. -/
def fillFrom (env : Environment) (c : Choices) : Except Error Choices :=
  Setting.all.foldlM
    (fun c s =>
      match env s with
      | some value => if c.has s then .ok c else c.set s value
      | .none => .ok c)
    c

/-- The settings, with the defaults for what has not been chosen. -/
def settings (c : Choices) : Settings where
  host := c.host.getD Settings.default.host
  port := c.port.getD Settings.default.port
  logLevel := c.logLevel.getD Settings.default.logLevel

end Choices

/-! ## Arguments -/

/-- A flag whose value has not been checked: the value may still be missing. -/
abbrev Pending := Option (Setting × Option Bytes)

/-- Checks the value of the last flag. -/
def resolve (c : Choices) : Pending → Except Error Choices
  | none => .ok c
  | some (s, none) => .error (.missingValue s)
  | some (s, some value) => c.give s value

/-- How an argument reads. -/
inductive Argument
  /-- Two dashes: no flags follow. -/
  | separator
  /-- A long flag, with the value after its equals sign. -/
  | long (name : Bytes) (value : Option Bytes)
  /-- Short flags. -/
  | short (letters : Bytes)
  | plain (text : Bytes)
deriving DecidableEq, Repr

def dash : UInt8 := 45

def equalsSign : UInt8 := 61

def Argument.of (bytes : Bytes) : Argument :=
  match bytes with
  | [] => .plain []
  | a :: rest =>
      if a != dash then .plain bytes
      else
        match rest with
        | [] => .plain bytes
        | b :: rest' =>
            if b != dash then .short rest
            else if rest'.isEmpty then .separator
            else
              match rest'.dropWhile (· != equalsSign) with
              | [] => .long rest' none
              | _ :: value => .long (rest'.takeWhile (· != equalsSign)) (some value)

/-- Why a command line does not lead to settings. -/
inductive Stop
  /-- The help was asked for. -/
  | help (text : String)
  | error (e : Error)
deriving DecidableEq, Repr

/-- The flags already given, for the usage.  The last one counts when it has a value, whatever the
value is, and a repeated one does not count. -/
def usedFlags (c : Choices) : Pending → List Setting
  | some (s, some _) => if c.has s then c.order.erase s else c.order ++ [s]
  | _ => c.order

/-- The usage of the flag for help: once any other flag has been given, it shows all of them. -/
def usageOfHelp (c : Choices) : List String :=
  let others := "<" ++ "|".intercalate (Setting.all.map Setting.usage) ++ ">"
  ("--" ++ helpFlag) :: if c.order.isEmpty then [] else [others]

/-- The fault of a long flag that does not exist. -/
def unknownFlag (c : Choices) (pending : Pending) (name : String) : Error :=
  let used := (usedFlags c pending).map Setting.usage
  match Text.mostAlike? name (Setting.all.map Setting.flag ++ [helpFlag]) with
  | none => .unknownArgument ("--" ++ name) none used
  | some similar =>
      let meant := ((Setting.ofFlag? similar).map Setting.usage).getD ("--" ++ similar)
      .unknownArgument ("--" ++ name) (some similar)
        (if used.contains meant then used else used ++ [meant])

/-- The text of the first of some short flags. -/
def firstLetter (letters : Bytes) : String :=
  match letters with
  | [] => ""
  | b :: rest =>
      match Text.piece b rest with
      | (some c, _) => c.toString
      | (none, _) => Text.lossy letters

/-- Takes the arguments from left to right. -/
def scan (env : Environment) : Choices → Pending → List Bytes → Except Stop Choices
  | c, pending, [] => (resolve c pending).mapError .error
  | c, pending, argument :: rest =>
      match Argument.of argument with
      | .separator =>
          match rest with
          | [] => (resolve c pending).mapError .error
          | extra :: _ => .error (.error (.unknownArgument (Text.lossy extra) none []))
      | .long name value =>
          match Bytes.toString? name with
          | none => .error (.error (unknownFlag c pending (Text.lossy name)))
          | some flag =>
              match Setting.ofFlag? flag, value with
              | some s, none =>
                  match resolve c pending with
                  | .error e => .error (.error e)
                  | .ok c => scan env c (some (s, none)) rest
              | some s, some value =>
                  match (resolve c pending).bind fun c => c.give s value with
                  | .error e => .error (.error e)
                  | .ok c => scan env c none rest
              | none, value =>
                  if flag = helpFlag then
                    match value with
                    | some value =>
                        .error (.error (.unexpectedValue (Text.lossy value) (usageOfHelp c)))
                    | none =>
                        match resolve c pending with
                        | .error e => .error (.error e)
                        | .ok _ => .error (.help (help env))
                  else .error (.error (unknownFlag c pending flag))
      | .short letters =>
          if letters.head? = some 104 then
            match resolve c pending with
            | .error e => .error (.error e)
            | .ok _ => .error (.help (help env))
          else .error (.error (.unknownArgument ("-" ++ firstLetter letters) none []))
      | .plain text =>
          match pending with
          | some (s, none) => scan env c (some (s, some text)) rest
          | _ => .error (.error (.unknownArgument (Text.lossy text) none []))

/-- Reads a command line, without the name of the program. -/
def parse (args : List Bytes) (env : Environment) : Except Stop Settings := do
  let c ← scan env .none none args
  let c ← (c.fillFrom env).mapError .error
  return c.settings

end InvoiceGateway.CommandLine
