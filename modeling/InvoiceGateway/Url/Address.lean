import InvoiceGateway.Url.Host
import InvoiceGateway.Url.Path

/-! # Addresses

Read by the rules of the web. -/

namespace InvoiceGateway.Url

/-- Who is addressed. -/
structure Authority where
  /-- The user name, or nothing. -/
  user : String
  /-- The password, or nothing. -/
  password : String
  host : Host
  /-- The port, unless it is the usual one. -/
  port : Option Nat
deriving DecidableEq, Repr

/-- An address in its one form. -/
structure Address where
  scheme : String
  authority : Option Authority
  path : String
  query : Option String
  fragment : Option String
deriving DecidableEq, Repr

/-! ## Schemes -/

/-- The schemes whose addresses have an authority and slashes of both kinds. -/
def specialSchemes : List String :=
  ["http", "https", "ws", "wss", "ftp", "file"]

def usualPort? (scheme : String) : Option Nat :=
  match scheme with
  | "http" => some 80
  | "ws" => some 80
  | "https" => some 443
  | "wss" => some 443
  | "ftp" => some 21
  | _ => none

/-- Splits off the scheme, in lower case. -/
def scheme? (cs : List Char) : Option (String × List Char) :=
  let name := cs.takeWhile fun c => c.isAlphanum || c = '+' || c = '-' || c = '.'
  match name, cs.drop name.length with
  | first :: _, ':' :: rest =>
      if first.isAlpha then some (String.ofList (name.map Text.lower), rest) else none
  | _, _ => none

/-! ## Parts -/

/-- Leaves out the blanks and controls that surround an address. -/
def trimOuter (cs : List Char) : List Char :=
  let outer (c : Char) : Bool := c.toNat ≤ 0x20
  ((cs.dropWhile outer).reverse.dropWhile outer).reverse

/-- Splits at the first character that a test holds of, leaving that character out. -/
def cut (stop : Char → Bool) (cs : List Char) : List Char × Option (List Char) :=
  match cs.dropWhile fun c => !stop c with
  | [] => (cs, none)
  | _ :: rest => (cs.takeWhile fun c => !stop c, some rest)

/-- Splits off the authority, which a slash, a question mark or a number sign ends. -/
def splitAuthority (special : Bool) (cs : List Char) : List Char × List Char :=
  let stops (c : Char) : Bool := isSlash special c || c = '?' || c = '#'
  (cs.takeWhile fun c => !stops c, cs.dropWhile fun c => !stops c)

/-- Splits off what stands before the last at sign. -/
def splitUserinfo (cs : List Char) : Option (List Char) × List Char :=
  match cs.reverse.dropWhile (· != '@') with
  | [] => (none, cs)
  | _ :: before => (some before.reverse, (cs.reverse.takeWhile (· != '@')).reverse)

/-- A user name and a password, encoded. -/
def credentials (cs : List Char) : String × String :=
  let (user, password) := cut (· = ':') cs
  (String.ofList (encode userinfoSet user),
    String.ofList (encode userinfoSet (password.getD [])))

/-- Splits a host from its port; colons between square brackets belong to the host. -/
def splitPort : (inside : Bool) → List Char → List Char × Option (List Char)
  | _, [] => ([], none)
  | inside, c :: cs =>
      if c = ':' && !inside then ([], some cs)
      else
        let (host, port) := splitPort (c = '[' || (inside && c != ']')) cs
        (c :: host, port)

/-- A port, which must be below `2 ^ 16`, and what follows it, which must begin with a backslash;
the usual port is left out. -/
def port? (scheme : String) (cs : List Char) : Option (Option Nat × List Char) :=
  let digits := cs.takeWhile Char.isDigit
  let rest := cs.dropWhile Char.isDigit
  let n := Nat.ofDigitChars 10 digits 0
  if !rest.head?.all (· = '\\') || UInt16.size ≤ n then none
  else if digits.isEmpty || usualPort? scheme = some n then some (none, rest)
  else some (some n, rest)

/-- Reads an authority, which `rest` follows, and returns what belongs to the path.  Neither a port
nor a user goes with an empty host. -/
def authority? (scheme : String) (special : Bool) (cs rest : List Char) :
    Option (Authority × List Char) := do
  let (userinfo, place) := splitUserinfo cs
  let (user, password) := credentials (userinfo.getD [])
  let (hostText, portText) := splitPort false place
  let host ← Host.parse? special hostText
  let (port, after) ← port? scheme (portText.getD [])
  let named := !user.isEmpty || !password.isEmpty || (userinfo = some [] && !rest.isEmpty)
  if hostText.isEmpty && (named || portText.isSome) then none
  else return (⟨user, password, host, port⟩, after ++ rest)

/-- Splits the path from the query and the fragment. -/
def splitPath (cs : List Char) : List Char × Option (List Char) × Option (List Char) :=
  let (front, fragment) := cut (· = '#') cs
  let (path, query) := cut (· = '?') front
  (path, query, fragment)

/-- The path of an address with an authority, or that begins with a slash. -/
def hierarchicalPath (special : Bool) (cs : List Char) : List Char :=
  match cs with
  | [] => if special then ['/'] else []
  | c :: rest => pathText (segments special (if isSlash special c then rest else c :: rest))

def assemble (scheme : String) (special : Bool) (authority : Option Authority) (path : List Char)
    (query fragment : Option (List Char)) : Address where
  scheme := scheme
  authority := authority
  path := String.ofList path
  query := query.map fun q => String.ofList (encode (querySet special) q)
  fragment := fragment.map fun f => String.ofList (encode fragmentSet f)

namespace Address

/-- An address of a local file, given the path without its leading slash and what follows it. -/
def ofFile (host : Host) (cs : List Char) : Address :=
  let (path, query, fragment) := splitPath cs
  let (segments, drive) := fileSegments path
  let host := if drive then Host.named "" else host
  assemble "file" true (some ⟨"", "", host, none⟩) (pathText segments) (query.map plain)
    (fragment.map plain)

def afterSlash? (cs : List Char) : Option (List Char) :=
  match cs.dropWhile isSkipped with
  | [] => none
  | c :: rest => if isSlash true c then some rest else none

/-- The host of a local file, which may be empty or this machine. -/
def fileHost? (name : List Char) : Option Host :=
  if name.isEmpty then some (.named "")
  else (Host.parse? true name).map fun host =>
    if host = .domain "localhost" then .named "" else host

/-- Reads what follows the scheme of a local file, with the characters that do not count. -/
def parseFile? (cs : List Char) : Option Address :=
  match afterSlash? cs with
  | none => some (ofFile (.named "") cs)
  | some path =>
      match afterSlash? path with
      | none => some (ofFile (.named "") path)
      | some rest =>
          let (name, path) := splitAuthority true rest
          if isDrive (plain name) then some (ofFile (.named "") rest)
          else (fileHost? (plain name)).map fun host => ofFile host ((afterSlash? path).getD path)

/-- Reads what follows one of the common schemes. -/
def parseSpecial? (scheme : String) (cs : List Char) : Option Address := do
  let (name, rest) := splitAuthority true (cs.dropWhile (isSlash true))
  let (authority, rest) ← authority? scheme true name rest
  let (path, query, fragment) := splitPath rest
  return assemble scheme true (some authority) (hierarchicalPath true path) query fragment

def parseOther? (scheme : String) (cs : List Char) : Option Address :=
  match cs with
  | '/' :: '/' :: rest => do
      let (name, rest) := splitAuthority false rest
      let (authority, rest) ← authority? scheme false name rest
      let (path, query, fragment) := splitPath rest
      return assemble scheme false (some authority) (hierarchicalPath false path) query fragment
  | _ =>
      let (path, query, fragment) := splitPath cs
      let path :=
        if path.head? = some '/' then hierarchicalPath false path else encode controlSet path
      some (assemble scheme false none path query fragment)

def parse? (s : String) : Option Address := do
  let cs := trimOuter s.toList
  let (scheme, rest) ← Url.scheme? (plain cs)
  if scheme = "file" then parseFile? ((cs.dropWhile (· ≠ ':')).drop 1)
  else if specialSchemes.contains scheme then parseSpecial? scheme rest
  else parseOther? scheme rest

def host? (a : Address) : Option Host :=
  a.authority.bind fun authority =>
    if authority.host.text.isEmpty then none else some authority.host

/-- Whether an encoded text stands for text in UTF-8. -/
def isText (s : String) : Bool :=
  (Bytes.toString? (decode s.toList)).isSome

/-- An authority without user name and password, which are taken out if they are text. -/
def anonymous (authority : Authority) : Authority :=
  if isText authority.user &&
      (!authority.user.isEmpty || (!authority.password.isEmpty && isText authority.password)) then
    { authority with user := "", password := "" }
  else authority

/-- The address without user name and password. -/
def withoutCredentials (a : Address) : Address :=
  { a with authority := a.authority.map anonymous }

/-- The user name and the password before a host. -/
def credentialsText (authority : Authority) : String :=
  if authority.user.isEmpty && authority.password.isEmpty then ""
  else if authority.password.isEmpty then authority.user ++ "@"
  else authority.user ++ ":" ++ authority.password ++ "@"

def authorityText (authority : Authority) : String :=
  credentialsText authority ++ authority.host.text ++
    (authority.port.map fun p => ":" ++ toString p).getD ""

/-- The path and the query, as a request names them. -/
def target (a : Address) : String :=
  a.path ++ (a.query.map fun q => "?" ++ q).getD ""

def text (a : Address) : String :=
  a.scheme ++ ":" ++
    (match a.authority with
      | some authority => "//" ++ authorityText authority
      | none => if "//".toList.isPrefixOf a.path.toList then "/." else "") ++
    a.target ++ (a.fragment.map fun f => "#" ++ f).getD ""

end Address

end InvoiceGateway.Url
