import InvoiceGateway.Bytes
import InvoiceGateway.Text.Alphanumeric
import InvoiceGateway.Text.Basic

/-! # Patterns

Whether a text is a regular expression; beyond ASCII there are no tables of letters. -/

namespace InvoiceGateway.Log.Pattern

/-- Why a text cannot serve as a pattern. -/
inductive Fault
  | malformed
  /-- It asks for the boundaries of words in any script. -/
  | wordBoundary
deriving DecidableEq, Repr

/-! ## Modes -/

/-- How a part of a pattern is read. -/
structure Mode where
  /-- Whether letters stand for both their cases. -/
  anyCase : Bool
  /-- Whether a pattern speaks of characters, and not of bytes. -/
  unicode : Bool
  /-- Whether blanks and comments are left out. -/
  spaced : Bool

/-- How a pattern is read where it does not say. -/
def Mode.initial : Mode :=
  ⟨false, true, false⟩

/-- The letters of the options that a pattern can set. -/
def optionLetters : List Char :=
  ['i', 'm', 's', 'U', 'u', 'R', 'x']

/-- The options at the front, up to a colon or a closing parenthesis.  None is named twice, and a
minus sign is followed by those that are unset. -/
def options? (cs : List Char) : Option (List Char) :=
  let letters := cs.takeWhile fun c => c != ':' && c != ')'
  if letters.length < cs.length && letters.eraseDups = letters && letters.getLast? != some '-' &&
      letters.all fun c => c = '-' || optionLetters.contains c then
    some letters
  else none

def Mode.apply (m : Mode) (options : List Char) : Mode :=
  let on := options.takeWhile (· != '-')
  let choose (letter : Char) (old : Bool) : Bool :=
    on.contains letter || (old && !options.contains letter)
  ⟨choose 'i' m.anyCase, choose 'u' m.unicode, choose 'x' m.spaced⟩

/-- The number of characters of the blanks and comments at the front; a comment begins with a number
sign and ends with its line. -/
def blankLength : (comment : Bool) → List Char → Nat
  | _, [] => 0
  | true, c :: cs => blankLength (c != '\n') cs + 1
  | false, c :: cs =>
      if Text.isBlank c then blankLength false cs + 1
      else if c = '#' then blankLength true cs + 1
      else 0

/-- The number of characters at the front that are left out. -/
def Mode.skipped (m : Mode) (cs : List Char) : Nat :=
  if m.spaced then blankLength false cs else 0

/-! ## Single items -/

/-- An item that is not put together from others. -/
inductive Atom
  /-- A character, which may have been written as the code of a byte. -/
  | literal (c : Char) (byte : Bool)
  /-- Digits, blanks or the characters of words, or all but them. -/
  | kind (negated : Bool)
  /-- An end of the text or of a line. -/
  | edge
  /-- A boundary of a word. -/
  | wordBoundary

/-- Adds so many hexadecimal digits at the front to a code, with the number of characters that have
been read. -/
def hexCode? (m : Mode) : (digits code read : Nat) → List Char → Option (Nat × Nat)
  | 0, code, read, _ => some (code, read)
  | digits + 1, code, read, cs =>
      match cs.drop (m.skipped cs) with
      | [] => none
      | c :: rest =>
          match Ascii.hexChar? c with
          | some d => hexCode? m digits (code * 16 + d) (read + m.skipped cs + 1) rest
          | none => none

/-- The character with a code of so many hexadecimal digits. -/
def coded? (m : Mode) (digits : Nat) (cs : List Char) : Option (Atom × Nat) :=
  match hexCode? m digits 0 0 cs with
  | some (code, read) =>
      if code.isValidChar then some (.literal (Char.ofNat code) (digits = 2), read + 1) else none
  | none => none

/-- What a backslash and the characters after it stand for, with the number of those characters. -/
def escaped? (m : Mode) : List Char → Option (Atom × Nat)
  | [] => none
  | c :: cs =>
      match c with
      | 'x' => coded? m 2 cs
      | 'u' => coded? m 4 cs
      | 'U' => coded? m 8 cs
      | 'd' | 's' | 'w' => some (.kind false, 1)
      | 'D' | 'S' | 'W' => some (.kind true, 1)
      | 'a' => some (.literal '\x07' false, 1)
      | 't' => some (.literal '\t' false, 1)
      | 'n' => some (.literal '\n' false, 1)
      | 'v' => some (.literal '\x0b' false, 1)
      | 'f' => some (.literal '\x0c' false, 1)
      | 'r' => some (.literal '\r' false, 1)
      | 'A' | 'z' => some (.edge, 1)
      | 'b' | 'B' | '<' | '>' => some (.wordBoundary, 1)
      | _ => if Text.isAscii c && !c.isAlphanum then some (.literal c false, 1) else none

/-- The item at the front, with the number of characters after its first. -/
def atom? (m : Mode) (c : Char) (cs : List Char) : Option (Atom × Nat) :=
  if c = '\\' then escaped? m cs else some (.literal c false, 0)

/-- Whether case and script can be told for literals: both cases are known of bytes only. -/
def Mode.knowsCase (m : Mode) : Bool :=
  !(m.anyCase && m.unicode)

/-- Whether an item may stand outside a class. -/
def Mode.admits (m : Mode) : Atom → Bool
  | .literal c byte => m.knowsCase && (m.unicode || !byte || Text.isAscii c)
  | .kind negated => !m.unicode && !negated
  | .edge | .wordBoundary => true

/-- Whether an item may stand in a class. -/
def Mode.admitsInClass (m : Mode) : Atom → Bool
  | .literal c _ => m.knowsCase && (m.unicode || Text.isAscii c)
  | .kind negated => !m.unicode && !negated
  | .edge | .wordBoundary => false

/-! ## Heights -/

/-- The greatest height that a pattern may have. -/
def heightLimit : Nat := 250

structure Items where
  count : Nat
  /-- The greatest height of an item. -/
  tallest : Nat
  /-- The height of the last item, if it can be repeated. -/
  last : Option Nat

namespace Items

def empty : Items :=
  ⟨0, 0, none⟩

def push (s : Items) (height : Nat) : Items :=
  ⟨s.count + 1, max s.tallest height, some height⟩

def pushOptions (s : Items) : Items :=
  ⟨s.count + 1, s.tallest, none⟩

def repeated? (s : Items) : Option Items :=
  s.last.map fun height => ⟨s.count, max s.tallest (height + 1), some (height + 1)⟩

/-- The height of the sequence: one item stands for itself. -/
def height (s : Items) : Nat :=
  if s.count ≤ 1 then s.tallest else s.tallest + 1

end Items

/-- Alternatives, the last of which goes on. -/
structure Choice where
  /-- The greatest height of the alternatives before the last, if there are any. -/
  earlier : Option Nat
  current : Items

namespace Choice

def empty : Choice :=
  ⟨none, .empty⟩

/-- Adds an item of a height to the last alternative. -/
def push (b : Choice) (height : Nat) : Choice :=
  { b with current := b.current.push height }

def next (b : Choice) : Choice :=
  ⟨some (max (b.earlier.getD 0) b.current.height), .empty⟩

/-- The height of the alternatives together: a single one stands for itself. -/
def height (b : Choice) : Nat :=
  match b.earlier with
  | none => b.current.height
  | some tallest => max tallest b.current.height + 1

end Choice

/-- How far a class has been read. -/
inductive ClassPlace
  /-- Only its bracket. -/
  | opened
  /-- Its bracket and a caret. -/
  | negated
  /-- Its bracket, perhaps a caret, and dashes. -/
  | dashed
  | inside
deriving DecidableEq

/-- A class in brackets that is still open. -/
structure Class where
  place : ClassPlace
  items : Items
  /-- The height of what stands before the last operator, if there is one. -/
  left : Option Nat

namespace Class

/-- A class of which only the bracket has been read. -/
def opened : Class :=
  ⟨.opened, .empty, none⟩

def push (k : Class) (height : Nat) : Class :=
  { k with place := .inside, items := k.items.push height }

/-- The height of the class without its brackets. -/
def height (k : Class) : Nat :=
  match k.left with
  | none => k.items.height
  | some left => max left k.items.height + 1

/-- Goes on after an operator. -/
def operator (k : Class) : Class :=
  ⟨.inside, .empty, some k.height⟩

end Class

/-! ## Reading -/

/-- How far a pattern has been read. -/
structure Scan where
  mode : Mode
  /-- The innermost group, or the pattern itself. -/
  body : Choice
  /-- The groups around it, with the modes that hold after it. -/
  enclosing : List (Choice × Mode)
  /-- The open classes, the innermost first. -/
  classes : List Class
  /-- The names of groups. -/
  names : List (List Char)
  /-- Whether a boundary of a word in any script has been read. -/
  wordBoundary : Bool

def Scan.initial : Scan :=
  ⟨.initial, .empty, [], [], [], false⟩

/-- Whether a text can name a group. -/
def isName : List Char → Bool
  | [] => false
  | c :: cs =>
      (c = '_' || Text.isLetter c) &&
        cs.all fun c => ['_', '.', '[', ']'].contains c || Text.isAlphanumeric c

namespace Scan

def push (s : Scan) (height : Nat) : Scan :=
  { s with body := s.body.push height }

def enter (s : Scan) (mode : Mode) : Scan :=
  { s with mode := mode, body := .empty, enclosing := (s.body, s.mode) :: s.enclosing }

def leave? (s : Scan) : Option Scan :=
  match s.enclosing with
  | [] => none
  | (outer, mode) :: enclosing =>
      some { s with mode := mode, body := outer.push (s.body.height + 1), enclosing := enclosing }

/-- Enters a group whose name is at the front, after so many characters. -/
def enterNamed? (s : Scan) (read : Nat) (cs : List Char) : Option (Scan × Nat) :=
  let name := cs.takeWhile (· != '>')
  if name.length < cs.length && isName name && !s.names.contains name then
    some ({ s with names := name :: s.names }.enter s.mode, read + name.length + 1)
  else none

/-- Reads what follows an opening parenthesis, and tells the number of characters. -/
def openGroup? (s : Scan) (cs : List Char) : Option (Scan × Nat) :=
  let n := s.mode.skipped cs
  match cs.drop n with
  | '?' :: 'P' :: '<' :: rest => s.enterNamed? (n + 3) rest
  | '?' :: '<' :: rest => s.enterNamed? (n + 2) rest
  | '?' :: rest =>
      match options? rest with
      | none => none
      | some options =>
          let mode := s.mode.apply options
          let read := n + 1 + options.length + 1
          if rest[options.length]? = some ':' then some (s.enter mode, read)
          else if options.isEmpty then none
          else
            let body := { s.body with current := s.body.current.pushOptions }
            some ({ s with mode := mode, body := body }, read)
  | _ => some (s.enter s.mode, n)

/-- Repeats the last item; a question mark at the front asks for few repetitions. -/
def repeat? (s : Scan) (cs : List Char) : Option (Scan × Nat) :=
  s.body.current.repeated?.map fun items =>
    ({ s with body := { s.body with current := items } }, if cs.head? = some '?' then 1 else 0)

def single? (s : Scan) (c : Char) (cs : List Char) : Option (Scan × Nat) :=
  match atom? s.mode c cs with
  | none => none
  | some (atom, n) =>
      if !s.mode.admits atom then none
      else
        match atom with
        | .wordBoundary =>
            some ({ s with wordBoundary := s.wordBoundary || s.mode.unicode }.push 0, n)
        | _ => some (s.push 0, n)

/-- Reads on outside classes, by a character and perhaps some of those after it. -/
def outside? (s : Scan) (c : Char) (cs : List Char) : Option (Scan × Nat) :=
  match c with
  | '(' => s.openGroup? cs
  | ')' => s.leave?.map (·, 0)
  | '|' => some ({ s with body := s.body.next }, 0)
  | '[' => some ({ s with classes := [.opened] }, 0)
  | '?' | '*' | '+' => s.repeat? cs
  | '\x7b' => none
  | '.' => if s.mode.unicode then some (s.push 0, 0) else none
  | '^' | '$' => some (s.push 0, 0)
  | _ => s.single? c cs

/-! ## Reading classes -/

/-- The named classes of ASCII characters. -/
def asciiClasses : List String :=
  ["alnum", "alpha", "ascii", "blank", "cntrl", "digit", "graph", "lower", "print", "punct",
    "space", "upper", "word", "xdigit"]

/-- A named class at the front, after its bracket: whether it is negated, and the number of its
characters. -/
def asciiClass? : List Char → Option (Bool × Nat)
  | ':' :: cs =>
      let negated := cs.head? = some '^'
      let cs := if negated then cs.drop 1 else cs
      let name := cs.takeWhile (· != ':')
      let ending := (cs.drop name.length).take 2
      if asciiClasses.contains (String.ofList name) && ending = [':', ']'] then
        some (negated, name.length + if negated then 4 else 3)
      else none
  | _ => none

/-- The first character that is not left out after a dash; only the mark of a comment is left out,
and not its text. -/
def afterDash? (m : Mode) (cs : List Char) : Option Char :=
  if m.spaced then
    match cs.dropWhile Text.isBlank with
    | '#' :: rest => (rest.dropWhile Text.isBlank).head?
    | rest => rest.head?
  else cs.head?

/-- Whether a dash begins a range of characters, by what follows it. -/
def beginsRange (m : Mode) (afterDash : List Char) : Bool :=
  match afterDash? m afterDash with
  | some ']' | some '-' => false
  | _ => true

/-- Reads one item of a class or a range of characters, and tells the number of characters after the
first. -/
def range? (m : Mode) (c : Char) (cs : List Char) : Option Nat :=
  match atom? m c cs with
  | none => none
  | some (first, n) =>
      if !m.admitsInClass first then none
      else
        let n' := n + m.skipped (cs.drop n)
        match cs.drop n' with
        | [] => none
        | d :: rest =>
            if d != '-' || !beginsRange m rest then some n
            else
              match rest.drop (m.skipped rest) with
              | [] => none
              | e :: rest' =>
                  match first, atom? m e rest' with
                  | .literal low _, some (.literal high byte, k) =>
                      if m.admitsInClass (.literal high byte) && low ≤ high then
                        some (n' + 1 + m.skipped rest + 1 + k)
                      else none
                  | _, _ => none

/-- Reads on in a class, by a character and perhaps some of those after it. -/
def inside? (s : Scan) (k : Class) (outer : List Class) (c : Char) (cs : List Char) :
    Option (Scan × Nat) :=
  let dash : Atom := .literal '-' false
  let pushed (n : Nat) : Scan × Nat := ({ s with classes := k.push 0 :: outer }, n)
  let item : Option (Scan × Nat) := (range? s.mode c cs).map pushed
  if c = '^' && k.place = .opened then
    if s.mode.unicode then
      some ({ s with classes := { k with place := .negated } :: outer }, 0)
    else none
  else if c = '-' && k.place != .inside then
    if s.mode.admitsInClass dash then
      some ({ s with classes := { k.push 0 with place := .dashed } :: outer }, 0)
    else none
  else if c = ']' && (k.place = .opened || k.place = .negated) then
    if s.mode.admitsInClass dash then some (pushed 0) else none
  else if c = ']' then
    match outer with
    | [] => some ({ s with classes := [] }.push (k.height + 1), 0)
    | parent :: rest => some ({ s with classes := parent.push (k.height + 1) :: rest }, 0)
  else if c = '[' then
    match asciiClass? cs with
    | some (negated, n) =>
        if s.mode.knowsCase && (s.mode.unicode || !negated) then some (pushed n) else none
    | none =>
        some ({ s with classes := .opened :: { k with place := .inside } :: outer }, 0)
  else if ['&', '-', '~'].contains c && cs.head? = some c then
    some ({ s with classes := k.operator :: outer }, 1)
  else item

/-! ## The whole -/

/-- Reads on by a character and perhaps some of those after it, and tells their number. -/
def step? (s : Scan) (c : Char) (cs : List Char) : Option (Scan × Nat) :=
  match s.mode.skipped (c :: cs) with
  | n + 1 => some (s, n)
  | 0 =>
      match s.classes with
      | [] => s.outside? c cs
      | k :: outer => s.inside? k outer c cs

def run? (s : Scan) (cs : List Char) : Option Scan :=
  match cs with
  | [] => some s
  | c :: cs =>
      match s.step? c cs with
      | none => none
      | some (s, n) => run? s (cs.drop n)
termination_by cs.length

end Scan

/-- Whether a text is a pattern, and else why it is not. -/
def check (text : String) : Except Fault Unit :=
  match Scan.initial.run? text.toList with
  | none => .error .malformed
  | some s =>
      if !s.classes.isEmpty || !s.enclosing.isEmpty || heightLimit < s.body.height then
        .error .malformed
      else if s.wordBoundary then .error .wordBoundary
      else .ok ()

end InvoiceGateway.Log.Pattern
