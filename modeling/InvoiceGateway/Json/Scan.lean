import InvoiceGateway.Bytes
import InvoiceGateway.Json.Error
import InvoiceGateway.Text.Utf8

/-! # Blanks, words and strings -/

namespace InvoiceGateway.Json

/-- What a reader returns: a fault, or a value and the bytes that follow it. -/
abbrev Reading (α : Type) := Except Fault (α × Bytes)

/-! ## Bytes with a meaning -/

def quote : UInt8 := 34
def backslash : UInt8 := 92
def comma : UInt8 := 44
def colonSign : UInt8 := 58
def openBracket : UInt8 := 91
def closeBracket : UInt8 := 93
def openBrace : UInt8 := 123
def closeBrace : UInt8 := 125

/-- Space, tab, line feed and carriage return may stand between tokens. -/
def isBlank (b : UInt8) : Bool :=
  b = 32 || b = 9 || b = 10 || b = 13

/-- Leaves out the blanks at the front. -/
def skipBlanks (s : Bytes) : Bytes :=
  s.dropWhile isBlank

/-- What the first byte of a value announces. -/
inductive Start
  | null
  | true
  | false
  | minus
  | digit
  | string
  | list
  | object
  | other
deriving DecidableEq, Repr

/-- The value that a first byte announces. -/
def Start.of (b : UInt8) : Start :=
  if b = 110 then .null
  else if b = 116 then .true
  else if b = 102 then .false
  else if b = 45 then .minus
  else if Ascii.isDigit b then .digit
  else if b = quote then .string
  else if b = openBracket then .list
  else if b = openBrace then .object
  else .other

/-! ## Words -/

/-- Reads the letters that must follow the first one of `null`, `true` or `false`. -/
def word : (letters s : Bytes) → Except Fault Bytes
  | [], s => .ok s
  | _ :: _, [] => .error (.before .eofInValue [])
  | letter :: letters, b :: s =>
      if b = letter then word letters s else .error (.before .expectedIdent s)

/-- What follows the first letter of `null`. -/
def nullLetters : Bytes := [117, 108, 108]

/-- What follows the first letter of `true`. -/
def trueLetters : Bytes := [114, 117, 101]

/-- What follows the first letter of `false`. -/
def falseLetters : Bytes := [97, 108, 115, 101]

/-! ## Escapes -/

/-- The number that four hexadecimal digits spell. -/
def hexQuad? (a b c d : UInt8) : Option Nat := do
  let a ← Ascii.hexDigit? a
  let b ← Ascii.hexDigit? b
  let c ← Ascii.hexDigit? c
  let d ← Ascii.hexDigit? d
  return ((a * 16 + b) * 16 + c) * 16 + d

/-- Reads the four hexadecimal digits of an escape. -/
def hexQuad : Bytes → Reading Nat
  | a :: b :: c :: d :: s =>
      match hexQuad? a b c d with
      | some n => .ok (n, s)
      | none => .error (.before .invalidEscape s)
  | _ => .error (.before .eofInString [])

/-- Whether a UTF-16 unit opens a surrogate pair. -/
def isLeading (n : Nat) : Bool :=
  0xD800 ≤ n && n ≤ 0xDBFF

/-- Whether a UTF-16 unit closes a surrogate pair. -/
def isTrailing (n : Nat) : Bool :=
  0xDC00 ≤ n && n ≤ 0xDFFF

/-- The character of a surrogate pair. -/
def joinSurrogates (leading trailing : Nat) : Char :=
  Char.ofNat ((leading - 0xD800) * 0x400 + (trailing - 0xDC00) + 0x10000)

/-- Reads one byte that an escape cannot do without. -/
def escapeByte (expected : UInt8) : Bytes → Except Fault Bytes
  | [] => .error (.before .eofInString [])
  | b :: s => if b = expected then .ok s else .error (.before .endOfHexEscape s)

/-- Reads a character written by its code, after the letter `u`. -/
def unicodeEscape (s : Bytes) : Except Fault (Char × Bytes) := do
  let (n, s) ← hexQuad s
  if isTrailing n then .error (.before .loneSurrogate s)
  else if isLeading n then do
    let s ← escapeByte backslash s
    let s ← escapeByte 117 s
    let (m, s) ← hexQuad s
    if isTrailing m then .ok (joinSurrogates n m, s) else .error (.before .loneSurrogate s)
  else .ok (Char.ofNat n, s)

/-- The character that a one-letter escape stands for. -/
def shortEscape? (b : UInt8) : Option Char :=
  if b = quote then some '"'
  else if b = backslash then some '\\'
  else if b = 47 then some '/'
  else if b = 98 then some '\x08'
  else if b = 102 then some '\x0c'
  else if b = 110 then some '\n'
  else if b = 114 then some '\r'
  else if b = 116 then some '\t'
  else none

def escape : Bytes → Reading Char
  | [] => .error (.before .eofInString [])
  | b :: s =>
      match shortEscape? b with
      | some e => .ok (e, s)
      | none => if b = 117 then unicodeEscape s else .error (.before .invalidEscape s)

/-- Reads an escape of a string that is left out: a code need not stand for a character. -/
def skipEscape : Bytes → Except Fault Bytes
  | [] => .error (.before .eofInString [])
  | b :: s =>
      match shortEscape? b with
      | some _ => .ok s
      | none =>
          if b = 117 then (hexQuad s).map Prod.snd
          else .error (.before .invalidEscape s)

/-! ## An escape takes at least one byte -/

theorem length_of_hexQuad {s rest : Bytes} {n : Nat} (h : hexQuad s = .ok (n, rest)) :
    rest.length < s.length := by
  unfold hexQuad at h
  split at h
  · split at h
    · injection h with h
      injection h with _ h
      subst h
      simp only [List.length_cons]
      omega
    · contradiction
  · contradiction

theorem length_of_escapeByte {b : UInt8} {s rest : Bytes} (h : escapeByte b s = .ok rest) :
    rest.length < s.length := by
  unfold escapeByte at h
  split at h
  · contradiction
  · split at h
    · injection h with h
      simp [h]
    · contradiction

theorem length_of_unicodeEscape {s rest : Bytes} {c : Char}
    (h : unicodeEscape s = .ok (c, rest)) : rest.length < s.length := by
  unfold unicodeEscape at h
  simp only [bind, Except.bind] at h
  split at h
  · contradiction
  · next p hp =>
      have h1 := length_of_hexQuad hp
      split at h
      · contradiction
      · split at h
        · split at h
          · contradiction
          · next s1 hs1 =>
              have h2 := length_of_escapeByte hs1
              split at h
              · contradiction
              · next s2 hs2 =>
                  have h3 := length_of_escapeByte hs2
                  split at h
                  · contradiction
                  · next q hq =>
                      have h4 := length_of_hexQuad hq
                      split at h
                      · injection h with h
                        injection h with _ h
                        subst h
                        omega
                      · contradiction
        · injection h with h
          injection h with _ h
          subst h
          exact h1

theorem length_of_escape {s rest : Bytes} {c : Char} (h : escape s = .ok (c, rest)) :
    rest.length < s.length := by
  unfold escape at h
  split at h
  · contradiction
  · next b t =>
      split at h
      · injection h with h
        injection h with _ h
        simp [h]
      · split at h
        · have := length_of_unicodeEscape h
          simp only [List.length_cons]
          omega
        · contradiction

theorem length_of_skipEscape {s rest : Bytes} (h : skipEscape s = .ok rest) :
    rest.length < s.length := by
  unfold skipEscape at h
  split at h
  · contradiction
  · next b t =>
      split at h
      · injection h with h
        simp [h]
      · split at h
        · cases hu : hexQuad t with
          | error f => simp [hu, Except.map] at h
          | ok p =>
              have := @length_of_hexQuad t p.2 p.1 hu
              simp only [hu, Except.map, Except.ok.injEq] at h
              subst h
              simp only [List.length_cons]
              omega
        · contradiction

/-! ## Strings -/

/-- Reads the bytes that a string stands for, through its closing quote; `done` holds those read so
far, last first. -/
def contentOnto (done s : Bytes) : Reading Bytes :=
  match s with
  | [] => .error (.before .eofInString [])
  | b :: rest =>
      if b = quote then .ok (done.reverse, rest)
      else if b = backslash then
        match h : escape rest with
        | .error fault => .error fault
        | .ok (c, rest') =>
            have := length_of_escape h
            contentOnto ((String.utf8EncodeChar c).reverse ++ done) rest'
      else if b < 32 then .error (.before .controlCharacter rest)
      else contentOnto (b :: done) rest
termination_by s.length

/-- The text that a string stands for.  The whole string has been read by then, so the fault of an
ill-formed character is found by counting back from the closing quote as many bytes as the string
stands for from that character on. -/
def contentText (content rest : Bytes) : Except Fault String :=
  match Bytes.toString? content with
  | some text => .ok text
  | none =>
      .error ⟨.invalidCodePoint, rest.length + (content.length - Text.validLength content)⟩

/-- Reads a string after its opening quote. -/
def string (s : Bytes) : Reading String :=
  match contentOnto [] s with
  | .error fault => .error fault
  | .ok (content, rest) => (contentText content rest).map fun text => (text, rest)

/-- Reads past a string that is left out, after its opening quote. -/
def skipString (s : Bytes) : Except Fault Bytes :=
  match s with
  | [] => .error (.before .eofInString [])
  | b :: rest =>
      if b = quote then .ok rest
      else if b = backslash then
        match h : skipEscape rest with
        | .error fault => .error fault
        | .ok rest' =>
            have := length_of_skipEscape h
            skipString rest'
      else if b < 32 then .error (.before .controlCharacter (b :: rest))
      else skipString rest
termination_by s.length

end InvoiceGateway.Json
