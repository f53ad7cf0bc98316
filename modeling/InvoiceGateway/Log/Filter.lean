import InvoiceGateway.Log.Event
import InvoiceGateway.Log.Pattern
import InvoiceGateway.Text.Utf8

/-! # Which events are shown

Events are logged outside spans, so a directive that names a span shows none. -/

namespace InvoiceGateway.Log

/-! ## Levels -/

/-- The events shown: those at least as important as the level, if there is one. -/
abbrev Threshold := Option Level

def Level.verbosity : Level → Nat
  | .error => 1
  | .warn => 2
  | .info => 3
  | .debug => 4
  | .trace => 5

def shows (t : Threshold) (l : Level) : Bool :=
  match t with
  | none => false
  | some most => l.verbosity ≤ most.verbosity

def thresholdOfNumber? : Nat → Option Threshold
  | 0 => some none
  | 1 => some (some .error)
  | 2 => some (some .warn)
  | 3 => some (some .info)
  | 4 => some (some .debug)
  | 5 => some (some .trace)
  | _ => none

/-- The threshold with this name, in either case. -/
def thresholdOfName? (name : String) : Option Threshold :=
  match name.toLower with
  | "" => some (some .error)
  | "error" => some (some .error)
  | "warn" => some (some .warn)
  | "info" => some (some .info)
  | "debug" => some (some .debug)
  | "trace" => some (some .trace)
  | "off" => some none
  | _ => none

/-- The number that a text spells, with an optional plus sign. -/
def unsigned? (cs : List Char) : Option Nat :=
  let digits := if cs.head? = some '+' then cs.drop 1 else cs
  if digits.isEmpty || !digits.all Char.isDigit then none
  else some (Nat.ofDigitChars 10 digits 0)

def threshold? (cs : List Char) : Option Threshold :=
  match (unsigned? cs).bind thresholdOfNumber? with
  | some t => some t
  | none => thresholdOfName? (String.ofList cs)

/-- Why a directive is left out. -/
inductive DirectiveError
  | malformed
  | level
  /-- The value asked for is no pattern. -/
  | pattern (fault : Pattern.Fault)
deriving DecidableEq, Repr

def DirectiveError.message : DirectiveError → String
  | .malformed => "invalid filter directive"
  | .level =>
      "error parsing level filter: expected one of \"off\", \"error\", \"warn\", \"info\", " ++
        "\"debug\", \"trace\", or a number 0-5"
  | .pattern .malformed => "invalid field filter: error building NFA"
  | .pattern .wordBoundary =>
      "invalid field filter: unsupported regex feature for DFAs: cannot build DFAs for regexes " ++
        "with Unicode word boundaries; switch to ASCII word boundaries, or heuristically enable " ++
        "Unicode word boundaries or use a different regex engine"

/-- Reads the level after an equals sign; an empty one shows everything. -/
def levelPart (text : String) : Except DirectiveError Threshold :=
  if text.isEmpty then .ok (some .trace)
  else
    match threshold? text.toList with
    | some t => .ok t
    | none => .error .level

/-! ## Fields -/

/-- A field that a directive asks for. -/
structure Field where
  name : String
  /-- Whether a value is asked for, too. -/
  valued : Bool
deriving DecidableEq, Repr

/-- The characters without the sign in front. -/
def unsigned (cs : List Char) : List Char :=
  if cs.head? = some '+' || cs.head? = some '-' then cs.drop 1 else cs

/-- Whether all that is left is digits, and at least one. -/
def isDigits (cs : List Char) : Bool :=
  !cs.isEmpty && cs.all Char.isDigit

/-- Whether a text is a number: digits with a point among them and an exponent after them, or a word
for what is no finite number. -/
def isNumber (cs : List Char) : Bool :=
  let cs := unsigned cs
  let mantissa := cs.takeWhile fun c => c != 'e' && c != 'E'
  let exponent := cs.drop (mantissa.length + 1)
  let whole := mantissa.takeWhile (· != '.')
  let isMantissa := isDigits (whole ++ mantissa.drop (whole.length + 1))
  let isExponent := mantissa.length = cs.length || isDigits (unsigned exponent)
  ["inf", "infinity", "nan"].contains (String.ofList cs).toLower || (isMantissa && isExponent)

/-- Reads a field: its name and perhaps, after an equals sign, its value, which is a number or a
pattern and ends at the next equals sign. -/
def Field.parse (text : String) : Except DirectiveError Field :=
  if text.isEmpty then .error .malformed
  else
    match text.toList.splitOn '=' with
    | name :: value :: _ =>
        let field : Field := ⟨String.ofList name, true⟩
        if isNumber value then .ok field
        else ((Pattern.check (String.ofList value)).map fun () => field).mapError .pattern
    | _ => .ok ⟨text, false⟩

/-! ## Directives -/

/-- One directive of a filter. -/
structure Directive where
  target : Option String
  /-- Whether it names a span. -/
  inSpan : Bool
  field : Option Field
  threshold : Threshold
deriving DecidableEq, Repr

namespace Directive

/-- How far a directive has been read.  Its parts begin at offsets, counted in bytes. -/
inductive Place
  | start
  /-- In a target, or in a level that stands alone. -/
  | target (start : Nat)
  /-- In the name of a span. -/
  | span (start : Nat)
  /-- In a field. -/
  | field (start : Nat)
  /-- After a field. -/
  | afterField
  /-- After a span. -/
  | afterSpan
  | level (start : Nat)
deriving DecidableEq, Repr

/-- A directive that is being read, with the offset of the next character. -/
structure Draft where
  directive : Directive
  place : Place
  offset : Nat
deriving DecidableEq, Repr

/-- Nothing has been read: what is not narrowed down holds for everything. -/
def Draft.initial : Draft :=
  ⟨⟨none, false, none, some .trace⟩, .start, 0⟩

/-- Whether a character may begin a directive without a span. -/
def isFirst (c : Char) : Bool :=
  c = '-' || c = ':' || c = '_' || Text.isAlphanumeric c

/-- The part of a text between two offsets. -/
def part (text : Bytes) (start stop : Nat) : String :=
  Text.lossy ((text.drop start).take (stop - start))

/-- Reads on by a character; the parts are cut from the text at the offsets. -/
def Draft.next (text : Bytes) (d : Draft) (c : Char) : Except DirectiveError Draft :=
  let move (directive : Directive) (place : Place) : Except DirectiveError Draft :=
    .ok ⟨directive, place, d.offset + c.utf8Size⟩
  let after := d.offset + 1
  match d.place with
  | .start =>
      if c = '[' then move d.directive (.span after)
      else if isFirst c then move d.directive (.target d.offset)
      else .error .malformed
  | .target start =>
      let named := { d.directive with target := some (part text start d.offset) }
      if c = '=' then move named (.level after)
      else if c = '[' then move named (.span after)
      else move d.directive d.place
  | .span start =>
      if c = ']' then move { d.directive with inSpan := true } .afterSpan
      else if c = '\x7b' then
        move { d.directive with inSpan := !(part text start d.offset).isEmpty } (.field after)
      else move d.directive d.place
  | .field start =>
      if c = '\x7d' then
        match Field.parse (part text start d.offset) with
        | .ok field => move { d.directive with field := some field } .afterField
        | .error e => .error e
      else move d.directive d.place
  | .afterField => if c = ']' then move d.directive .afterSpan else .error .malformed
  | .afterSpan => if c = '=' then move d.directive (.level after) else .error .malformed
  | .level _ => move d.directive d.place

/-- The directive, when its end has been reached. -/
def Draft.finish (text : Bytes) (d : Draft) : Except DirectiveError Directive :=
  match d.place with
  | .target start =>
      let name := part text start text.length
      match threshold? name.toList with
      | some t => .ok { d.directive with threshold := t }
      | none => .ok { d.directive with target := some name }
  | .level start =>
      (levelPart (part text start text.length)).map fun t => { d.directive with threshold := t }
  | .afterSpan => .ok d.directive
  | _ => .error .malformed

/-- Reads a directive.  The offsets are counted from the first character that is not blank, and the
blanks at the end are not read; the parts are cut from the text with all its blanks. -/
def parse (text : String) : Except DirectiveError Directive :=
  let bytes := Bytes.ofString text
  match (Text.trim text).toList.foldlM (Draft.next bytes) .initial with
  | .ok draft => draft.finish bytes
  | .error e => .error e

/-- Whether a directive speaks about an event. -/
def covers (d : Directive) (e : Event) : Bool :=
  !d.inSpan &&
    d.target.all (fun t => t.toList.isPrefixOf e.source.toList) &&
    d.field.all fun f => !f.valued && e.fields.contains f.name

/-- How specific a directive is: by the length of its target, then by its field. -/
def rank (d : Directive) : Nat × Option String :=
  (d.target.elim 0 fun t => t.utf8ByteSize + 1, d.field.map Field.name)

/-- Whether a directive is no more specific than another. -/
def le (a b : Directive) : Bool :=
  let (x, f) := a.rank
  let (y, g) := b.rank
  x < y ||
    (x = y &&
      match f, g with
      | none, _ => true
      | some _, none => false
      | some f, some g => f ≤ g)

end Directive

/-! ## Filters -/

/-- Which events are shown. -/
structure Filter where
  directives : List Directive
deriving DecidableEq, Repr

namespace Filter

/-- The most specific directive about an event; of several equally specific ones, the last. -/
def deciding? (f : Filter) (e : Event) : Option Directive :=
  f.directives.foldl
    (fun best d =>
      if d.covers e && best.all fun (b : Directive) => b.le d then some d else best)
    none

def admits (f : Filter) (e : Event) : Bool :=
  match f.deciding? e with
  | some d => shows d.threshold e.level
  | none => false

/-- The complaint about a directive that is left out. -/
def complaint (text : String) (e : DirectiveError) : String :=
  "ignoring `" ++ text ++ "`: " ++ e.message

/-- Reads a filter, with the complaints about the directives that are left out. -/
def parse (text : String) : Filter × List String :=
  let parts := (text.toList.splitOn ',').filter fun part => !part.isEmpty
  let read := parts.map fun part =>
    let text := String.ofList part
    (Directive.parse text).mapError (complaint text)
  (⟨read.filterMap Except.toOption⟩,
    read.filterMap fun r =>
      match r with
      | .ok _ => none
      | .error message => some message)

end Filter

end InvoiceGateway.Log
