import InvoiceGateway.Json.Number

/-! # The grammar of JSON texts -/

namespace InvoiceGateway.Json

/-! ## Blanks and digits -/

/-- Every byte is a blank. -/
def Blanks (s : Bytes) : Prop :=
  ∀ b ∈ s, isBlank b = true

/-- Every byte is a decimal digit. -/
def Digits (s : Bytes) : Prop :=
  ∀ b ∈ s, Ascii.isDigit b = true

/-! ## Numbers -/

/-- The digits before the point: zero alone, or digits that do not begin with zero. -/
inductive WholeText : Bytes → Prop
  | zero : WholeText [48]
  | digits {d : UInt8} {ds : Bytes} :
      Ascii.isDigit d = true → d ≠ 48 → Digits ds → WholeText (d :: ds)

/-- The point and at least one digit after it, or nothing. -/
inductive FractionText : Bytes → Bytes → Prop
  | absent : FractionText [] []
  | present {d : UInt8} {ds : Bytes} : Digits (d :: ds) → FractionText (46 :: d :: ds) (d :: ds)

/-- The sign of an exponent; the flag tells whether it is a minus. -/
inductive SignText : Bytes → Bool → Prop
  | absent : SignText [] false
  | plus : SignText [43] false
  | minus : SignText [45] true

/-- The letter, the sign and at least one digit of an exponent, or nothing. -/
inductive ExponentText : Bytes → Option (Bool × Bytes) → Prop
  | absent : ExponentText [] none
  | present {letter d : UInt8} {sign ds : Bytes} {negative : Bool} :
      letter = 101 ∨ letter = 69 → SignText sign negative → Digits (d :: ds) →
      ExponentText (letter :: sign ++ d :: ds) (some (negative, d :: ds))

/-- A number literal. -/
inductive LiteralText : Bytes → Literal → Prop
  | mk {negative : Bool} {whole fraction fractionDigits exponent : Bytes}
      {exponentDigits : Option (Bool × Bytes)} :
      WholeText whole → FractionText fraction fractionDigits →
      ExponentText exponent exponentDigits →
      LiteralText ((if negative then [45] else []) ++ whole ++ fraction ++ exponent)
        ⟨negative, whole, fractionDigits, exponentDigits⟩

/-! ## Strings -/

/-- A character that may stand for itself in a string. -/
def IsPlainChar (c : Char) : Prop :=
  c ≠ '"' ∧ c ≠ '\\' ∧ 32 ≤ c.toNat

/-- An escape and the character it stands for. -/
inductive EscapeText : Bytes → Char → Prop
  | short {b : UInt8} {c : Char} : shortEscape? b = some c → EscapeText [backslash, b] c
  | code {a b c d : UInt8} {n : Nat} :
      hexQuad? a b c d = some n → isLeading n = false → isTrailing n = false →
      EscapeText [backslash, 117, a, b, c, d] (Char.ofNat n)
  | pair {a b c d a' b' c' d' : UInt8} {leading trailing : Nat} :
      hexQuad? a b c d = some leading → isLeading leading = true →
      hexQuad? a' b' c' d' = some trailing → isTrailing trailing = true →
      EscapeText [backslash, 117, a, b, c, d, backslash, 117, a', b', c', d']
        (joinSurrogates leading trailing)

/-- What may stand between the quotes of a string, and the characters it stands for. -/
inductive CharsText : Bytes → List Char → Prop
  | nil : CharsText [] []
  | plain {c : Char} {s : Bytes} {cs : List Char} :
      IsPlainChar c → CharsText s cs → CharsText (String.utf8EncodeChar c ++ s) (c :: cs)
  | escape {c : Char} {e s : Bytes} {cs : List Char} :
      EscapeText e c → CharsText s cs → CharsText (e ++ s) (c :: cs)

/-- A string between its quotes. -/
inductive StringText : Bytes → String → Prop
  | mk {s : Bytes} {text : String} :
      CharsText s text.toList → StringText (quote :: s ++ [quote]) text

/-! ## Values -/

mutual

/-- A value with at most `depth` lists and objects open at once, without blanks around it. -/
inductive ValueText : (depth : Nat) → Bytes → Value → Prop
  | null {depth : Nat} : ValueText depth (110 :: nullLetters) .null
  | true {depth : Nat} : ValueText depth (116 :: trueLetters) (.boolean true)
  | false {depth : Nat} : ValueText depth (102 :: falseLetters) (.boolean false)
  | number {depth : Nat} {s : Bytes} {l : Literal} {n : Number} :
      LiteralText s l → l.number [] = .ok n → ValueText depth s (.number n)
  | string {depth : Nat} {s : Bytes} {text : String} :
      StringText s text → ValueText depth s (.string text)
  | emptyList {depth : Nat} {s : Bytes} :
      Blanks s → ValueText (depth + 1) (openBracket :: s ++ [closeBracket]) (.list [])
  | list {depth : Nat} {s : Bytes} {items : List Value} :
      ItemsText depth s items →
      ValueText (depth + 1) (openBracket :: s ++ [closeBracket]) (.list items)
  | emptyObject {depth : Nat} {s : Bytes} :
      Blanks s → ValueText (depth + 1) (openBrace :: s ++ [closeBrace]) (.object [])
  | object {depth : Nat} {s : Bytes} {members : List (String × Value)} :
      MembersText depth s members →
      ValueText (depth + 1) (openBrace :: s ++ [closeBrace]) (.object members)

/-- One or more values between commas, with blanks around each. -/
inductive ItemsText : (depth : Nat) → Bytes → List Value → Prop
  | last {depth : Nat} {front s back : Bytes} {v : Value} :
      Blanks front → ValueText depth s v → Blanks back →
      ItemsText depth (front ++ s ++ back) [v]
  | cons {depth : Nat} {front s back rest : Bytes} {v : Value} {vs : List Value} :
      Blanks front → ValueText depth s v → Blanks back → ItemsText depth rest vs →
      ItemsText depth (front ++ s ++ back ++ comma :: rest) (v :: vs)

/-- One or more members between commas, with blanks around each name and each value. -/
inductive MembersText : (depth : Nat) → Bytes → List (String × Value) → Prop
  | last {depth : Nat} {front name middle after s back : Bytes} {key : String} {v : Value} :
      Blanks front → StringText name key → Blanks middle → Blanks after → ValueText depth s v →
      Blanks back →
      MembersText depth (front ++ name ++ middle ++ colonSign :: after ++ s ++ back) [(key, v)]
  | cons {depth : Nat} {front name middle after s back rest : Bytes} {key : String} {v : Value}
      {members : List (String × Value)} :
      Blanks front → StringText name key → Blanks middle → Blanks after → ValueText depth s v →
      Blanks back → MembersText depth rest members →
      MembersText depth
        (front ++ name ++ middle ++ colonSign :: after ++ s ++ back ++ comma :: rest)
        ((key, v) :: members)

end

/-- A whole text: one value with blanks around it. -/
inductive Document : (depth : Nat) → Bytes → Value → Prop
  | mk {depth : Nat} {front s back : Bytes} {v : Value} :
      Blanks front → ValueText depth s v → Blanks back → Document depth (front ++ s ++ back) v

/-! ## Values of any size -/

/-- What may stand between the quotes of a string, whatever its codes stand for. -/
inductive AnyChars : Bytes → Prop
  | nil : AnyChars []
  | plain {c : Char} {s : Bytes} :
      IsPlainChar c → AnyChars s → AnyChars (String.utf8EncodeChar c ++ s)
  | short {b : UInt8} {c : Char} {s : Bytes} :
      shortEscape? b = some c → AnyChars s → AnyChars (backslash :: b :: s)
  | code {a b c d : UInt8} {n : Nat} {s : Bytes} :
      hexQuad? a b c d = some n → AnyChars s →
      AnyChars (backslash :: 117 :: a :: b :: c :: d :: s)

mutual

/-- A value without blanks around it, nested to any depth and with numbers of any magnitude. -/
inductive AnyText : Bytes → Prop
  | null : AnyText (110 :: nullLetters)
  | true : AnyText (116 :: trueLetters)
  | false : AnyText (102 :: falseLetters)
  | number {s : Bytes} {l : Literal} : LiteralText s l → AnyText s
  | string {s : Bytes} : AnyChars s → AnyText (quote :: s ++ [quote])
  | emptyList {s : Bytes} : Blanks s → AnyText (openBracket :: s ++ [closeBracket])
  | list {s : Bytes} : AnyItems s → AnyText (openBracket :: s ++ [closeBracket])
  | emptyObject {s : Bytes} : Blanks s → AnyText (openBrace :: s ++ [closeBrace])
  | object {s : Bytes} : AnyMembers s → AnyText (openBrace :: s ++ [closeBrace])

/-- One or more values between commas, with blanks around each. -/
inductive AnyItems : Bytes → Prop
  | last {front s back : Bytes} :
      Blanks front → AnyText s → Blanks back → AnyItems (front ++ s ++ back)
  | cons {front s back rest : Bytes} :
      Blanks front → AnyText s → Blanks back → AnyItems rest →
      AnyItems (front ++ s ++ back ++ comma :: rest)

/-- One or more members between commas, with blanks around each name and each value. -/
inductive AnyMembers : Bytes → Prop
  | last {front name middle after s back : Bytes} :
      Blanks front → AnyChars name → Blanks middle → Blanks after → AnyText s → Blanks back →
      AnyMembers
        (front ++ quote :: name ++ [quote] ++ middle ++ colonSign :: after ++ s ++ back)
  | cons {front name middle after s back rest : Bytes} :
      Blanks front → AnyChars name → Blanks middle → Blanks after → AnyText s → Blanks back →
      AnyMembers rest →
      AnyMembers
        (front ++ quote :: name ++ [quote] ++ middle ++ colonSign :: after ++ s ++ back ++
          comma :: rest)

end

end InvoiceGateway.Json
