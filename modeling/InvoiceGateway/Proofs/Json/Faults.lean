import InvoiceGateway.Proofs.Json.Documents

/-! # Why reading a value stops -/

namespace InvoiceGateway.Json

/-! ## Faults of the syntax -/

/-- The causes that have to do with the syntax of a text, and not with what is asked of its value. -/
def Cause.IsSyntax : Cause → Prop
  | .invalidType _ _ | .invalidValue _ _ | .invalidLength _ _ | .missingField _
  | .duplicateField _ => False
  | _ => True

/-- The reasons of a fault of the syntax. -/
def syntaxReasons : List String :=
  ["EOF while parsing a value", "EOF while parsing a string", "EOF while parsing a list",
    "EOF while parsing an object", "expected `:`", "expected `,` or `]`",
    "expected `,` or `\x7d`", "expected ident", "expected value", "invalid escape",
    "invalid number", "number out of range", "invalid unicode code point",
    "control character (\\u0000-\\u001F) found while parsing a string", "key must be a string",
    "lone leading surrogate in hex escape", "unexpected end of hex escape", "trailing comma",
    "trailing characters", "recursion limit exceeded"]

theorem Cause.IsSyntax.reason_mem {c : Cause} (h : c.IsSyntax) : c.reason ∈ syntaxReasons := by
  cases c <;> first | exact absurd h id | decide +kernel

/-- A reading stops for a fault of the syntax, if it stops at all. -/
def StopsForSyntax {α : Type} (r : Except Fault α) : Prop :=
  ∀ fault, r = .error fault → fault.cause.IsSyntax

section

variable {α β : Type}

@[simp]
theorem stopsForSyntax_ok (a : α) : StopsForSyntax (.ok a : Except Fault α) :=
  nofun

@[simp]
theorem stopsForSyntax_error {fault : Fault} :
    StopsForSyntax (.error fault : Except Fault α) ↔ fault.cause.IsSyntax := by
  constructor
  · intro h
    exact h fault rfl
  · intro h _ heq
    injection heq with heq
    exact heq ▸ h

theorem StopsForSyntax.map {r : Except Fault α} (h : StopsForSyntax r) (f : α → β) :
    StopsForSyntax (r.map f) := by
  cases r with
  | ok a => exact stopsForSyntax_ok (f a)
  | error fault => exact stopsForSyntax_error.mpr (stopsForSyntax_error.mp h)

theorem StopsForSyntax.bind {r : Except Fault α} {f : α → Except Fault β} (h : StopsForSyntax r)
    (hf : ∀ a, StopsForSyntax (f a)) : StopsForSyntax (r >>= f) := by
  intro fault hfault
  rcases bind_eq_error_iff.mp hfault with hr | ⟨a, -, ha⟩
  · exact h fault hr
  · exact hf a fault ha

end

/-! ## Words and strings -/

theorem word_stops (letters s : Bytes) : StopsForSyntax (word letters s) := by
  fun_induction word letters s with
  | case1 s => exact stopsForSyntax_ok s
  | case2 => exact stopsForSyntax_error.mpr trivial
  | case3 _ _ _ ih => exact ih
  | case4 => exact stopsForSyntax_error.mpr trivial

theorem hexQuad_stops (s : Bytes) : StopsForSyntax (hexQuad s) := by
  unfold hexQuad
  split
  · split
    · exact stopsForSyntax_ok _
    · exact stopsForSyntax_error.mpr trivial
  · exact stopsForSyntax_error.mpr trivial

theorem escapeByte_stops (b : UInt8) (s : Bytes) : StopsForSyntax (escapeByte b s) := by
  unfold escapeByte
  split
  · exact stopsForSyntax_error.mpr trivial
  · split
    · exact stopsForSyntax_ok _
    · exact stopsForSyntax_error.mpr trivial

theorem unicodeEscape_stops (s : Bytes) : StopsForSyntax (unicodeEscape s) := by
  refine (hexQuad_stops s).bind fun ⟨n, s⟩ => ?_
  dsimp only
  split
  · exact stopsForSyntax_error.mpr trivial
  split
  · refine (escapeByte_stops backslash s).bind fun s => ?_
    refine (escapeByte_stops 117 s).bind fun s => ?_
    refine (hexQuad_stops s).bind fun ⟨m, s⟩ => ?_
    dsimp only
    split
    · exact stopsForSyntax_ok _
    · exact stopsForSyntax_error.mpr trivial
  · exact stopsForSyntax_ok _

theorem escape_stops (s : Bytes) : StopsForSyntax (escape s) := by
  unfold escape
  split
  · exact stopsForSyntax_error.mpr trivial
  · split
    · exact stopsForSyntax_ok _
    · split
      · exact unicodeEscape_stops _
      · exact stopsForSyntax_error.mpr trivial

theorem contentOnto_stops (done s : Bytes) : StopsForSyntax (contentOnto done s) := by
  fun_induction contentOnto done s with
  | case1 => exact stopsForSyntax_error.mpr trivial
  | case2 => exact stopsForSyntax_ok _
  | case3 done rest fault hfault => exact stopsForSyntax_error.mpr (escape_stops rest fault hfault)
  | case4 _ _ _ _ _ _ _ ih => exact ih
  | case5 => exact stopsForSyntax_error.mpr trivial
  | case6 _ _ _ _ _ _ ih => exact ih

theorem string_stops (s : Bytes) : StopsForSyntax (string s) := by
  unfold string
  split
  · next fault hfault => exact stopsForSyntax_error.mpr (contentOnto_stops [] s fault hfault)
  · next content rest _ =>
      refine StopsForSyntax.map ?_ _
      unfold contentText
      split
      · exact stopsForSyntax_ok _
      · exact stopsForSyntax_error.mpr trivial

/-! ## Numbers -/

theorem wholePart_stops {atEnd : Cause} (h : atEnd.IsSyntax) (s : Bytes) :
    StopsForSyntax (wholePart atEnd s) := by
  unfold wholePart
  split
  · exact stopsForSyntax_error.mpr h
  · split
    · split
      · exact stopsForSyntax_error.mpr trivial
      · exact stopsForSyntax_ok _
    · split
      · exact stopsForSyntax_ok _
      · exact stopsForSyntax_error.mpr trivial

theorem fractionPart_stops {atEnd : Cause} (h : atEnd.IsSyntax) (s : Bytes) :
    StopsForSyntax (fractionPart atEnd s) := by
  unfold fractionPart
  split
  · exact stopsForSyntax_ok _
  · split
    · split
      · exact stopsForSyntax_error.mpr h
      · split
        · exact stopsForSyntax_ok _
        · exact stopsForSyntax_error.mpr trivial
    · exact stopsForSyntax_ok _

theorem exponentDigits_stops {atEnd : Cause} (h : atEnd.IsSyntax) (s : Bytes) :
    StopsForSyntax (exponentDigits atEnd s) := by
  unfold exponentDigits
  split
  · exact stopsForSyntax_error.mpr h
  · split
    · exact stopsForSyntax_ok _
    · exact stopsForSyntax_error.mpr trivial

theorem exponentPart_stops {atEnd : Cause} (h : atEnd.IsSyntax) (s : Bytes) :
    StopsForSyntax (exponentPart atEnd s) := by
  unfold exponentPart
  split
  · exact stopsForSyntax_ok _
  · split
    · exact (exponentDigits_stops h _).map _
    · exact stopsForSyntax_ok _

theorem literal_stops {atEnd : Cause} (h : atEnd.IsSyntax) (negative : Bool) (s : Bytes) :
    StopsForSyntax (literal atEnd negative s) := by
  refine (wholePart_stops h s).bind fun ⟨whole, s⟩ => ?_
  refine (fractionPart_stops h s).bind fun ⟨fraction, s⟩ => ?_
  refine (exponentPart_stops h s).bind fun ⟨exponent, s⟩ => ?_
  exact stopsForSyntax_ok _

theorem Literal.number_stops (l : Literal) (rest : Bytes) : StopsForSyntax (l.number rest) := by
  unfold Literal.number
  dsimp only
  split
  · exact stopsForSyntax_ok _
  split
  · split
    · exact stopsForSyntax_ok _
    · exact stopsForSyntax_error.mpr trivial
  · split
    · split
      · exact stopsForSyntax_ok _
      · exact stopsForSyntax_error.mpr trivial
    · split
      · exact stopsForSyntax_ok _
      · exact stopsForSyntax_error.mpr trivial

theorem number_stops (negative : Bool) (s : Bytes) : StopsForSyntax (number negative s) := by
  refine (@literal_stops .eofInValue trivial negative s).bind fun ⟨l, s⟩ => ?_
  exact (l.number_stops s).bind fun n => stopsForSyntax_ok _

/-! ## Lists and objects -/

theorem nextItem_stops (first : Bool) (s : Bytes) : StopsForSyntax (nextItem first s) := by
  unfold nextItem
  split
  · exact stopsForSyntax_error.mpr trivial
  split
  · exact stopsForSyntax_ok _
  split
  · exact stopsForSyntax_ok _
  split
  · split
    · exact stopsForSyntax_error.mpr trivial
    · split
      · exact stopsForSyntax_error.mpr trivial
      · exact stopsForSyntax_ok _
  · exact stopsForSyntax_error.mpr trivial

theorem nextKey_stops (first : Bool) (s : Bytes) : StopsForSyntax (nextKey first s) := by
  unfold nextKey
  split
  · exact stopsForSyntax_error.mpr trivial
  split
  · exact stopsForSyntax_ok _
  split
  · split
    · exact (string_stops _).map _
    · exact stopsForSyntax_error.mpr trivial
  split
  · split
    · exact stopsForSyntax_error.mpr trivial
    · split
      · exact (string_stops _).map _
      · split <;> exact stopsForSyntax_error.mpr trivial
  · exact stopsForSyntax_error.mpr trivial

theorem colon_stops (s : Bytes) : StopsForSyntax (colon s) := by
  unfold colon
  split
  · exact stopsForSyntax_error.mpr trivial
  · split
    · exact stopsForSyntax_ok _
    · exact stopsForSyntax_error.mpr trivial

theorem foldItems_stops {σ : Type} {item : σ → Bytes → Reading σ}
    (hitem : ∀ state s, StopsForSyntax (item state s)) (fuel : Nat) (first : Bool) (state : σ)
    (s : Bytes) : StopsForSyntax (foldItems item fuel first state s) := by
  induction fuel generalizing first state s with
  | zero => exact stopsForSyntax_error.mpr trivial
  | succ fuel ih =>
      unfold foldItems
      split
      · next fault hfault => exact stopsForSyntax_error.mpr (nextItem_stops first s fault hfault)
      · exact stopsForSyntax_ok _
      · next t _ =>
          split
          · next fault hfault => exact stopsForSyntax_error.mpr (hitem state t fault hfault)
          · exact ih _ _ _

theorem foldMembers_stops {σ : Type} {member : σ → String → Bytes → Reading σ}
    (hmember : ∀ state name s, StopsForSyntax (member state name s)) (fuel : Nat) (first : Bool)
    (state : σ) (s : Bytes) : StopsForSyntax (foldMembers member fuel first state s) := by
  induction fuel generalizing first state s with
  | zero => exact stopsForSyntax_error.mpr trivial
  | succ fuel ih =>
      unfold foldMembers
      split
      · next fault hfault => exact stopsForSyntax_error.mpr (nextKey_stops first s fault hfault)
      · exact stopsForSyntax_ok _
      · next name t _ =>
          split
          · next fault hfault => exact stopsForSyntax_error.mpr (hmember state name t fault hfault)
          · exact ih _ _ _

/-! ## Values -/

theorem value_stops (fuel depth : Nat) (s : Bytes) : StopsForSyntax (value fuel depth s) := by
  induction depth using Nat.strongRecOn generalizing s with
  | ind depth ih =>
      unfold value
      split
      · exact stopsForSyntax_error.mpr trivial
      split
      · exact (word_stops _ _).map _
      · exact (word_stops _ _).map _
      · exact (word_stops _ _).map _
      · exact (number_stops _ _).map _
      · exact (number_stops _ _).map _
      · exact (string_stops _).map _
      · exact stopsForSyntax_error.mpr trivial
      · cases depth with
        | zero => exact stopsForSyntax_error.mpr trivial
        | succ depth =>
            refine (foldItems_stops (fun state s => ?_) fuel true [] _).map _
            exact (ih depth (Nat.lt_succ_self depth) s).map _
      · cases depth with
        | zero => exact stopsForSyntax_error.mpr trivial
        | succ depth =>
            refine (foldMembers_stops (fun state name s => ?_) fuel true [] _).map _
            refine (colon_stops s).bind fun s => ?_
            exact (ih depth (Nat.lt_succ_self depth) s).bind fun _ => stopsForSyntax_ok _

theorem endOfText_stops (s : Bytes) : StopsForSyntax (endOfText s) := by
  unfold endOfText
  split
  · exact stopsForSyntax_ok _
  · exact stopsForSyntax_error.mpr trivial

/-- A text is refused for nothing but a fault of its syntax. -/
theorem isSyntax_of_parse {text : Bytes} {e : Error} (h : Value.parse text = .error e) :
    e.cause.IsSyntax := by
  obtain ⟨fault, hfault, rfl⟩ := mapError_eq_error_iff.mp h
  refine (value_stops _ _ text).bind (fun read => ?_) fault hfault
  exact (endOfText_stops read.2).bind fun _ => stopsForSyntax_ok read.1

end InvoiceGateway.Json
