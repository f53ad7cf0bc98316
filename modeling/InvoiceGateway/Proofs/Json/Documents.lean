import InvoiceGateway.Proofs.Json.Numbers
import InvoiceGateway.Proofs.Json.Strings

/-! # Texts are read by their grammar -/

namespace InvoiceGateway.Json

/-! ## First bytes -/

/-- Which bytes announce a kind of value. -/
def IsStart (b : UInt8) : Start → Prop
  | .null => b = 110
  | .true => b = 116
  | .false => b = 102
  | .minus => b = 45
  | .digit => Ascii.isDigit b = true
  | .string => b = quote
  | .list => b = openBracket
  | .object => b = openBrace
  | .other => True

theorem isStart_of (b : UInt8) : IsStart b (Start.of b) := by
  unfold Start.of
  repeat' split
  all_goals first
    | assumption
    | trivial

theorem start_of_digit {b : UInt8} (h : Ascii.isDigit b = true) : Start.of b = .digit := by
  have hne : b ≠ 110 ∧ b ≠ 116 ∧ b ≠ 102 ∧ b ≠ 45 := by
    refine ⟨?_, ?_, ?_, ?_⟩ <;> rintro rfl <;> contradiction
  simp [Start.of, hne, h]

theorem not_blank_of_isDigit {b : UInt8} (h : Ascii.isDigit b = true) :
    isBlank b = false ∧ b ≠ closeBracket := by
  have hne : b ≠ 32 ∧ b ≠ 9 ∧ b ≠ 10 ∧ b ≠ 13 ∧ b ≠ closeBracket := by
    refine ⟨?_, ?_, ?_, ?_, ?_⟩ <;> rintro rfl <;> contradiction
  simp [isBlank, hne]

theorem wholeText_begins {s : Bytes} (h : WholeText s) :
    ∃ d ds, s = d :: ds ∧ Ascii.isDigit d = true := by
  cases h with
  | zero => exact ⟨48, [], rfl, rfl⟩
  | @digits d ds hd _ _ => exact ⟨d, ds, rfl, hd⟩

/-- Behind its minus sign, a literal begins with a digit. -/
theorem literalText_begins {s t : Bytes} {l : Literal} (h : LiteralText s l)
    (hs : s = minusSign l.negative ++ t) : ∃ d ds, t = d :: ds ∧ Ascii.isDigit d = true := by
  cases h with
  | @mk negative whole fraction digits exponent _ hwhole _ _ =>
      obtain ⟨d, ds, rfl, hd⟩ := wholeText_begins hwhole
      refine ⟨d, ds ++ fraction ++ exponent, ?_, hd⟩
      have happ : minusSign negative ++ (d :: ds ++ fraction ++ exponent) =
          minusSign negative ++ t := by
        rw [← hs]
        simp [minusSign]
      exact (List.append_cancel_left happ).symm

/-- A literal begins with a minus sign or a digit. -/
theorem LiteralText.exists_first {s : Bytes} {l : Literal} (h : LiteralText s l) :
    ∃ b u, s = b :: u ∧ (b = 45 ∨ Ascii.isDigit b = true) := by
  cases h with
  | @mk negative _ _ _ _ _ hwhole _ _ =>
      cases negative with
      | true => exact ⟨45, _, rfl, .inl rfl⟩
      | false =>
          obtain ⟨d, ds, rfl, hd⟩ := wholeText_begins hwhole
          exact ⟨d, _, rfl, .inr hd⟩

theorem LiteralText.beginsItem {s : Bytes} {l : Literal} (h : LiteralText s l) :
    BeginsItem s := by
  obtain ⟨b, u, rfl, rfl | hb⟩ := h.exists_first
  · exact ⟨45, u, rfl, rfl, by decide⟩
  · obtain ⟨hblank, hclose⟩ := not_blank_of_isDigit hb
    exact ⟨b, u, rfl, hblank, hclose⟩

theorem valueText_begins {depth : Nat} {s : Bytes} {v : Value} (h : ValueText depth s v) :
    BeginsItem s := by
  cases h with
  | null => exact ⟨_, _, rfl, rfl, by decide⟩
  | true => exact ⟨_, _, rfl, rfl, by decide⟩
  | false => exact ⟨_, _, rfl, rfl, by decide⟩
  | number hliteral _ => exact hliteral.beginsItem
  | string hstring =>
      cases hstring with
      | mk _ => exact ⟨_, _, rfl, rfl, by decide⟩
  | emptyList _ => exact ⟨_, _, rfl, rfl, by decide⟩
  | list _ => exact ⟨_, _, rfl, rfl, by decide⟩
  | emptyObject _ => exact ⟨_, _, rfl, rfl, by decide⟩
  | object _ => exact ⟨_, _, rfl, rfl, by decide⟩

/-! ## What follows a value -/

theorem endsLiteral_nil : EndsLiteral [] := by
  intro b t h
  contradiction

/-- A blank, a comma or a closing bracket ends a literal. -/
theorem endsLiteral_cons {b : UInt8} {s : Bytes}
    (hb : isBlank b = true ∨ b = comma ∨ b = closeBracket ∨ b = closeBrace) :
    EndsLiteral (b :: s) := by
  intro c t h
  injection h with h _
  subst h
  rcases hb with hb | rfl | rfl | rfl
  · simp only [isBlank, Bool.or_eq_true, decide_eq_true_eq] at hb
    rcases hb with ((rfl | rfl) | rfl) | rfl <;> decide
  · decide
  · decide
  · decide

theorem endsLiteral_blanks_append {back s : Bytes} (hback : Blanks back) (hs : EndsLiteral s) :
    EndsLiteral (back ++ s) := by
  cases back with
  | nil => exact hs
  | cons b back => exact endsLiteral_cons (.inl (hback b (by simp)))

/-- A text that does not extend a value that it follows: only a number could go on. -/
def EndsValue (v : Value) (s : Bytes) : Prop :=
  ∀ n, v = .number n → EndsLiteral s

theorem EndsLiteral.endsValue {s : Bytes} (h : EndsLiteral s) (v : Value) : EndsValue v s :=
  fun _ _ => h

/-! ## Items of a list -/

/-- What may follow an item of a list, up to the closing bracket, and the items in it. -/
inductive ItemsTail (depth : Nat) : Bytes → List Value → Prop
  | nil {back : Bytes} : Blanks back → ItemsTail depth back []
  | cons {back s : Bytes} {vs : List Value} :
      Blanks back → ItemsText depth s vs → ItemsTail depth (back ++ comma :: s) vs

theorem itemsText_cons_iff {depth : Nat} {t : Bytes} {v : Value} {vs : List Value} :
    ItemsText depth t (v :: vs) ↔
      ∃ front s tail, Blanks front ∧ ValueText depth s v ∧ ItemsTail depth tail vs ∧
        t = front ++ s ++ tail := by
  constructor
  · intro h
    cases h with
    | @last _ front s back _ hfront hs hback => exact ⟨front, s, back, hfront, hs, .nil hback, rfl⟩
    | @cons _ front s back rest _ _ hfront hs hback hrest =>
        exact ⟨front, s, back ++ comma :: rest, hfront, hs, .cons hback hrest, by simp⟩
  · rintro ⟨front, s, tail, hfront, hs, htail, rfl⟩
    cases htail with
    | nil hback => exact .last hfront hs hback
    | @cons back rest _ hback hrest =>
        have h := ItemsText.cons hfront hs hback hrest
        simpa using h

theorem itemsText_ne_nil {depth : Nat} {t : Bytes} : ¬ItemsText depth t [] := by
  intro h
  cases h

theorem endsLiteral_itemsTail {depth : Nat} {tail : Bytes} {vs : List Value}
    (h : ItemsTail depth tail vs) (rest : Bytes) : EndsLiteral (tail ++ closeBracket :: rest) := by
  cases h with
  | nil hback => exact endsLiteral_blanks_append hback (endsLiteral_cons (by simp))
  | cons hback _ =>
      rw [List.append_assoc]
      exact endsLiteral_blanks_append hback (endsLiteral_cons (by simp))

/-- A reader that takes only texts of values, with blanks before them. -/
def IsSound (depth : Nat) (read : Bytes → Reading Value) : Prop :=
  ∀ s v rest, read s = .ok (v, rest) →
    ∃ front t, Blanks front ∧ ValueText depth t v ∧ s = front ++ t ++ rest

/-- A reader that takes all texts of values of at most `size` bytes, with blanks before them. -/
def IsComplete (depth size : Nat) (read : Bytes → Reading Value) : Prop :=
  ∀ front t v rest, Blanks front → ValueText depth t v → t.length ≤ size → EndsValue v rest →
    read (front ++ t ++ rest) = .ok (v, rest)

/-- Reads an item in front of those already read. -/
def itemOnto (read : Bytes → Reading Value) (done : List Value) (s : Bytes) :
    Reading (List Value) :=
  (read s).map fun (v, s) => (v :: done, s)

theorem itemsTail_of_foldItems {depth fuel : Nat} {read : Bytes → Reading Value}
    (hread : IsSound depth read) {done items : List Value} {s rest : Bytes}
    (h : foldItems (itemOnto read) fuel false done s = .ok (items, rest)) :
    ∃ tail vs, ItemsTail depth tail vs ∧ items = vs.reverse ++ done ∧
      s = tail ++ closeBracket :: rest := by
  induction fuel generalizing done s with
  | zero => contradiction
  | succ fuel ih =>
      rw [foldItems] at h
      split at h
      · contradiction
      · next s₁ hnext =>
          injection h with h
          injection h with hitems hrest
          subst hitems hrest
          obtain ⟨back, hback, rfl⟩ := nextItem_eq_closed_iff.mp hnext
          exact ⟨back, [], .nil hback, rfl, rfl⟩
      · next s₁ hnext =>
          obtain ⟨-, back, front, hback, hfront, rfl⟩ := nextItem_later_iff.mp hnext
          split at h
          · contradiction
          · next done' s₂ hitem =>
              obtain ⟨⟨v, s₃⟩, hv, hpair⟩ := map_eq_ok_iff.mp hitem
              injection hpair with hdone hs
              subst hdone hs
              obtain ⟨front', t, hfront', ht, rfl⟩ := hread _ _ _ hv
              obtain ⟨tail, vs, htail, rfl, rfl⟩ := ih h
              have hitems : ItemsText depth (front ++ front' ++ t ++ tail) (v :: vs) :=
                itemsText_cons_iff.mpr
                  ⟨front ++ front', t, tail, blanks_append hfront hfront', ht, htail, rfl⟩
              exact ⟨_, v :: vs, .cons hback hitems, by simp, by simp⟩

/-- What stands between the brackets of a list is blank or the text of its items. -/
theorem itemsText_of_foldItems {depth fuel : Nat} {read : Bytes → Reading Value}
    (hread : IsSound depth read) {items : List Value} {s rest : Bytes}
    (h : foldItems (itemOnto read) fuel true [] s = .ok (items, rest)) :
    (∃ front, Blanks front ∧ items = [] ∧ s = front ++ closeBracket :: rest) ∨
      ∃ t, ItemsText depth t items.reverse ∧ s = t ++ closeBracket :: rest := by
  cases fuel with
  | zero => contradiction
  | succ fuel =>
      rw [foldItems] at h
      split at h
      · contradiction
      · next s₁ hnext =>
          injection h with h
          injection h with hitems hrest
          subst hitems hrest
          obtain ⟨front, hfront, rfl⟩ := nextItem_eq_closed_iff.mp hnext
          exact .inl ⟨front, hfront, rfl, rfl⟩
      · next s₁ hnext =>
          obtain ⟨-, front, hfront, rfl⟩ := nextItem_first_iff.mp hnext
          split at h
          · contradiction
          · next done' s₂ hitem =>
              obtain ⟨⟨v, s₃⟩, hv, hpair⟩ := map_eq_ok_iff.mp hitem
              injection hpair with hdone hs
              subst hdone hs
              obtain ⟨front', t, hfront', ht, rfl⟩ := hread _ _ _ hv
              obtain ⟨tail, vs, htail, rfl, rfl⟩ := itemsTail_of_foldItems hread h
              refine .inr ⟨front ++ front' ++ t ++ tail, ?_, by simp⟩
              rw [List.reverse_append, List.reverse_reverse]
              exact itemsText_cons_iff.mpr
                ⟨front ++ front', t, tail, blanks_append hfront hfront', ht, htail, rfl⟩

theorem foldItems_closed {σ : Type} (item : σ → Bytes → Reading σ) (fuel : Nat) (first : Bool)
    (state : σ) {blank : Bytes} (hblank : Blanks blank) (rest : Bytes) :
    foldItems item (fuel + 1) first state (blank ++ closeBracket :: rest) = .ok (state, rest) := by
  have hnext : nextItem first (blank ++ closeBracket :: rest) = .ok (false, rest) :=
    nextItem_eq_closed_iff.mpr ⟨blank, hblank, rfl⟩
  rw [foldItems, hnext]

theorem foldItems_tail_append {depth size fuel : Nat} {read : Bytes → Reading Value}
    (hread : IsComplete depth size read) {tail : Bytes} {vs : List Value}
    (h : ItemsTail depth tail vs) (hsize : tail.length ≤ size) (hfuel : vs.length < fuel)
    (done : List Value) (rest : Bytes) :
    foldItems (itemOnto read) fuel false done (tail ++ closeBracket :: rest) =
      .ok (vs.reverse ++ done, rest) := by
  induction vs generalizing tail fuel done with
  | nil =>
      cases h with
      | nil hback =>
          cases fuel with
          | zero => contradiction
          | succ fuel => exact foldItems_closed _ fuel false done hback rest
      | cons _ hitems => exact absurd hitems itemsText_ne_nil
  | cons v vs ih =>
      cases h with
      | @cons back s _ hback hitems =>
          obtain ⟨front, t, tail, hfront, ht, htail, rfl⟩ := itemsText_cons_iff.mp hitems
          cases fuel with
          | zero => contradiction
          | succ fuel =>
              simp only [List.length_append, List.length_cons] at hsize hfuel
              obtain ⟨b, u, rfl, hbegins⟩ := valueText_begins ht
              have hnext : nextItem false
                  (back ++ comma :: (front ++ (b :: u) ++ tail) ++ closeBracket :: rest) =
                    .ok (true, b :: u ++ (tail ++ closeBracket :: rest)) :=
                nextItem_later_iff.mpr
                  ⟨⟨b, _, rfl, hbegins⟩, back, front, hback, hfront, by simp⟩
              have hv := hread [] (b :: u) v (tail ++ closeBracket :: rest) blanks_nil ht
                (by omega) ((endsLiteral_itemsTail htail rest).endsValue v)
              rw [List.nil_append] at hv
              have hitem : itemOnto read done (b :: u ++ (tail ++ closeBracket :: rest)) =
                  .ok (v :: done, tail ++ closeBracket :: rest) := by
                rw [itemOnto, hv]
                rfl
              rw [foldItems, hnext]
              simp only [hitem]
              rw [ih htail (by omega) (by omega)]
              simp

theorem foldItems_append {depth size fuel : Nat} {read : Bytes → Reading Value}
    (hread : IsComplete depth size read) {t : Bytes} {vs : List Value}
    (h : ItemsText depth t vs) (hsize : t.length ≤ size) (hfuel : vs.length < fuel)
    (rest : Bytes) :
    foldItems (itemOnto read) fuel true [] (t ++ closeBracket :: rest) =
      .ok (vs.reverse, rest) := by
  cases vs with
  | nil => exact absurd h itemsText_ne_nil
  | cons v vs =>
      obtain ⟨front, s, tail, hfront, hs, htail, rfl⟩ := itemsText_cons_iff.mp h
      cases fuel with
      | zero => contradiction
      | succ fuel =>
          simp only [List.length_append, List.length_cons] at hsize hfuel
          obtain ⟨b, u, rfl, hbegins⟩ := valueText_begins hs
          have hnext : nextItem true (front ++ (b :: u) ++ tail ++ closeBracket :: rest) =
              .ok (true, b :: u ++ (tail ++ closeBracket :: rest)) :=
            nextItem_first_iff.mpr ⟨⟨b, _, rfl, hbegins⟩, front, hfront, by simp⟩
          have hv := hread [] (b :: u) v (tail ++ closeBracket :: rest) blanks_nil hs
            (by omega) ((endsLiteral_itemsTail htail rest).endsValue v)
          rw [List.nil_append] at hv
          have hitem : itemOnto read [] (b :: u ++ (tail ++ closeBracket :: rest)) =
              .ok ([v], tail ++ closeBracket :: rest) := by
            rw [itemOnto, hv]
            rfl
          rw [foldItems, hnext]
          simp only [hitem]
          rw [foldItems_tail_append hread htail (by omega) (by omega)]
          simp

/-! ## Members of an object -/

/-- What may follow a member of an object, up to the closing brace, and the members in it. -/
inductive MembersTail (depth : Nat) : Bytes → List (String × Value) → Prop
  | nil {back : Bytes} : Blanks back → MembersTail depth back []
  | cons {back s : Bytes} {members : List (String × Value)} :
      Blanks back → MembersText depth s members → MembersTail depth (back ++ comma :: s) members

theorem membersText_cons_iff {depth : Nat} {t : Bytes} {key : String} {v : Value}
    {members : List (String × Value)} :
    MembersText depth t ((key, v) :: members) ↔
      ∃ front name middle after s tail, Blanks front ∧ CharsText name key.toList ∧
        Blanks middle ∧ Blanks after ∧ ValueText depth s v ∧ MembersTail depth tail members ∧
        t = front ++ quote :: name ++ quote :: middle ++ colonSign :: after ++ s ++ tail := by
  constructor
  · intro h
    cases h with
    | @last _ front name middle after s back _ _ hfront hname hmiddle hafter hs hback =>
        cases hname with
        | @mk chars _ hchars =>
            exact ⟨front, chars, middle, after, s, back, hfront, hchars, hmiddle, hafter, hs,
              .nil hback, by simp⟩
    | @cons _ front name middle after s back rest _ _ _ hfront hname hmiddle hafter hs hback
        hrest =>
        cases hname with
        | @mk chars _ hchars =>
            exact ⟨front, chars, middle, after, s, back ++ comma :: rest, hfront, hchars, hmiddle,
              hafter, hs, .cons hback hrest, by simp⟩
  · rintro ⟨front, name, middle, after, s, tail, hfront, hname, hmiddle, hafter, hs, htail, rfl⟩
    cases htail with
    | nil hback =>
        have h := MembersText.last hfront (.mk hname) hmiddle hafter hs hback
        simpa using h
    | @cons back rest _ hback hrest =>
        have h := MembersText.cons hfront (.mk hname) hmiddle hafter hs hback hrest
        simpa using h

theorem membersText_ne_nil {depth : Nat} {t : Bytes} : ¬MembersText depth t [] := by
  intro h
  cases h

theorem endsLiteral_membersTail {depth : Nat} {tail : Bytes} {members : List (String × Value)}
    (h : MembersTail depth tail members) (rest : Bytes) :
    EndsLiteral (tail ++ closeBrace :: rest) := by
  cases h with
  | nil hback => exact endsLiteral_blanks_append hback (endsLiteral_cons (by simp))
  | cons hback _ =>
      rw [List.append_assoc]
      exact endsLiteral_blanks_append hback (endsLiteral_cons (by simp))

/-- Reads a member after its name, in front of those already read. -/
def memberOnto (read : Bytes → Reading Value) (done : List (String × Value)) (name : String)
    (s : Bytes) : Except Fault (List (String × Value) × Bytes) := do
  let s ← colon s
  let (v, s) ← read s
  return ((name, v) :: done, s)

theorem memberOnto_eq_ok {depth : Nat} {read : Bytes → Reading Value} (hread : IsSound depth read)
    {done done' : List (String × Value)} {name : String} {s rest : Bytes}
    (h : memberOnto read done name s = .ok (done', rest)) :
    ∃ middle after t v, Blanks middle ∧ Blanks after ∧ ValueText depth t v ∧
      done' = (name, v) :: done ∧ s = middle ++ colonSign :: after ++ t ++ rest := by
  obtain ⟨s₁, hcolon, h₁⟩ := bind_eq_ok_iff.mp h
  obtain ⟨⟨v, s₂⟩, hv, h₂⟩ := bind_eq_ok_iff.mp h₁
  clear h h₁
  injection h₂ with h₂
  injection h₂ with hdone hrest
  subst hdone hrest
  obtain ⟨middle, hmiddle, rfl⟩ := colon_eq_ok_iff.mp hcolon
  obtain ⟨after, t, hafter, ht, rfl⟩ := hread _ _ _ hv
  exact ⟨middle, after, t, v, hmiddle, hafter, ht, rfl, by simp⟩

theorem memberOnto_append {depth size : Nat} {read : Bytes → Reading Value}
    (hread : IsComplete depth size read) {middle after t rest : Bytes} {v : Value}
    (hmiddle : Blanks middle) (hafter : Blanks after) (ht : ValueText depth t v)
    (hsize : t.length ≤ size) (hrest : EndsLiteral rest) (done : List (String × Value))
    (name : String) :
    memberOnto read done name (middle ++ colonSign :: (after ++ t ++ rest)) =
      .ok ((name, v) :: done, rest) := by
  have hcolon : colon (middle ++ colonSign :: (after ++ t ++ rest)) = .ok (after ++ t ++ rest) :=
    colon_eq_ok_iff.mpr ⟨middle, hmiddle, rfl⟩
  have hv := hread after t v rest hafter ht hsize (hrest.endsValue v)
  simp only [memberOnto, bind, Except.bind, hcolon, hv]
  rfl

theorem membersTail_of_foldMembers {depth fuel : Nat} {read : Bytes → Reading Value}
    (hread : IsSound depth read) {done members : List (String × Value)} {s rest : Bytes}
    (h : foldMembers (memberOnto read) fuel false done s = .ok (members, rest)) :
    ∃ tail ms, MembersTail depth tail ms ∧ members = ms.reverse ++ done ∧
      s = tail ++ closeBrace :: rest := by
  induction fuel generalizing done s with
  | zero => contradiction
  | succ fuel ih =>
      rw [foldMembers] at h
      split at h
      · contradiction
      · next s₁ hnext =>
          injection h with h
          injection h with hmembers hrest
          subst hmembers hrest
          obtain ⟨back, hback, rfl⟩ := nextKey_eq_closed_iff.mp hnext
          exact ⟨back, [], .nil hback, rfl, rfl⟩
      · next name s₁ hnext =>
          obtain ⟨back, front, t, hback, hfront, hname, rfl⟩ := nextKey_later_iff.mp hnext
          obtain ⟨chars, hchars, rfl⟩ := string_eq_ok_iff.mp hname
          split at h
          · contradiction
          · next done' s₂ hmember =>
              obtain ⟨middle, after, t, v, hmiddle, hafter, ht, rfl, rfl⟩ :=
                memberOnto_eq_ok hread hmember
              obtain ⟨tail, ms, htail, rfl, rfl⟩ := ih h
              have hmembers := membersText_cons_iff.mpr
                ⟨front, chars, middle, after, t, tail, hfront, hchars, hmiddle, hafter, ht, htail,
                  rfl⟩
              exact ⟨_, (name, v) :: ms, .cons hback hmembers, by simp, by simp⟩

/-- What stands between the braces of an object is blank or the text of its members. -/
theorem membersText_of_foldMembers {depth fuel : Nat} {read : Bytes → Reading Value}
    (hread : IsSound depth read) {members : List (String × Value)} {s rest : Bytes}
    (h : foldMembers (memberOnto read) fuel true [] s = .ok (members, rest)) :
    (∃ front, Blanks front ∧ members = [] ∧ s = front ++ closeBrace :: rest) ∨
      ∃ t, MembersText depth t members.reverse ∧ s = t ++ closeBrace :: rest := by
  cases fuel with
  | zero => contradiction
  | succ fuel =>
      rw [foldMembers] at h
      split at h
      · contradiction
      · next s₁ hnext =>
          injection h with h
          injection h with hmembers hrest
          subst hmembers hrest
          obtain ⟨front, hfront, rfl⟩ := nextKey_eq_closed_iff.mp hnext
          exact .inl ⟨front, hfront, rfl, rfl⟩
      · next name s₁ hnext =>
          obtain ⟨front, t, hfront, hname, rfl⟩ := nextKey_first_iff.mp hnext
          obtain ⟨chars, hchars, rfl⟩ := string_eq_ok_iff.mp hname
          split at h
          · contradiction
          · next done' s₂ hmember =>
              obtain ⟨middle, after, t, v, hmiddle, hafter, ht, rfl, rfl⟩ :=
                memberOnto_eq_ok hread hmember
              obtain ⟨tail, ms, htail, rfl, rfl⟩ := membersTail_of_foldMembers hread h
              have hmembers := membersText_cons_iff.mpr
                ⟨front, chars, middle, after, t, tail, hfront, hchars, hmiddle, hafter, ht, htail,
                  rfl⟩
              exact .inr ⟨_, by simpa using hmembers, by simp⟩

theorem foldMembers_closed {σ : Type} (member : σ → String → Bytes → Reading σ) (fuel : Nat)
    (first : Bool) (state : σ) {blank : Bytes} (hblank : Blanks blank) (rest : Bytes) :
    foldMembers member (fuel + 1) first state (blank ++ closeBrace :: rest) =
      .ok (state, rest) := by
  have hnext : nextKey first (blank ++ closeBrace :: rest) = .ok (none, rest) :=
    nextKey_eq_closed_iff.mpr ⟨blank, hblank, rfl⟩
  rw [foldMembers, hnext]

theorem foldMembers_tail_append {depth size fuel : Nat} {read : Bytes → Reading Value}
    (hread : IsComplete depth size read) {tail : Bytes} {ms : List (String × Value)}
    (h : MembersTail depth tail ms) (hsize : tail.length ≤ size) (hfuel : ms.length < fuel)
    (done : List (String × Value)) (rest : Bytes) :
    foldMembers (memberOnto read) fuel false done (tail ++ closeBrace :: rest) =
      .ok (ms.reverse ++ done, rest) := by
  induction ms generalizing tail fuel done with
  | nil =>
      cases h with
      | nil hback =>
          cases fuel with
          | zero => contradiction
          | succ fuel => exact foldMembers_closed _ fuel false done hback rest
      | cons _ hmembers => exact absurd hmembers membersText_ne_nil
  | cons m ms ih =>
      obtain ⟨key, v⟩ := m
      cases h with
      | @cons back s _ hback hmembers =>
          obtain ⟨front, name, middle, after, t, tail, hfront, hname, hmiddle, hafter, ht, htail,
            rfl⟩ := membersText_cons_iff.mp hmembers
          cases fuel with
          | zero => contradiction
          | succ fuel =>
              simp only [List.length_append, List.length_cons] at hsize hfuel
              have hnext : nextKey false (back ++ comma :: (front ++ quote :: name ++
                  quote :: middle ++ colonSign :: after ++ t ++ tail) ++ closeBrace :: rest) =
                    .ok (some key,
                      middle ++ colonSign :: (after ++ t ++ (tail ++ closeBrace :: rest))) :=
                nextKey_later_iff.mpr ⟨back, front, _, hback, hfront,
                  string_eq_ok_iff.mpr ⟨name, hname, rfl⟩, by simp⟩
              have hmember := memberOnto_append hread hmiddle hafter ht (by omega)
                (endsLiteral_membersTail htail rest) done key
              rw [foldMembers, hnext]
              simp only [hmember]
              rw [ih htail (by omega) (by omega)]
              simp

theorem foldMembers_append {depth size fuel : Nat} {read : Bytes → Reading Value}
    (hread : IsComplete depth size read) {t : Bytes} {ms : List (String × Value)}
    (h : MembersText depth t ms) (hsize : t.length ≤ size) (hfuel : ms.length < fuel)
    (rest : Bytes) :
    foldMembers (memberOnto read) fuel true [] (t ++ closeBrace :: rest) =
      .ok (ms.reverse, rest) := by
  cases ms with
  | nil => exact absurd h membersText_ne_nil
  | cons m ms =>
      obtain ⟨key, v⟩ := m
      obtain ⟨front, name, middle, after, s, tail, hfront, hname, hmiddle, hafter, hs, htail,
        rfl⟩ := membersText_cons_iff.mp h
      cases fuel with
      | zero => contradiction
      | succ fuel =>
          simp only [List.length_append, List.length_cons] at hsize hfuel
          have hnext : nextKey true (front ++ quote :: name ++ quote :: middle ++
              colonSign :: after ++ s ++ tail ++ closeBrace :: rest) =
                .ok (some key,
                  middle ++ colonSign :: (after ++ s ++ (tail ++ closeBrace :: rest))) :=
            nextKey_first_iff.mpr ⟨front, _, hfront,
              string_eq_ok_iff.mpr ⟨name, hname, rfl⟩, by simp⟩
          have hmember := memberOnto_append hread hmiddle hafter hs (by omega)
            (endsLiteral_membersTail htail rest) [] key
          rw [foldMembers, hnext]
          simp only [hmember]
          rw [foldMembers_tail_append hread htail (by omega) (by omega)]
          simp

/-! ## Values that were read -/

theorem valueText_of_word {depth : Nat} {b : UInt8} {letters s rest : Bytes} {v w : Value}
    (hv : ValueText depth (b :: letters) v)
    (h : (word letters s).map (fun s => (v, s)) = .ok (w, rest)) :
    ∃ t, ValueText depth t w ∧ b :: s = t ++ rest := by
  obtain ⟨u, hword, hpair⟩ := map_eq_ok_iff.mp h
  injection hpair with hw hrest
  subst hw hrest
  rw [word_eq_ok_iff.mp hword]
  exact ⟨_, hv, rfl⟩

theorem valueText_of_number {depth : Nat} {negative : Bool} {s rest : Bytes} {v : Value}
    (h : (number negative s).map (fun (n, s) => (Value.number n, s)) = .ok (v, rest)) :
    ∃ t, ValueText depth t v ∧ minusSign negative ++ s = t ++ rest := by
  obtain ⟨⟨n, u⟩, hnumber, hpair⟩ := map_eq_ok_iff.mp h
  injection hpair with hv hrest
  subst hv hrest
  obtain ⟨digits, l, hliteral, hn, rfl⟩ := number_eq_ok hnumber
  exact ⟨_, .number hliteral hn, (List.append_assoc _ _ _).symm⟩

theorem valueText_of_string {depth : Nat} {s rest : Bytes} {v : Value}
    (h : (string s).map (fun (text, s) => (Value.string text, s)) = .ok (v, rest)) :
    ∃ t, ValueText depth t v ∧ quote :: s = t ++ rest := by
  obtain ⟨⟨text, u⟩, hstring, hpair⟩ := map_eq_ok_iff.mp h
  injection hpair with hv hrest
  subst hv hrest
  obtain ⟨chars, hchars, rfl⟩ := string_eq_ok_iff.mp hstring
  exact ⟨_, .string (.mk hchars), by simp⟩

theorem valueText_of_foldItems {depth fuel : Nat} {read : Bytes → Reading Value}
    (hread : IsSound depth read) {s rest : Bytes} {v : Value}
    (h : (foldItems (itemOnto read) fuel true [] s).map
      (fun (items, s) => (Value.list items.reverse, s)) = .ok (v, rest)) :
    ∃ t, ValueText (depth + 1) t v ∧ openBracket :: s = t ++ rest := by
  obtain ⟨⟨items, u⟩, hfold, hpair⟩ := map_eq_ok_iff.mp h
  injection hpair with hv hrest
  subst hv hrest
  rcases itemsText_of_foldItems hread hfold with ⟨blank, hblank, rfl, rfl⟩ | ⟨t, hitems, rfl⟩
  · exact ⟨_, .emptyList hblank, by simp⟩
  · exact ⟨_, .list hitems, by simp⟩

theorem valueText_of_foldMembers {depth fuel : Nat} {read : Bytes → Reading Value}
    (hread : IsSound depth read) {s rest : Bytes} {v : Value}
    (h : (foldMembers (memberOnto read) fuel true [] s).map
      (fun (members, s) => (Value.object members.reverse, s)) = .ok (v, rest)) :
    ∃ t, ValueText (depth + 1) t v ∧ openBrace :: s = t ++ rest := by
  obtain ⟨⟨members, u⟩, hfold, hpair⟩ := map_eq_ok_iff.mp h
  injection hpair with hv hrest
  subst hv hrest
  rcases membersText_of_foldMembers hread hfold with ⟨blank, hblank, rfl, rfl⟩ | ⟨t, hmembers, rfl⟩
  · exact ⟨_, .emptyObject hblank, by simp⟩
  · exact ⟨_, .object hmembers, by simp⟩

/-- A value is read from a text of it, with blanks before it. -/
theorem isSound_value (fuel depth : Nat) : IsSound depth (value fuel depth) := by
  induction depth using Nat.strongRecOn with
  | ind depth ih =>
      intro s v rest h
      unfold value at h
      split at h
      · contradiction
      · next b s' hskip =>
          obtain ⟨-, front, hfront, rfl⟩ := skipBlanks_eq_cons_iff.mp hskip
          suffices htext : ∃ t, ValueText depth t v ∧ b :: s' = t ++ rest by
            obtain ⟨t, ht, hs⟩ := htext
            exact ⟨front, t, hfront, ht, by rw [hs, List.append_assoc]⟩
          have hstart := isStart_of b
          clear hskip
          -- The first byte tells what was read.
          generalize Start.of b = start at h hstart
          cases start with
          | null =>
              obtain rfl : b = 110 := hstart
              exact valueText_of_word .null h
          | true =>
              obtain rfl : b = 116 := hstart
              exact valueText_of_word .true h
          | false =>
              obtain rfl : b = 102 := hstart
              exact valueText_of_word .false h
          | minus =>
              obtain rfl : b = 45 := hstart
              exact valueText_of_number h
          | digit => exact valueText_of_number h
          | string =>
              obtain rfl : b = quote := hstart
              exact valueText_of_string h
          | other => contradiction
          | list =>
              obtain rfl : b = openBracket := hstart
              cases depth with
              | zero => contradiction
              | succ depth => exact valueText_of_foldItems (ih depth (Nat.lt_succ_self depth)) h
          | object =>
              obtain rfl : b = openBrace := hstart
              cases depth with
              | zero => contradiction
              | succ depth => exact valueText_of_foldMembers (ih depth (Nat.lt_succ_self depth)) h

/-! ## Texts of values -/

theorem length_items_le {depth : Nat} {t : Bytes} {vs : List Value} (h : ItemsText depth t vs) :
    vs.length ≤ t.length := by
  induction vs generalizing t with
  | nil => exact absurd h itemsText_ne_nil
  | cons v vs ih =>
      obtain ⟨front, s, tail, -, hs, htail, rfl⟩ := itemsText_cons_iff.mp h
      obtain ⟨b, u, rfl, -⟩ := valueText_begins hs
      cases htail with
      | nil _ =>
          simp only [List.length_append, List.length_cons, List.length_nil]
          omega
      | cons _ hitems =>
          have hle := ih hitems
          simp only [List.length_append, List.length_cons]
          omega

theorem length_members_le {depth : Nat} {t : Bytes} {ms : List (String × Value)}
    (h : MembersText depth t ms) : ms.length ≤ t.length := by
  induction ms generalizing t with
  | nil => exact absurd h membersText_ne_nil
  | cons m ms ih =>
      obtain ⟨key, v⟩ := m
      obtain ⟨front, name, middle, after, s, tail, -, -, -, -, -, htail, rfl⟩ :=
        membersText_cons_iff.mp h
      cases htail with
      | nil _ =>
          simp only [List.length_append, List.length_cons, List.length_nil]
          omega
      | cons _ hmembers =>
          have hle := ih hmembers
          simp only [List.length_append, List.length_cons]
          omega

theorem value_null {fuel depth : Nat} {s rest : Bytes}
    (hskip : skipBlanks s = 110 :: nullLetters ++ rest) :
    value (fuel + 1) depth s = .ok (.null, rest) := by
  rw [List.cons_append] at hskip
  simp only [value, hskip, show Start.of 110 = .null from rfl, word_append]
  rfl

theorem value_true {fuel depth : Nat} {s rest : Bytes}
    (hskip : skipBlanks s = 116 :: trueLetters ++ rest) :
    value (fuel + 1) depth s = .ok (.boolean true, rest) := by
  rw [List.cons_append] at hskip
  simp only [value, hskip, show Start.of 116 = .true from rfl, word_append]
  rfl

theorem value_false {fuel depth : Nat} {s rest : Bytes}
    (hskip : skipBlanks s = 102 :: falseLetters ++ rest) :
    value (fuel + 1) depth s = .ok (.boolean false, rest) := by
  rw [List.cons_append] at hskip
  simp only [value, hskip, show Start.of 102 = .false from rfl, word_append]
  rfl

theorem value_number {fuel depth : Nat} {s t rest : Bytes} {l : Literal} {n : Number}
    (hliteral : LiteralText t l) (hn : l.number [] = .ok n) (hrest : EndsLiteral rest)
    (hskip : skipBlanks s = t ++ rest) :
    value (fuel + 1) depth s = .ok (.number n, rest) := by
  obtain ⟨u, rfl, hnumber⟩ := number_append hliteral hn hrest
  cases hnegative : l.negative with
  | true =>
      rw [hnegative] at hnumber hskip
      have hminus : skipBlanks s = 45 :: (u ++ rest) := hskip
      simp only [value, hminus, show Start.of 45 = .minus from rfl, hnumber]
      rfl
  | false =>
      obtain ⟨d, ds, rfl, hd⟩ := literalText_begins hliteral rfl
      rw [hnegative] at hnumber hskip
      have hdigit : skipBlanks s = d :: (ds ++ rest) := hskip
      rw [List.cons_append] at hnumber
      simp only [value, hdigit, start_of_digit hd, hnumber]
      rfl

theorem value_string {fuel depth : Nat} {s t rest : Bytes} {text : String} (ht : StringText t text)
    (hskip : skipBlanks s = t ++ rest) :
    value (fuel + 1) depth s = .ok (.string text, rest) := by
  cases ht with
  | @mk chars _ hchars =>
      have hquote : skipBlanks s = quote :: (chars ++ quote :: rest) := by simpa using hskip
      have hread : string (chars ++ quote :: rest) = .ok (text, rest) :=
        string_eq_ok_iff.mpr ⟨chars, hchars, rfl⟩
      simp only [value, hquote, show Start.of quote = .string from rfl, hread]
      rfl

theorem value_list {fuel depth : Nat} {s body rest : Bytes} {items : List Value}
    (hskip : skipBlanks s = openBracket :: body ++ [closeBracket] ++ rest)
    (hfold : foldItems (itemOnto (value (fuel + 1) depth)) (fuel + 1) true []
      (body ++ closeBracket :: rest) = .ok (items.reverse, rest)) :
    value (fuel + 1) (depth + 1) s = .ok (.list items, rest) := by
  have hopen : skipBlanks s = openBracket :: (body ++ closeBracket :: rest) := by simpa using hskip
  rw [value, hopen]
  simp only [show Start.of openBracket = .list from rfl]
  change (foldItems (itemOnto _) _ true [] _).map _ = _
  rw [hfold]
  simp [Except.map]

theorem value_object {fuel depth : Nat} {s body rest : Bytes} {members : List (String × Value)}
    (hskip : skipBlanks s = openBrace :: body ++ [closeBrace] ++ rest)
    (hfold : foldMembers (memberOnto (value (fuel + 1) depth)) (fuel + 1) true []
      (body ++ closeBrace :: rest) = .ok (members.reverse, rest)) :
    value (fuel + 1) (depth + 1) s = .ok (.object members, rest) := by
  have hopen : skipBlanks s = openBrace :: (body ++ closeBrace :: rest) := by simpa using hskip
  rw [value, hopen]
  simp only [show Start.of openBrace = .object from rfl]
  change (foldMembers (memberOnto _) _ true [] _).map _ = _
  rw [hfold]
  simp [Except.map]

/-- A text of a value is read as that value, whatever blanks are before it. -/
theorem isComplete_value (fuel depth : Nat) : IsComplete depth fuel (value (fuel + 1) depth) := by
  induction depth using Nat.strongRecOn with
  | ind depth ih =>
      intro front t v rest hfront ht hsize hrest
      have hskip : skipBlanks (front ++ t ++ rest) = t ++ rest := by
        obtain ⟨b, u, rfl, hbegins, -⟩ := valueText_begins ht
        exact skipBlanks_eq_cons_iff.mpr ⟨hbegins, front, hfront, by simp⟩
      cases ht with
      | null => exact value_null hskip
      | true => exact value_true hskip
      | false => exact value_false hskip
      | number hliteral hn => exact value_number hliteral hn (hrest _ rfl) hskip
      | string hstring => exact value_string hstring hskip
      | emptyList hblank => exact value_list hskip (foldItems_closed _ fuel true [] hblank rest)
      | @list depth body items hitems =>
          simp only [List.length_cons, List.length_append, List.length_nil] at hsize
          have hlength := length_items_le hitems
          exact value_list hskip (foldItems_append (ih depth (Nat.lt_succ_self depth)) hitems
            (by omega) (by omega) rest)
      | emptyObject hblank =>
          exact value_object hskip (foldMembers_closed _ fuel true [] hblank rest)
      | @object depth body members hmembers =>
          simp only [List.length_cons, List.length_append, List.length_nil] at hsize
          have hlength := length_members_le hmembers
          exact value_object hskip (foldMembers_append (ih depth (Nat.lt_succ_self depth)) hmembers
            (by omega) (by omega) rest)

/-! ## Documents -/

/-- A text is read as a value exactly when it is a text of that value. -/
theorem parse_eq_ok_iff {s : Bytes} {v : Value} :
    Value.parse s = .ok v ↔ Document depthLimit s v := by
  constructor
  · intro h
    obtain ⟨⟨v', rest⟩, hv, hend⟩ := bind_eq_ok_iff.mp (mapError_eq_ok_iff.mp h)
    obtain ⟨_, hblank, hpair⟩ := bind_eq_ok_iff.mp hend
    injection hpair with hpair
    subst hpair
    obtain ⟨front, t, hfront, ht, rfl⟩ := isSound_value _ _ _ _ _ hv
    exact .mk hfront ht (endOfText_eq_ok_iff.mp hblank)
  · intro h
    cases h with
    | @mk front t back _ hfront ht hback =>
        have hrest : EndsLiteral back := by
          have happ := endsLiteral_blanks_append hback endsLiteral_nil
          rwa [List.append_nil] at happ
        have hv := isComplete_value (front ++ t ++ back).length depthLimit front t v back hfront ht
          (by simp only [List.length_append]; omega) (hrest.endsValue v)
        apply mapError_eq_ok_iff.mpr
        simp only [bind, Except.bind, hv, endOfText_eq_ok_iff.mpr hback]
        rfl

end InvoiceGateway.Json
