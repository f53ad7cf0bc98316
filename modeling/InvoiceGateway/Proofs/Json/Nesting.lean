import InvoiceGateway.Proofs.Json.Documents

/-! # Nesting -/

namespace InvoiceGateway.Json

/-- Lists and objects are open at most `depth` times inside one another. -/
inductive NestsWithin : (depth : Nat) → Value → Prop
  | null {depth : Nat} : NestsWithin depth .null
  | boolean {depth : Nat} {b : Bool} : NestsWithin depth (.boolean b)
  | number {depth : Nat} {n : Number} : NestsWithin depth (.number n)
  | string {depth : Nat} {text : String} : NestsWithin depth (.string text)
  | list {depth : Nat} {items : List Value} :
      (∀ v ∈ items, NestsWithin depth v) → NestsWithin (depth + 1) (.list items)
  | object {depth : Nat} {members : List (String × Value)} :
      (∀ m ∈ members, NestsWithin depth m.2) → NestsWithin (depth + 1) (.object members)

theorem ItemsText.congr {depth bound : Nat} {t : Bytes} {vs : List Value}
    (h : ItemsText depth t vs)
    (hvalues : ∀ v ∈ vs, ∀ s, ValueText depth s v → ValueText bound s v) :
    ItemsText bound t vs := by
  induction vs generalizing t with
  | nil => exact absurd h itemsText_ne_nil
  | cons v vs ih =>
      have hv := hvalues v List.mem_cons_self
      cases h with
      | last hfront hs hback => exact .last hfront (hv _ hs) hback
      | cons hfront hs hback hrest =>
          have hlater := ih hrest fun w hw => hvalues w (List.mem_cons_of_mem v hw)
          exact .cons hfront (hv _ hs) hback hlater

theorem MembersText.congr {depth bound : Nat} {t : Bytes} {members : List (String × Value)}
    (h : MembersText depth t members)
    (hvalues : ∀ m ∈ members, ∀ s, ValueText depth s m.2 → ValueText bound s m.2) :
    MembersText bound t members := by
  induction members generalizing t with
  | nil => exact absurd h membersText_ne_nil
  | cons m members ih =>
      obtain ⟨key, v⟩ := m
      have hv := hvalues (key, v) List.mem_cons_self
      cases h with
      | last hfront hname hmiddle hafter hs hback =>
          exact .last hfront hname hmiddle hafter (hv _ hs) hback
      | cons hfront hname hmiddle hafter hs hback hrest =>
          have hlater := ih hrest fun w hw => hvalues w (List.mem_cons_of_mem _ hw)
          exact .cons hfront hname hmiddle hafter (hv _ hs) hback hlater

/-- A text of a value is one within every bound that the value nests within. -/
theorem valueText_of_nestsWithin {depth bound : Nat} {s : Bytes} {v : Value}
    (h : ValueText depth s v) (hv : NestsWithin bound v) : ValueText bound s v := by
  induction depth generalizing bound s v with
  | zero =>
      cases h with
      | null => exact .null
      | true => exact .true
      | false => exact .false
      | number hliteral hn => exact .number hliteral hn
      | string hstring => exact .string hstring
  | succ depth ih =>
      cases h with
      | null => exact .null
      | true => exact .true
      | false => exact .false
      | number hliteral hn => exact .number hliteral hn
      | string hstring => exact .string hstring
      | emptyList hblank =>
          cases hv with
          | list _ => exact .emptyList hblank
      | list hitems =>
          cases hv with
          | list hnests => exact .list (hitems.congr fun v hmem _ hs => ih hs (hnests v hmem))
      | emptyObject hblank =>
          cases hv with
          | object _ => exact .emptyObject hblank
      | object hmembers =>
          cases hv with
          | object hnests =>
              exact .object (hmembers.congr fun m hmem _ hs => ih hs (hnests m hmem))

/-- Where more lists and objects may be open, no text is lost. -/
theorem ValueText.mono {depth bound : Nat} (hle : depth ≤ bound) {s : Bytes} {v : Value}
    (h : ValueText depth s v) : ValueText bound s v := by
  induction depth generalizing bound s v with
  | zero =>
      cases h with
      | null => exact .null
      | true => exact .true
      | false => exact .false
      | number hliteral hn => exact .number hliteral hn
      | string hstring => exact .string hstring
  | succ depth ih =>
      obtain ⟨bound, rfl⟩ := Nat.exists_eq_add_one.mpr (Nat.zero_lt_of_lt hle)
      have hle : depth ≤ bound := Nat.le_of_succ_le_succ hle
      cases h with
      | null => exact .null
      | true => exact .true
      | false => exact .false
      | number hliteral hn => exact .number hliteral hn
      | string hstring => exact .string hstring
      | emptyList hblank => exact .emptyList hblank
      | list hitems => exact .list (hitems.congr fun _ _ _ hs => ih hle hs)
      | emptyObject hblank => exact .emptyObject hblank
      | object hmembers => exact .object (hmembers.congr fun _ _ _ hs => ih hle hs)

theorem document_of_nestsWithin {depth bound : Nat} {s : Bytes} {v : Value}
    (h : Document depth s v) (hv : NestsWithin bound v) : Document bound s v := by
  cases h with
  | mk hfront ht hback => exact .mk hfront (valueText_of_nestsWithin ht hv) hback

end InvoiceGateway.Json
