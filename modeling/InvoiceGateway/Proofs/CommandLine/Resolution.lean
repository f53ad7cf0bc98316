import InvoiceGateway.CommandLine.Parser
import InvoiceGateway.Proofs.Decimal.Signed
import InvoiceGateway.Proofs.Settings.Listening
import Mathlib.Logic.Function.Basic

/-! # How settings are resolved -/

namespace InvoiceGateway

namespace CommandLine

open Decimal

/-! ## Ports -/

theorem toNat_ofNat_toNat {i : Int} (hlower : 0 ≤ i) (hupper : i ≤ 65535) :
    ((UInt16.ofNat i.toNat).toNat : Int) = i := by
  have hlt : i.toNat < 65536 := by omega
  rw [UInt16.toNat_ofNat', Nat.mod_eq_of_lt hlt]
  omega

/-- A port is a signed integer that sixteen bits can hold without a sign. -/
theorem readPort_eq_ok_iff {text : String} {port : UInt16} :
    Choices.readPort text = .ok port ↔ SignedText text.toList port.toNat := by
  have hport : (port.toNat : Int) ≤ 65535 := by
    have hlt : port.toNat < 65536 := port.toNat_lt
    omega
  have hgreatest : (greatest : Int) = 9223372036854775807 := rfl
  have hread : SignedText text.toList port.toNat ↔ readSigned text = .ok (port.toNat : Int) := by
    rw [readSigned_eq_ok_iff]
    constructor
    · intro h
      exact ⟨h, by omega, by omega⟩
    · exact And.left
  rw [hread, Choices.readPort]
  cases readSigned text with
  | error e => simp
  | ok i =>
      by_cases hi : 0 ≤ i ∧ i ≤ 65535
      · simp only [hi.1, hi.2, decide_true, Bool.and_self, if_true, Except.ok.injEq]
        constructor
        · rintro rfl
          exact (toNat_ofNat_toNat hi.1 hi.2).symm
        · rintro rfl
          simp
      · have hfalse : (decide (0 ≤ i) && decide (i ≤ 65535)) = false := by simpa using hi
        simp only [hfalse, Bool.false_eq_true, if_false]
        constructor
        · intro h
          contradiction
        · intro h
          injection h with h
          omega

/-- A text that is no port is refused as a value of the port. -/
theorem readPort_eq_error {text : String} {e : Error} (h : Choices.readPort text = .error e) :
    ∃ reason, e = .invalidValue .port text reason := by
  unfold Choices.readPort at h
  split at h
  · injection h with h
    exact ⟨_, h.symm⟩
  · split at h
    · contradiction
    · injection h with h
      exact ⟨_, h.symm⟩

/-! ## Texts that decide -/

/-- The argument that gives a setting. -/
def argument (g : Setting × String) : Bytes :=
  Bytes.ofString ("--" ++ g.1.flag ++ "=" ++ g.2)

/-- The environment in which variables have these texts. -/
def environment (exported : Setting → Option String) : Environment :=
  fun s => (exported s).map Bytes.ofString

/-- The text that decides about a setting. -/
def deciding (given : List (Setting × String)) (exported : Setting → Option String)
    (s : Setting) : String :=
  ((given.lookup s).or (exported s)).getD s.defaultText

/-! ## Choices -/

/-- The port of a text, if there is a text. -/
def portOf : Option String → Except Error (Option UInt16)
  | none => .ok none
  | some text => (Choices.readPort text).map some

/-- The choices by these texts: only the text for the port can be wrong. -/
def chosen (texts : Setting → Option String) (order : List Setting) : Except Error Choices :=
  (portOf (texts .port)).map fun port => ⟨texts .host, port, texts .logLevel, order⟩

theorem has_of_chosen {texts : Setting → Option String} {order : List Setting} {c : Choices}
    (h : chosen texts order = .ok c) (s : Setting) : c.has s = (texts s).isSome := by
  obtain ⟨port, hport, rfl⟩ := map_eq_ok_iff.mp h
  cases s with
  | host => rfl
  | logLevel => rfl
  | port =>
      cases htext : texts .port with
      | none =>
          rw [htext] at hport
          injection hport with hport
          rw [← hport]
          rfl
      | some text =>
          rw [htext] at hport
          obtain ⟨port', -, rfl⟩ := map_eq_ok_iff.mp hport
          rfl

/-- One more text is chosen. -/
theorem chosen_setText {texts : Setting → Option String} (order : List Setting) {s : Setting}
    (hs : texts s = none) (text : String) :
    (chosen texts order >>= fun c => c.setText s text) =
      chosen (Function.update texts s (some text)) (order ++ [s]) := by
  cases s with
  | host =>
      rw [chosen, chosen, Function.update_self, Function.update_of_ne (by decide),
        Function.update_of_ne (by decide)]
      cases portOf (texts .port) <;> rfl
  | logLevel =>
      rw [chosen, chosen, Function.update_self, Function.update_of_ne (by decide),
        Function.update_of_ne (by decide)]
      cases portOf (texts .port) <;> rfl
  | port =>
      rw [chosen, chosen, hs, Function.update_self, Function.update_of_ne (by decide),
        Function.update_of_ne (by decide), portOf, portOf]
      have hset : ∀ c : Choices, c.setText .port text =
          (Choices.readPort text).map fun port =>
            { c with port := some port, order := c.order ++ [.port] } := fun _ => rfl
      cases hport : Choices.readPort text <;> simp [hset, hport, Except.map, bind, Except.bind]

theorem chosen_give {texts : Setting → Option String} (order : List Setting) {s : Setting}
    (hs : texts s = none) (text : String) :
    (chosen texts order >>= fun c => c.give s (Bytes.ofString text)) =
      chosen (Function.update texts s (some text)) (order ++ [s]) := by
  rw [← chosen_setText order hs text]
  refine bind_congr_of_ok fun c hc => ?_
  rw [Choices.give, has_of_chosen hc, hs, Choices.set, Bytes.toString?_ofString]
  rfl

/-! ## Flags -/

theorem argument_of (g : Setting × String) :
    Argument.of (argument g) = .long (Bytes.ofString g.1.flag) (some (Bytes.ofString g.2)) := by
  have hbytes : argument g =
      dash :: dash :: (Bytes.ofString g.1.flag ++ equalsSign :: Bytes.ofString g.2) := by
    have hdashes : Bytes.ofString "--" = [dash, dash] := by decide +kernel
    have hequals : Bytes.ofString "=" = [equalsSign] := by decide +kernel
    simp [argument, Bytes.ofString_append, hdashes, hequals]
  have hflag : ∀ b ∈ Bytes.ofString g.1.flag, (b != equalsSign) = true := by
    cases g.1 <;> decide +kernel
  have hempty :
      (Bytes.ofString g.1.flag ++ equalsSign :: Bytes.ofString g.2).isEmpty = false := by
    simp
  have hdash : (dash != dash) = false := rfl
  have hequals : (equalsSign != equalsSign) = false := rfl
  simp only [hbytes, Argument.of, hempty, hdash, Bool.false_eq_true, if_false,
    List.dropWhile_append_of_pos hflag, List.takeWhile_append_of_pos hflag,
    List.dropWhile_cons, List.takeWhile_cons, hequals, List.append_nil]

theorem scan_given (env : Environment) (c : Choices) (given : List (Setting × String)) :
    scan env c none (given.map argument) =
      (given.foldlM (fun (c : Choices) g => c.give g.1 (Bytes.ofString g.2)) c).mapError .error := by
  induction given generalizing c with
  | nil => rfl
  | cons g rest ih =>
      have hflag : Setting.ofFlag? g.1.flag = some g.1 := by cases g.1 <;> decide +kernel
      have hresolve : (resolve c none).bind (fun c => c.give g.1 (Bytes.ofString g.2)) =
          c.give g.1 (Bytes.ofString g.2) := rfl
      rw [List.map_cons, scan.eq_def]
      simp only [argument_of, Bytes.toString?_ofString, hflag, List.foldlM_cons, hresolve]
      cases c.give g.1 (Bytes.ofString g.2) with
      | error e => rfl
      | ok c => exact ih c

/-- Flags choose their texts, if none of them is repeated. -/
theorem chosen_flags {texts : Setting → Option String} {given : List (Setting × String)}
    (hnodup : (given.map Prod.fst).Nodup) (htexts : ∀ g ∈ given, texts g.1 = none)
    (order : List Setting) :
    (chosen texts order >>= fun c =>
        given.foldlM (fun (c : Choices) g => c.give g.1 (Bytes.ofString g.2)) c) =
      chosen (fun s => (given.lookup s).or (texts s)) (order ++ given.map Prod.fst) := by
  induction given generalizing texts order with
  | nil => simp
  | cons g rest ih =>
      -- The rest does not give this setting again, so its text stays until the end.
      obtain ⟨hg, hrest⟩ := List.nodup_cons.mp hnodup
      have hlookup : rest.lookup g.1 = none := by
        rw [List.lookup_eq_none_iff]
        intro g' hg'
        exact bne_iff_ne.mpr fun heq => hg (List.mem_map.mpr ⟨g', hg', heq.symm⟩)
      have hupdated : ∀ g' ∈ rest, Function.update texts g.1 (some g.2) g'.1 = none := by
        intro g' hg'
        have hne : g'.1 ≠ g.1 := fun heq => hg (List.mem_map.mpr ⟨g', hg', heq⟩)
        rw [Function.update_of_ne hne]
        exact htexts g' (List.mem_cons_of_mem _ hg')
      have htexts' : (fun s => (rest.lookup s).or (Function.update texts g.1 (some g.2) s)) =
          fun s => ((g :: rest).lookup s).or (texts s) := by
        funext s
        by_cases hs : s = g.1
        · subst hs
          rw [hlookup, Function.update_self, List.lookup_cons_self]
          rfl
        · rw [Function.update_of_ne hs, List.lookup_cons, beq_false_of_ne hs]
      simp only [List.foldlM_cons]
      rw [← bind_assoc, chosen_give order (htexts g List.mem_cons_self), ih hrest hupdated, htexts',
        List.append_assoc]
      rfl

/-! ## The environment -/

/-- Chooses one setting from the environment, unless it has been chosen. -/
def fillOne (env : Environment) (c : Choices) (s : Setting) : Except Error Choices :=
  match env s with
  | some value => if c.has s then .ok c else c.set s value
  | none => .ok c

theorem fillFrom_eq (env : Environment) (c : Choices) :
    c.fillFrom env = Setting.all.foldlM (fillOne env) c :=
  rfl

theorem chosen_fillOne (texts exported : Setting → Option String) (order : List Setting)
    (s : Setting) :
    ∃ order', (chosen texts order >>= fun c => fillOne (environment exported) c s) =
      chosen (Function.update texts s ((texts s).or (exported s))) order' := by
  cases hexported : exported s with
  | none =>
      refine ⟨order, ?_⟩
      have henv : environment exported s = none := by simp [environment, hexported]
      rw [Option.or_none, Function.update_eq_self]
      simp only [fillOne, henv]
      cases chosen texts order <;> rfl
  | some text =>
      have henv : environment exported s = some (Bytes.ofString text) := by
        simp [environment, hexported]
      cases htext : texts s with
      | some t =>
          refine ⟨order, ?_⟩
          have hsame : (some t).or (some text) = texts s := htext.symm
          rw [hsame, Function.update_eq_self]
          have hkept : (chosen texts order >>= fun c => fillOne (environment exported) c s) =
              (chosen texts order >>= .ok) := by
            refine bind_congr_of_ok fun c hc => ?_
            rw [fillOne, henv, has_of_chosen hc, htext]
            rfl
          rw [hkept]
          cases chosen texts order <;> rfl
      | none =>
          refine ⟨order ++ [s], ?_⟩
          have hgiven : (chosen texts order >>= fun c => fillOne (environment exported) c s) =
              (chosen texts order >>= fun c => c.give s (Bytes.ofString text)) := by
            refine bind_congr_of_ok fun c hc => ?_
            rw [fillOne, henv, Choices.give, has_of_chosen hc, htext]
            rfl
          rw [hgiven, chosen_give order htext]
          rfl

theorem chosen_fill (texts exported : Setting → Option String) (order : List Setting)
    (settings : List Setting) :
    ∃ order', (chosen texts order >>= fun c =>
        settings.foldlM (fillOne (environment exported)) c) =
      chosen (fun s => if s ∈ settings then (texts s).or (exported s) else texts s) order' := by
  induction settings generalizing texts order with
  | nil => exact ⟨order, by simp⟩
  | cons first rest ih =>
      obtain ⟨order₁, hfirst⟩ := chosen_fillOne texts exported order first
      obtain ⟨order₂, hrest⟩ := ih (Function.update texts first ((texts first).or (exported first)))
        order₁
      refine ⟨order₂, ?_⟩
      simp only [List.foldlM_cons]
      rw [← bind_assoc, hfirst, hrest]
      congr 1
      funext s
      by_cases hs : s = first
      · -- A setting that comes again has been chosen by then.
        subst hs
        simp only [Function.update_self, List.mem_cons_self, if_true]
        rw [Option.or_assoc, Option.or_self, ite_self]
      · simp [hs]

/-! ## Resolution -/

/-- Flags choose, and then the environment. -/
theorem chosen_given {given : List (Setting × String)} (exported : Setting → Option String)
    (hnodup : (given.map Prod.fst).Nodup) :
    ∃ order,
      (given.foldlM (fun (c : Choices) g => c.give g.1 (Bytes.ofString g.2)) Choices.none >>=
          fun c => c.fillFrom (environment exported)) =
        chosen (fun s => (given.lookup s).or (exported s)) order := by
  have hflags := @chosen_flags (fun _ => none) given hnodup (fun _ _ => rfl) []
  simp only [Option.or_none] at hflags
  have hstart : chosen (fun _ => none) [] = .ok Choices.none := rfl
  rw [hstart] at hflags
  obtain ⟨order, hfill⟩ :=
    chosen_fill (fun s => given.lookup s) exported ([] ++ given.map Prod.fst) Setting.all
  have hall : ∀ s : Setting, s ∈ Setting.all := by
    intro s
    cases s <;> decide
  simp only [hall, if_true] at hfill
  rw [← hflags] at hfill
  refine ⟨order, ?_⟩
  simp only [fillFrom_eq]
  exact hfill

/-- The settings by these texts, with the defaults where there is none. -/
theorem settings_chosen (texts : Setting → Option String) (order : List Setting) :
    (chosen texts order).map Choices.settings =
      (Choices.readPort ((texts .port).getD Setting.port.defaultText)).map fun port =>
        ({ host := (texts .host).getD Setting.host.defaultText
           port := port
           logLevel := (texts .logLevel).getD Setting.logLevel.defaultText } : Settings) := by
  rw [chosen]
  cases texts .port with
  | none =>
      have hdefault : Choices.readPort Setting.port.defaultText = .ok 8080 := by decide +kernel
      rw [Option.getD_none, hdefault]
      rfl
  | some text =>
      rw [Option.getD_some, portOf]
      cases Choices.readPort text <;> rfl

/-- The texts that decide are chosen, and then only the port can be refused. -/
theorem parse_given {given : List (Setting × String)} (exported : Setting → Option String)
    (hnodup : (given.map Prod.fst).Nodup) :
    parse (given.map argument) (environment exported) =
      ((Choices.readPort (deciding given exported .port)).map fun port =>
        ({ host := deciding given exported .host
           port := port
           logLevel := deciding given exported .logLevel } : Settings)).mapError .error := by
  obtain ⟨order, hchosen⟩ := chosen_given exported hnodup
  have hsettings := settings_chosen (fun s => (given.lookup s).or (exported s)) order
  rw [← hchosen] at hsettings
  rw [parse, scan_given, mapError_bind_map, hsettings]
  rfl

/-- How flags and exported variables decide about the settings, and these about where to listen. -/
structure IsResolved (given : List (Setting × String)) (exported : Setting → Option String) :
    Prop where
  parses : (∃ settings, parse (given.map argument) (environment exported) = .ok settings) ↔
    ∃ i : Int, SignedText (deciding given exported .port).toList i ∧ 0 ≤ i ∧ i ≤ 65535
  /-- The port is all that can be wrong. -/
  refused : ∀ stop, parse (given.map argument) (environment exported) = .error stop →
    ∃ reason, stop =
      .error (.invalidValue .port (deciding given exported .port) reason)
  settings : ∀ settings, parse (given.map argument) (environment exported) = .ok settings →
    settings.host = deciding given exported .host ∧
      settings.logLevel = deciding given exported .logLevel ∧
      SignedText (deciding given exported .port).toList settings.port.toNat
  unfit : ∀ settings, parse (given.map argument) (environment exported) = .ok settings →
    ((∃ detail, settings.listenAddress = .error (.config detail)) ↔
      Text.IsBlankText (deciding given exported .host) ∨ settings.port = 0)
  listens : ∀ settings, parse (given.map argument) (environment exported) = .ok settings →
    ¬Text.IsBlankText (deciding given exported .host) → settings.port ≠ 0 →
      ∃ trimmed, Text.TrimsTo (deciding given exported .host) trimmed ∧
        settings.listenAddress = .ok (trimmed ++ ":" ++ toString settings.port.toNat)

/-- Settings are resolved from flags that are not repeated, in any order, and from an environment,
whatever the texts are. -/
theorem isResolved_of_nodup {given : List (Setting × String)}
    (exported : Setting → Option String) (hnodup : (given.map Prod.fst).Nodup) :
    IsResolved given exported := by
  have hparse := parse_given exported hnodup
  have hok : ∀ settings, parse (given.map argument) (environment exported) = .ok settings →
      settings.host = deciding given exported .host ∧
        settings.logLevel = deciding given exported .logLevel ∧
        SignedText (deciding given exported .port).toList settings.port.toNat := by
    intro settings h
    rw [hparse, mapError_eq_ok_iff] at h
    obtain ⟨port, hport, rfl⟩ := map_eq_ok_iff.mp h
    exact ⟨rfl, rfl, readPort_eq_ok_iff.mp hport⟩
  refine ⟨⟨?_, ?_⟩, ?_, hok, ?_, ?_⟩
  · rintro ⟨settings, h⟩
    have hlt : settings.port.toNat < 65536 := settings.port.toNat_lt
    exact ⟨_, (hok settings h).2.2, by omega, by omega⟩
  · rintro ⟨i, hi, hlower, hupper⟩
    rw [← toNat_ofNat_toNat hlower hupper] at hi
    rw [hparse, readPort_eq_ok_iff.mpr hi]
    exact ⟨_, rfl⟩
  · intro stop h
    rw [hparse] at h
    obtain ⟨e, he, rfl⟩ := mapError_eq_error_iff.mp h
    cases hport : Choices.readPort (deciding given exported .port) with
    | ok port =>
        rw [hport] at he
        contradiction
    | error e' =>
        rw [hport] at he
        injection he with he
        subst he
        obtain ⟨reason, rfl⟩ := readPort_eq_error hport
        exact ⟨reason, rfl⟩
  · intro settings h
    rw [← (hok settings h).1]
    exact Settings.listenAddress_eq_config_iff
  · intro settings h hhost hport
    rw [← (hok settings h).1] at hhost ⊢
    exact ⟨_, Text.trimsTo_trim _, Settings.listenAddress_of_fit hhost hport⟩

/-- A port with a sign and zeros, and a host between blanks. -/
def flagsGiven : List (Setting × String) :=
  [(.port, "+0080"), (.host, " \tlocalhost\u3000")]

/-- No port, a host that is not asked for, and no text for the level. -/
def exportedTexts : Setting → Option String
  | .host => some ""
  | .port => some "not-a-port"
  | .logLevel => some ""

theorem isResolved_flagsGiven :
    (flagsGiven.map Prod.fst).Nodup ∧
      parse (flagsGiven.map argument) (environment exportedTexts) =
        .ok ⟨" \tlocalhost\u3000", 80, ""⟩ ∧
      IsResolved flagsGiven exportedTexts := by
  have hnodup : (flagsGiven.map Prod.fst).Nodup := by decide
  exact ⟨hnodup, by decide +kernel, isResolved_of_nodup exportedTexts hnodup⟩

end CommandLine

end InvoiceGateway
