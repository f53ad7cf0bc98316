import InvoiceGateway.Proofs.Client.Truncation
import InvoiceGateway.Proofs.Json.Writing
import InvoiceGateway.Session

/-! # Responses on the wire

What the gateway sends in answer to a request delivers the response. -/

namespace InvoiceGateway.Http

/-! ## What is delivered -/

/-- A stream delivers a response: announcements aside, it begins with a head of that status within
the limits, and all of the body follows in the framing that the head asks for. -/
inductive Delivers (r : Response) (ending : Ending) : Bytes → Prop
  | mk {front head rest : Bytes} {old : Bool} {fields : List (Bytes × Bytes)} {framing : Framing} :
      Announcements front → HeadText head ⟨old, r.status⟩ fields → IsWithinLimits head fields →
      framing? ⟨old, r.status⟩ fields = some framing →
      WholeBody framing ending rest (Bytes.ofString r.body) →
      Delivers r ending (front ++ head ++ rest)

theorem Delivers.read_eq {r : Response} {ending : Ending} {stream : Bytes}
    (h : Delivers r ending stream) (hfinal : 200 ≤ r.status.code) :
    Reply.read ending stream = Session.reply r := by
  cases h with
  | @mk front head rest old fields framing hfront hhead hlimits hframing hbody =>
      rw [Reply.read_append hfront hhead hlimits (Reply.isInterim_eq_false hfinal) hframing,
        readBody_eq_complete_iff.mpr hbody]
      rfl

theorem SizedReply.delivers {r : Response} {fields : List (Bytes × Bytes)} {head : Bytes}
    (h : SizedReply r.status fields head (Bytes.ofString r.body))
    (hlimits : IsWithinLimits head fields) (hbody : r.status.isBodiless = false)
    (ending : Ending) : Delivers r ending (head ++ Bytes.ofString r.body) :=
  @Delivers.mk r ending [] head _ _ _ _ .nil h.headText hlimits (h.framing?_eq hbody)
    ⟨rfl, List.prefix_rfl⟩

/-! ## What is sent -/

theorem ofString_intercalate (lines : List String) (last : String) :
    Bytes.ofString ("\r\n".intercalate (lines ++ [last])) =
      endedLines (lines.map Bytes.ofString) ++ Bytes.ofString last := by
  have hreturn : Bytes.ofString "\r\n" = [13, 10] := rfl
  induction lines with
  | nil => simp [endedLines]
  | cons line lines ih =>
      rw [List.cons_append, String.intercalate_cons_of_ne_nil (by simp), Bytes.ofString_append,
        Bytes.ofString_append, hreturn, ih]
      simp [endedLines]

theorem isTextByte_of_isDigit {b : UInt8} (h : Ascii.isDigit b = true) : isTextByte b = true := by
  simp only [Ascii.isDigit, Bool.and_eq_true, decide_eq_true_eq, UInt8.le_iff_toNat_le] at h
  have hlow : (32 : UInt8) ≤ b := UInt8.le_iff_toNat_le.mpr (Nat.le_trans (by decide) h.1)
  have hne : b ≠ 127 := by
    rintro rfl
    exact absurd h.2 (by decide)
  simp [isTextByte, hlow, hne]

/-- The line that states a length. -/
def lengthLine (n : Nat) : Bytes :=
  Bytes.ofString "content-length" ++ 58 :: 32 :: Json.natBytes n

theorem ofString_lengthLine (n : Nat) :
    Bytes.ofString ("content-length" ++ ": " ++ toString n) = lengthLine n := by
  have hcolon : Bytes.ofString ": " = [58, 32] := rfl
  rw [Bytes.ofString_append, Bytes.ofString_append, hcolon, List.append_assoc]
  rfl

theorem fieldText_lengthLine (n : Nat) :
    FieldText (lengthLine n) (Bytes.ofString "content-length", Json.natBytes n) := by
  have hdigits : ∀ b ∈ Json.natBytes n, Ascii.isDigit b = true := (Json.digits_natBytes n).1
  have htext : ∀ b ∈ 32 :: Json.natBytes n, isTextByte b = true := by
    intro b hb
    rcases List.mem_cons.mp hb with rfl | hb
    · rfl
    · exact isTextByte_of_isDigit (hdigits b hb)
  have htrim : trimBytes (32 :: Json.natBytes n) = Json.natBytes n :=
    trimBytes_of_isDigit hdigits
  have hfield := @FieldText.mk (Bytes.ofString "content-length") (32 :: Json.natBytes n)
    (by decide +kernel) (by decide +kernel) htext
  have hname : (Bytes.ofString "content-length").map Ascii.toLower =
      Bytes.ofString "content-length" := by
    decide +kernel
  rwa [htrim, hname] at hfield

theorem length_lengthLine_le {n : Nat} (h : n < UInt64.size) : (lengthLine n).length ≤ 36 := by
  have hname : (Bytes.ofString "content-length").length = 14 := by decide +kernel
  have hdigits : (Json.natBytes n).length ≤ 20 :=
    Json.length_natBytes_le (Nat.lt_of_lt_of_le h (by decide))
  simp only [lengthLine, List.length_append, List.length_cons, hname]
  omega

/-- The header lines of a response with a JSON body of some length. -/
def jsonLines (n : Nat) : List Bytes :=
  [Bytes.ofString "content-type: application/json", lengthLine n, Bytes.ofString "connection: close"]

def jsonFields (n : Nat) : List (Bytes × Bytes) :=
  [(Bytes.ofString "content-type", Bytes.ofString "application/json"),
    (Bytes.ofString "content-length", Json.natBytes n),
    (Bytes.ofString "connection", Bytes.ofString "close")]

theorem fieldText_jsonLines (n : Nat) : List.Forall₂ FieldText (jsonLines n) (jsonFields n) := by
  have htype : FieldText (Bytes.ofString "content-type: application/json")
      (Bytes.ofString "content-type", Bytes.ofString "application/json") :=
    @FieldText.mk (Bytes.ofString "content-type") (Bytes.ofString " application/json")
      (by decide +kernel) (by decide +kernel) (by decide +kernel)
  have hclose : FieldText (Bytes.ofString "connection: close")
      (Bytes.ofString "connection", Bytes.ofString "close") :=
    @FieldText.mk (Bytes.ofString "connection") (Bytes.ofString " close")
      (by decide +kernel) (by decide +kernel) (by decide +kernel)
  exact .cons htype (.cons (fieldText_lengthLine n) (.cons hclose .nil))

/-- The head of a response with a JSON body of some length. -/
def jsonHead (status : Status) (n : Nat) : Bytes :=
  Bytes.ofString ("HTTP/1.1 " ++ status.text) ++ [13, 10] ++ (endedLines (jsonLines n) ++ [13, 10])

theorem wire_json (status : Status) (body : String) :
    (Response.json status body).withLength.wire =
      jsonHead status body.utf8ByteSize ++ Bytes.ofString body := by
  have hempty : Bytes.ofString "" = [] := rfl
  change Bytes.ofString ("\r\n".intercalate (["HTTP/1.1 " ++ status.text,
    "content-type: application/json", "content-length" ++ ": " ++ toString body.utf8ByteSize,
    "connection: close", ""] ++ [body])) = _
  rw [ofString_intercalate]
  simp only [jsonHead, jsonLines, endedLines, List.map_cons, List.map_nil, List.flatMap_cons,
    List.flatMap_nil, hempty, ofString_lengthLine, List.append_assoc, List.nil_append,
    List.append_nil]

theorem isWithinLimits_jsonHead {status : Status} {n : Nat} (h : n < UInt64.size)
    (hfirst : (Bytes.ofString ("HTTP/1.1 " ++ status.text)).length ≤ 100) :
    IsWithinLimits (jsonHead status n) (jsonFields n) where
  count := by simp [jsonFields, headerLimit]
  names := by
    have htype : (Bytes.ofString "content-type").length ≤ nameLimit := by decide +kernel
    have hlength : (Bytes.ofString "content-length").length ≤ nameLimit := by decide +kernel
    have hclose : (Bytes.ofString "connection").length ≤ nameLimit := by decide +kernel
    simp [jsonFields, htype, hlength, hclose]
  size := by
    have hline := length_lengthLine_le h
    have htype : (Bytes.ofString "content-type: application/json").length = 30 := by decide +kernel
    have hclose : (Bytes.ofString "connection: close").length = 17 := by decide +kernel
    have hlimit : 200 ≤ Reply.headLimit := by decide
    simp only [jsonHead, jsonLines, endedLines, List.flatMap_cons, List.flatMap_nil,
      List.length_append, List.length_cons, List.length_nil, htype, hclose]
    omega

/-- A response with a JSON body states its length. -/
theorem sizedReply_json {status : Status} {body : String}
    (hfirst : StatusLineText (Bytes.ofString ("HTTP/1.1 " ++ status.text)) ⟨false, status⟩)
    (hlimit : (Bytes.ofString body).length ≤ lengthLimit) :
    SizedReply status (jsonFields body.utf8ByteSize) (jsonHead status body.utf8ByteSize)
      (Bytes.ofString body) := by
  have hsize : digitsNumber (Json.natBytes body.utf8ByteSize) = (Bytes.ofString body).length := by
    have hvalue : digitsNumber (Json.natBytes body.utf8ByteSize) = body.utf8ByteSize :=
      (Json.digits_natBytes _).2
    rw [hvalue]
    simp [Bytes.ofString]
  have hne : Json.natBytes body.utf8ByteSize ≠ [] := by
    obtain ⟨d, ds, hds, -⟩ := Json.wholeText_begins (Json.wholeText_natBytes body.utf8ByteSize)
    simp [hds]
  exact .mk (headText_endedLines hfirst (fieldText_jsonLines _)) rfl rfl hne
    (Json.digits_natBytes _).1 hsize hlimit

end InvoiceGateway.Http
