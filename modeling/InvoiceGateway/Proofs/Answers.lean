import InvoiceGateway.Ack
import InvoiceGateway.Proofs.Json.Records
import InvoiceGateway.Proofs.Json.Extensions

/-! # Answers are read back -/

namespace InvoiceGateway

open Json

/-! ## Acknowledgements -/

namespace Ack

/-- The members of an acknowledgement's object. -/
def members (a : Ack) : List (String × Value) :=
  [("status", .string a.status), ("message", .string a.message),
    ("sat_id", .number (.natural (UInt64.ofNat a.satId.toNat)))]

theorem isFaithful : IsFaithful members toJson toJsonArray parse :=
  @Schema.isFaithful schema (by decide) Ack row ofRow fun _ => rfl

theorem isAgreed : IsAgreed ["status", "message", "sat_id"] members parse := by
  refine @Schema.isAgreed schema (by decide) Ack row ofRow fun r a => ?_
  obtain ⟨status, message, satId, ⟨⟩⟩ := r
  constructor
  · rintro rfl
    rfl
  · intro h
    rw [h]
    rfl

theorem isExtensible : IsExtensible ["status", "message", "sat_id"] parse :=
  Schema.isExtensible (by decide) (by decide) ofRow

/-- An acknowledgement is read from what was written for it. -/
theorem parse_toJson (a : Ack) : parse (Bytes.ofString a.toJson) = .ok a :=
  isFaithful.parse_object a

end Ack

/-! ## Error reports -/

namespace ErrorReport

/-- The members of an error report's object. -/
def members (r : ErrorReport) : List (String × Value) :=
  [("error", .string r.error)]

theorem isFaithful : IsFaithful members toJson toJsonArray parse :=
  @Schema.isFaithful schema (by decide) ErrorReport row ofRow fun _ => rfl

theorem isAgreed : IsAgreed ["error"] members parse := by
  refine @Schema.isAgreed schema (by decide) ErrorReport row ofRow fun r a => ?_
  obtain ⟨error, ⟨⟩⟩ := r
  constructor
  · rintro rfl
    rfl
  · intro h
    rw [h]
    rfl

theorem isExtensible : IsExtensible ["error"] parse :=
  Schema.isExtensible (by decide) (by decide) ofRow

/-- An error report is read from what was written for it. -/
theorem parse_toJson (r : ErrorReport) : parse (Bytes.ofString r.toJson) = .ok r :=
  isFaithful.parse_object r

end ErrorReport

/-! ## Both -/

/-- Whatever the gateway answers is read as what was answered. -/
theorem answers_areFaithful :
    IsFaithful Ack.members Ack.toJson Ack.toJsonArray Ack.parse ∧
      IsFaithful ErrorReport.members ErrorReport.toJson ErrorReport.toJsonArray
        ErrorReport.parse :=
  ⟨Ack.isFaithful, ErrorReport.isFaithful⟩

/-- Of a text with a value, exactly the answer is read that the value presents. -/
theorem answers_areAgreed :
    IsAgreed ["status", "message", "sat_id"] Ack.members Ack.parse ∧
      IsAgreed ["error"] ErrorReport.members ErrorReport.parse :=
  ⟨Ack.isAgreed, ErrorReport.isAgreed⟩

/-- Members that no field is named after may come and go. -/
theorem answers_areExtensible :
    IsExtensible ["status", "message", "sat_id"] Ack.parse ∧
      IsExtensible ["error"] ErrorReport.parse :=
  ⟨Ack.isExtensible, ErrorReport.isExtensible⟩

example : Ack.parse (Bytes.ofString
    "\x7b\"st\\u0061tus\":\"ok\",\"later\":[1e999,\x7b\x7d],\"message\":\"\",\"sat_id\":7\x7d") =
      .ok ⟨"ok", "", 7⟩ := by
  decide +kernel

end InvoiceGateway
