import Maquette.Proofs.Json.Encodable
import Maquette.Proofs.Outcome
import Maquette.Service.Basic

/-!
# Bodies that are JSON

The checks of a body that is JSON come to an end for every value: either its fields are
passed on, or there is a complaint about them. Only a form can have a field that nests
too deep for a check, since the depth of JSON was limited when the body was read. All
that a complaint quotes of a body is written in ASCII, so every complaint can be sent.
-/

namespace Maquette.Service

variable {request : Request} {value : Json} {check : Body → List (String × Checked)}

/-- The request is a post by somebody who is logged in, and its body is JSON for a value. -/
structure Request.Posts (request : Request) (value : Json) : Prop where
  authenticated : request.authenticated = true
  method_eq : request.method = "POST"
  covers_json : request.contentType.value.covers "application" "json" = true
  content_ne_nil : Text.encode request.content.toList ≠ []
  reads : ∃ charset text, request.bodyCharset = .ok charset ∧
    charset.decodeStream (Text.encode request.content.toList) = .ok text ∧
    Json.readWithin (.outside nestingLimit) .standard (String.ofList text) = .ok value

/-- The fields that are passed on of a body that is JSON, or why there are none. -/
def validated (check : Body → List (String × Checked)) (value : Json) :
    Except Rejection Fields := do
  let body ← (Body.ofValue value).mapError .complaint
  gather (check body)

theorem Request.Posts.body_eq (h : request.Posts value) :
    request.body =
      match Body.ofValue value with
      | .ok body => .body body
      | .error complaint => .complaint complaint := by
  obtain ⟨charset, text, hcharset, htext, hvalue⟩ := h.reads
  have hempty : (Text.encode request.content.toList).isEmpty = false :=
    List.isEmpty_eq_false_iff.2 h.content_ne_nil
  unfold Request.body
  cases hbody : Body.ofValue value <;>
    simp only [hempty, h.covers_json, hcharset, Request.jsonContent, htext, hvalue, hbody, if_true,
      Bool.false_eq_true, if_false]

theorem readFields_eq (h : request.Posts value) :
    readFields check request =
      match validated check value with
      | .ok fields => .ok (.ok fields)
      | .error (.complaint complaint) => .ok (.error (.data 400 complaint.toJson))
      | .error (.tooDeep isObject) => .error (.tooDeep isObject) := by
  unfold readFields
  rw [h.body_eq]
  cases hbody : Body.ofValue value with
  | error complaint =>
    have hvalidated : validated check value = .error (.complaint complaint) := by
      rw [validated, hbody]
      rfl
    rw [hvalidated]
  | ok body =>
    have hvalidated : validated check value = gather (check body) := by
      rw [validated, hbody]
      rfl
    cases hgather : gather (check body) with
    | ok fields => simp only [hvalidated, hgather]
    | error rejection => cases rejection <;> simp only [hvalidated, hgather]

/-- There is a complaint, and it has an encoding. -/
def Rejection.IsSendable : Rejection → Prop
  | .complaint found => found.toJson.isEncodable = true
  | .tooDeep _ => False

theorem toUpper_lt_of_plain {c : Char} (h : Text.isPlainChar c = true) :
    c.toUpper.toNat < Text.halfOffset := by
  have hascii : ∀ n < 128, (Char.ofNat n).toUpper.toNat < Text.halfOffset := by decide
  have hlt : c.toNat < 128 := by
    rw [Text.isPlainChar, Bool.or_eq_true, decide_eq_true_eq, beq_iff_eq] at h
    rcases h with hrange | rfl
    · omega
    · decide
  have hc := hascii c.toNat hlt
  rwa [Char.ofNat_toNat] at hc

theorem FieldFault.isEncodable_message (fault : FieldFault) :
    Text.isEncodable fault.message.toList = true := by
  refine Text.isEncodable_of_isBelowHalves ?_
  cases fault with
  | tooLong limit =>
    exact Text.isBelowHalves_toList_append (Text.isBelowHalves_toList_append (by decide)
      (Text.isBelowHalves_of_all (all_isWordChar_integerText limit))) (by decide)
  | lostHalf half =>
    have hhex : Text.isBelowHalves ((Text.hex 4 half).map Char.toUpper) = true := by
      rw [Text.isBelowHalves, List.all_map, List.all_eq_true]
      intro c hc
      have hplain := List.all_eq_true.1 (Text.all_isPlainChar_hex 4 half) c hc
      exact decide_eq_true (toUpper_lt_of_plain hplain)
    refine Text.isBelowHalves_toList_append (Text.isBelowHalves_toList_append (by decide) ?_)
      (by decide)
    rwa [String.toList_ofList]
  | _ => decide

theorem isSendable_ofFaults (faults : List FieldFault) :
    (Rejection.ofFaults faults).IsSendable := by
  change Json.areEncodableItems ((faults.map FieldFault.message).map .string) = true
  induction faults with
  | nil => rfl
  | cons fault rest ih =>
    simp only [List.map_cons, Json.areEncodableItems, Json.isEncodable, fault.isEncodable_message,
      ih, Bool.and_true]

theorem isSendable_notAnObject (value : Json) :
    (Rejection.complaint (.notAnObject value)).IsSendable := by
  have htype : Text.isBelowHalves value.typeName.toList = true := by
    unfold Json.typeName
    split <;> decide
  have hmessage : Text.isEncodable
      ("Invalid data. Expected a dictionary, but got " ++ value.typeName ++ ".").toList = true :=
    Text.isEncodable_of_isBelowHalves (Text.isBelowHalves_toList_append
      (Text.isBelowHalves_toList_append (by decide) htype) (by decide))
  change (Text.isEncodable wholeObject.toList && ((Text.isEncodable _ && true) && true)) = true
  rw [hmessage]
  decide

namespace TextRule

variable (rule : TextRule)

theorem failsOnly_checkText (text : String) :
    FailsOnly Rejection.IsSendable (rule.checkText text) := by
  unfold checkText
  dsimp only
  split
  · exact failsOnly_ok _
  · exact failsOnly_error (isSendable_ofFaults _)

theorem failsOnly_checkUnlessBlank (text : String) {otherwise : Checked}
    (h : FailsOnly Rejection.IsSendable otherwise) :
    FailsOnly Rejection.IsSendable (rule.checkUnlessBlank text otherwise) := by
  unfold checkUnlessBlank
  split
  · split
    · exact failsOnly_ok _
    · exact failsOnly_error (isSendable_ofFaults _)
  · exact h

theorem failsOnly_checkValue (value : Json) :
    FailsOnly Rejection.IsSendable (rule.checkValue value) := by
  cases value with
  | string text => exact rule.failsOnly_checkUnlessBlank text (rule.failsOnly_checkText text)
  | integer n => exact rule.failsOnly_checkText _
  | number x => exact rule.failsOnly_checkText _
  | null =>
    rw [checkValue]
    split
    · exact failsOnly_ok _
    · exact failsOnly_error (isSendable_ofFaults _)
  | _ => exact failsOnly_error (isSendable_ofFaults _)

theorem failsOnly_check (given : Option Given) :
    FailsOnly Rejection.IsSendable (rule.check given) := by
  match given with
  | none =>
    rw [check]
    split
    · exact failsOnly_error (isSendable_ofFaults _)
    · exact failsOnly_ok _
  | some (.value value) => exact rule.failsOnly_checkValue value
  | some (.entry (.text text)) => exact rule.failsOnly_checkValue (.string text)
  | some (.entry (.file name)) =>
    exact rule.failsOnly_checkUnlessBlank name (failsOnly_error (isSendable_ofFaults _))

end TextRule

theorem failsOnly_checkObject (given : Option Json) :
    FailsOnly Rejection.IsSendable (checkObject (given.map .value)) := by
  refine failsOnly_bind ?_ fun found => ?_
  · cases given with
    | none => exact failsOnly_error (isSendable_ofFaults _)
    | some value =>
      rw [Option.map_some]
      unfold checkAny
      split
      · exact failsOnly_error (isSendable_ofFaults _)
      · exact failsOnly_error (isSendable_ofFaults _)
      · split
        · exact failsOnly_ok _
        · exact failsOnly_error (isSendable_ofFaults _)
      · next h => cases h
      · next h => cases h
  · split
    · exact failsOnly_ok _
    · exact failsOnly_error (isSendable_ofFaults _)

theorem areEncodableFields_fieldsToJson {complaints : List (String × Complaint)}
    (h : ∀ entry ∈ complaints,
      Text.isEncodable entry.1.toList = true ∧ entry.2.toJson.isEncodable = true) :
    Json.areEncodableFields (Complaint.fieldsToJson complaints) = true := by
  induction complaints with
  | nil => rfl
  | cons entry rest ih =>
    obtain ⟨hname, hcomplaint⟩ := h entry List.mem_cons_self
    have hrest := ih fun other hother => h other (List.mem_cons_of_mem _ hother)
    rw [Complaint.fieldsToJson, Json.areEncodableFields, hname, hcomplaint, hrest]
    rfl

/-- The complaints about some fields can be sent if those about each of them can be. -/
theorem failsOnly_gather {fields : List (String × Checked)}
    (h : ∀ field ∈ fields, Text.isEncodable field.1.toList = true ∧
      FailsOnly Rejection.IsSendable field.2) :
    FailsOnly Rejection.IsSendable (gather fields) := by
  have hdeep : fields.findSome? tooDeep? = none := by
    rw [List.findSome?_eq_none_iff]
    intro field hfield
    unfold tooDeep?
    split
    · next herror => exact ((h field hfield).2 _ herror).elim
    · rfl
  unfold gather
  rw [hdeep]
  dsimp only
  split
  · exact failsOnly_ok _
  · refine failsOnly_error (areEncodableFields_fieldsToJson ?_)
    intro entry hentry
    obtain ⟨field, hfield, hcomplaint⟩ := List.mem_filterMap.1 hentry
    obtain ⟨hname, hfails⟩ := h field hfield
    unfold complaint? at hcomplaint
    split at hcomplaint
    · next complaint herror =>
      obtain rfl := Option.some.inj hcomplaint
      exact ⟨hname, hfails _ herror⟩
    · cases hcomplaint

theorem failsOnly_checkNested (name : String) (given : Fields)
    (h : ∀ inner, FailsOnly Rejection.IsSendable (gather (check (.fields inner)))) :
    FailsOnly Rejection.IsSendable (checkNested check name (.fields given)) := by
  unfold checkNested
  dsimp only
  split
  · exact failsOnly_error (isSendable_ofFaults _)
  · exact failsOnly_error (isSendable_ofFaults _)
  · exact failsOnly_map _ (h _)
  · exact failsOnly_error (isSendable_notAnObject _)

theorem failsOnly_deploymentFields (given : Fields) :
    FailsOnly Rejection.IsSendable (gather (Request.deploymentFields (.fields given))) := by
  refine failsOnly_gather ?_
  simp only [Request.deploymentFields, List.mem_cons, List.not_mem_nil, or_false, forall_eq_or_imp,
    forall_eq]
  exact ⟨⟨by decide, TextRule.failsOnly_check _ _⟩, ⟨by decide, TextRule.failsOnly_check _ _⟩,
    ⟨by decide, TextRule.failsOnly_check _ _⟩, ⟨by decide, TextRule.failsOnly_check _ _⟩,
    ⟨by decide, TextRule.failsOnly_check _ _⟩⟩

theorem failsOnly_packageFields (given : Fields) :
    FailsOnly Rejection.IsSendable (gather (Request.packageFields (.fields given))) := by
  refine failsOnly_gather ?_
  simp only [Request.packageFields, List.mem_cons, List.not_mem_nil, or_false, forall_eq_or_imp,
    forall_eq]
  exact ⟨⟨by decide, failsOnly_checkObject _⟩,
    ⟨by decide, failsOnly_checkNested _ _ failsOnly_deploymentFields⟩,
    ⟨by decide, TextRule.failsOnly_check _ _⟩, ⟨by decide, TextRule.failsOnly_check _ _⟩⟩

/-- A body that is JSON is refused only with a complaint that can be sent. -/
theorem failsOnly_validated (value : Json) :
    FailsOnly Rejection.IsSendable (validated Request.packageFields value) := by
  unfold validated
  cases value with
  | object given => exact failsOnly_packageFields given
  | null => exact failsOnly_error rfl
  | _ => exact failsOnly_error (isSendable_notAnObject _)

end Maquette.Service
