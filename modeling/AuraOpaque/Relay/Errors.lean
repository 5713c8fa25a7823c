import AuraOpaque.Relay.Authentication
import AuraOpaque.Relay.Registration
import AuraOpaque.Core.Errors

/-!
# The errors that the relay reports

The errors of an evaluator are passed on by the two operations that consult it.
-/

namespace AuraOpaque.Relay

open AuraOpaque.Foundation AuraOpaque.Core
open Handshake (SharedSecrets)

variable (P : Primitives) {errors : OpaqueError → Prop}

/-- The errors of `createRegistrationResponse` on a request of the right length. -/
def responseErrors : List OpaqueError := [.invalidInput, .cryptoError, .unsupportedVersion]

/-- The errors of `buildCredentials` on a record of the right length. -/
def recordErrors : List OpaqueError := [.unsupportedVersion, .invalidPublicKey]

/-- The errors of `generateKe2`. -/
def ke2Errors : List OpaqueError :=
  [.invalidInput, .cryptoError, .invalidProtocolMessage, .unsupportedVersion, .validationError,
    .invalidPublicKey, .invalidKemInput]

/-- The errors of `responderFinish`. -/
def finishErrors : List OpaqueError :=
  [.invalidProtocolMessage, .unsupportedVersion, .validationError, .authenticationError]

/-! ## Registration -/

theorem createRegistrationResponse_raises {responder : OpaqueResponder}
    (hevaluator : responder.evaluator.Raises errors) (h : ∀ e ∈ responseErrors, errors e)
    {request : List UInt8} (hlength : request.length = registrationRequestWireLength)
    (accountId : List UInt8) :
    (createRegistrationResponse P responder request accountId).Raises errors := by
  have hinput : errors .invalidInput := h _ (by decide)
  have hparses : (Protocol.parseRegistrationRequest request).Raises errors :=
    Protocol.registrationRequest_exact.parse_raises_of_length (h _ (by decide)) hlength
  refine .liftBind hparses fun payload hparse => .bind (.failIf hinput) fun _ => ?_
  refine .bind (.lift (validateRistrettoPoint_raises P hinput _)) fun _ => ?_
  -- the payload of a request has the length of a point
  have hpayload : payload.length = publicKeyLength := by
    have hsized := (Protocol.parseRegistrationRequest_reads.eq_ok_iff.mp hparse).1
    simpa [Protocol.Sized] using hsized
  rw [tryInto_eq_some hpayload]
  refine .bind (.okOr_some _) fun _ => .bind (.lift (hevaluator.evaluateOprf _ _)) fun _ => ?_
  exact .zoom (.bind (spliceAt_raises _ _ _) fun _ => spliceAt_raises _ _ _)

/-- Fresh credentials are not refused as registered. -/
theorem buildCredentials_raises {registrationRecord : List UInt8}
    (hlength : registrationRecord.length = registrationRecordLength) :
    ((buildCredentials P registrationRecord).run .new).1.Raises (· ∈ recordErrors) := by
  have hversion : .unsupportedVersion ∈ recordErrors := by decide
  have hkey : .invalidPublicKey ∈ recordErrors := by decide
  have hnew : ¬ ResponderCredentials.new.registered = true := Bool.false_ne_true
  rw [buildCredentials, Cmd.run_bind_ok (Cmd.run_get _),
    Cmd.run_bind_ok (by rw [Cmd.run_failIf, Outcome.failIf_neg _ hnew])]
  refine Cmd.Raises.bind
    (.lift (Protocol.registrationRecord_exact.parse_raises_of_length hversion hlength))
    (fun _ => ?_) _
  refine .bind (.lift (validatePublicKey_raises P hkey _)) fun _ => .bind (.modify _) fun _ => ?_
  refine .bind (.cmdLift (copyFromSlice_raises _ _)) fun _ => .bind (.modify _) fun _ => ?_
  refine .bind (.cmdLift (copyFromSlice_raises _ _)) fun _ => .bind (.modify _) fun _ => ?_
  exact .modify _

/-! ## Login -/

theorem rejectExpired_raises {Out : Type} (h : errors .validationError) :
    (rejectExpired : Op Out ResponderState Unit).Raises errors := by
  refine .bind .getState fun s => .bind (.onWorld ?_) fun _ => .abortIf h
  unfold ResponderState.isExpired
  split
  · exact .pure _
  · exact .bind now_raises fun _ => .pure _

theorem refreshDeadline_raises {Out : Type} :
    (refreshDeadline : Op Out ResponderState Unit).Raises errors :=
  .bind (.onWorld now_raises) fun _ => .modifyState

section Ke2

variable {responder : OpaqueResponder} (hevaluator : responder.evaluator.Raises errors)
  (h : Derivation errors)

include h

include hevaluator in
theorem fakeCredentials_raises (accountId : List UInt8) :
    (fakeCredentials P responder accountId).Raises errors :=
  .bind (hevaluator.deriveFakeMaterial _) fun _ =>
    .bind (deriveKeyPair_raises P h.invalidInput _) fun _ =>
    .bind (expand_raises P h _ _ _) fun _ =>
    .bind (deriveMaskingKey_raises P h _) fun _ => .ok _

omit h in
theorem realCredentials_raises (hvalidation : errors .validationError)
    (hkey : errors .invalidPublicKey) (credentials : ResponderCredentials) :
    (realCredentials P credentials).Raises errors := by
  unfold realCredentials
  split
  · exact .bind (.failIf hvalidation) fun _ => .bind (validatePublicKey_raises P hkey _) fun _ =>
      .bind (.okOr hvalidation) fun _ => .ok _
  · exact .ok _

include hevaluator in
theorem selectCredentials_raises (hvalidation : errors .validationError)
    (hkey : errors .invalidPublicKey) (accountId : List UInt8)
    (credentials : ResponderCredentials) :
    (selectCredentials P responder accountId credentials).Raises errors :=
  .bind (fakeCredentials_raises P hevaluator h _) fun _ =>
    .bind (realCredentials_raises P hvalidation hkey _) fun _ =>
    .bind (ctSelectBytes_raises _ _ _) fun _ => .bind (ctSelectBytes_raises _ _ _) fun _ =>
    .bind (ctSelectBytes_raises _ _ _) fun _ => .ok _

include hevaluator in
theorem ke2Inputs_raises (hformat : Parsing errors) (hvalidation : errors .validationError)
    (hkey : errors .invalidPublicKey) (ke1Data accountId : List UInt8)
    (credentials : ResponderCredentials) :
    (ke2Inputs P responder ke1Data accountId credentials).Raises errors := by
  refine .bind (Protocol.ke1_exact.parse_raises hformat _) fun _ => ?_
  refine .bind (.okOr hformat.invalidProtocolMessage) fun _ => ?_
  refine .bind (selectCredentials_raises P hevaluator h hvalidation hkey _ _) fun _ => ?_
  refine .bind (validateRistrettoPoint_raises P h.invalidInput _) fun _ => ?_
  exact .bind (validatePublicKey_raises P hkey _) fun _ =>
    .bind (validatePublicKey_raises P hkey _) fun _ => .ok _

theorem ke2Ephemeral_raises (responder : OpaqueResponder) (inputs : Ke2Inputs) :
    (ke2Ephemeral P responder inputs).Raises errors := by
  refine .bind .modifyState fun _ => .bind (.onWorld (randomNonzeroScalar_raises P h)) fun _ => ?_
  refine .bind .modifyState fun _ =>
    .bind (.lift (scalarmultBase_raises P h.cryptoError _)) fun _ => ?_
  refine .bind .modifyState fun _ => .bind (.onWorld (randomBytes_raises h _)) fun _ => ?_
  exact .bind .modifyOut fun _ => .modifyOut

omit h in
theorem writeCredentialResponse_raises (lo hi : ℕ) (source : List UInt8) :
    (writeCredentialResponse lo hi source).Raises errors :=
  .zoom (spliceAt_raises _ _ _)

include hevaluator in
theorem ke2CredentialResponse_raises (hformat : Parsing errors) (accountId : List UInt8)
    (inputs : Ke2Inputs) :
    (ke2CredentialResponse P responder accountId inputs).Raises errors := by
  refine .bind (.okOr hformat.invalidProtocolMessage) fun _ => ?_
  refine .bind (.lift (hevaluator.evaluateOprf _ _)) fun _ => ?_
  refine .bind (writeCredentialResponse_raises _ _ _) fun _ => .bind .getOut fun _ => ?_
  refine .bind (.lift (maskCredentialEnvelope_raises P h _ _ _ _ _)) fun _ => ?_
  exact writeCredentialResponse_raises _ _ _

theorem ke2Secrets_raises (hkem : errors .invalidKemInput) (responder : OpaqueResponder)
    (inputs : Ke2Inputs) : (ke2Secrets P responder inputs).Raises errors := by
  refine .bind .getState fun _ => .bind (.lift ?_) fun _ => ?_
  · exact .bind (scalarMult_raises P h.cryptoError _ _) fun _ =>
      .bind (scalarMult_raises P h.cryptoError _ _) fun _ =>
      .bind (scalarMult_raises P h.cryptoError _ _) fun _ =>
      .bind (scalarMult_raises P h.cryptoError _ _) fun _ => .ok _
  · exact .bind (.onWorld (PqKem.encapsulate_raises P hkem _)) fun _ =>
      .bind .modifyOut fun _ => .bind .modifyState fun _ => .pure _

omit h in
theorem ke2ClassicalIkm_raises (secrets : SharedSecrets) :
    (ke2ClassicalIkm secrets).Raises errors :=
  Cmd.Raises.fill (.bind (spliceAt_raises _ _ _) fun _ => .bind (spliceAt_raises _ _ _) fun _ =>
    .bind (spliceAt_raises _ _ _) fun _ => spliceAt_raises _ _ _) _

omit h in
theorem ke2MacInput_raises (kp : ResponderKeyPair) (state : ResponderState) (ke2 : Ke2Message)
    (inputs : Ke2Inputs) : (ke2MacInput kp state ke2 inputs).Raises errors := by
  refine .bind (Cmd.Raises.fill ?_ _) fun _ => slice_raises _ _ _
  iterate 9 refine .bind (Cursor.append_raises _) fun _ => ?_
  exact Cursor.append_raises _

theorem ke2KeySchedule_raises (classicalIkm : Bytes classicalIkmLength)
    (kemSs : Bytes kemSharedSecretLength) (macInput : List UInt8) :
    (ke2KeySchedule P classicalIkm kemSs macInput).Raises errors := by
  refine .bind (.lift (PqKem.combineKeyMaterial_raises P h _ _ _)) fun _ => ?_
  refine .bind .modifyState fun _ => .bind (.zoom (keyDerivationExpand_raises P h _ _)) fun _ => ?_
  refine .bind (.lift (expand_raises P h _ _ _)) fun _ => ?_
  refine .bind (.lift (hmacSha512_raises P h.invalidInput _ _)) fun _ => ?_
  refine .bind .modifyOut fun _ => .bind (.lift (expand_raises P h _ _ _)) fun _ => ?_
  exact .bind (.lift (hmacSha512_raises P h.invalidInput _ _)) fun _ => .modifyState

end Ke2

theorem generateKe2_raises {responder : OpaqueResponder}
    (hevaluator : responder.evaluator.Raises errors) (he : ∀ e ∈ ke2Errors, errors e)
    (ke1Data accountId : List UInt8) (credentials : ResponderCredentials) :
    (generateKe2 P responder ke1Data accountId credentials).Raises errors := by
  have h : Derivation errors := ⟨he _ (by decide), he _ (by decide)⟩
  have hformat : Parsing errors := ⟨he _ (by decide), he _ (by decide)⟩
  have hvalidation : errors .validationError := he _ (by decide)
  refine .bind (.bind ?_ fun _ => .bind (.lift ?_) fun inputs => ?_) fun _ => .pure _
  · exact .bind (.failIf hformat.invalidProtocolMessage) fun _ => .bind .getState fun _ =>
      .bind (.failIf hvalidation) fun _ => .bind (rejectExpired_raises hvalidation) fun _ =>
      .failIf h.invalidInput
  · exact ke2Inputs_raises P hevaluator h hformat hvalidation (he _ (by decide)) _ _ _
  · refine .bind ?_ fun _ => .bind refreshDeadline_raises fun _ =>
      .bind .modifyState fun _ => .pure _
    refine .bind (ke2Ephemeral_raises P h _ _) fun _ => ?_
    refine .bind (ke2CredentialResponse_raises P hevaluator h hformat _ _) fun _ => ?_
    refine .bind (ke2Secrets_raises P h (he _ (by decide)) _ _) fun _ => ?_
    refine .bind (.lift (ke2ClassicalIkm_raises _)) fun _ => .bind .getState fun _ => ?_
    refine .bind .getOut fun _ => .bind (.lift (ke2MacInput_raises _ _ _ _)) fun _ => ?_
    exact .bind (ke2KeySchedule_raises P h _ _ _) fun _ => .pure _

theorem responderFinish_raises (ke3Data : List UInt8) :
    (responderFinish ke3Data).Raises (· ∈ finishErrors) := by
  have hformat : Parsing (· ∈ finishErrors) := ⟨by decide, by decide⟩
  have hphase : .validationError ∈ finishErrors := by decide
  have hauth : .authenticationError ∈ finishErrors := by decide
  refine .bind (.failIf hformat.invalidProtocolMessage) fun _ => .bind .getState fun _ => ?_
  refine .bind (.failIf hphase) fun _ => .bind (rejectExpired_raises hphase) fun _ => ?_
  refine .bind .getState fun _ => .bind (.failIf hphase) fun _ => ?_
  refine .bind (.onErr (.cmdLift (Protocol.ke3_exact.parse_raises hformat _))) fun _ => ?_
  exact .bind (.abortIf hauth) fun _ => .bind .modifyOut fun _ => .modifyState

end AuraOpaque.Relay
