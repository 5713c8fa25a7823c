import AuraOpaque.Agent.Lifecycle
import AuraOpaque.Core.Errors

/-!
# The errors that the client's operations report

Each operation has its list.  A request knows the errors of a derivation and a
session in the wrong phase; what comes from the relay can fail in more ways.
-/

namespace AuraOpaque.Agent

open AuraOpaque.Foundation AuraOpaque.Core

/-- The errors that an operation can report. -/
def Operation.errors : Operation → List OpaqueError
  | createRegistrationRequest => [.invalidInput, .cryptoError, .validationError]
  | finalizeRegistration =>
      [.invalidInput, .cryptoError, .validationError, .invalidProtocolMessage, .unsupportedVersion,
        .invalidPublicKey, .authenticationError, .invalidEnvelope]
  | generateKe1 => [.invalidInput, .cryptoError, .validationError]
  | generateKe3 =>
      [.invalidInput, .cryptoError, .validationError, .invalidProtocolMessage, .unsupportedVersion,
        .invalidPublicKey, .authenticationError, .invalidEnvelope, .invalidKemInput]
  | initiatorFinish => [.invalidInput, .validationError]

variable (P : Primitives) {errors : OpaqueError → Prop}

section Steps

variable {Out : Type}

theorem rejectExpired_raises (h : errors .validationError) :
    (rejectExpired : Op Out InitiatorState Unit).Raises errors := by
  refine .bind .getState fun s => .bind (.onWorld ?_) fun _ => .abortIf h
  unfold InitiatorState.isExpired
  split
  · exact .pure _
  · exact .bind now_raises fun _ => .pure _

theorem refreshDeadline_raises : (refreshDeadline : Op Out InitiatorState Unit).Raises errors :=
  .bind (.onWorld now_raises) fun _ => .modifyState

theorem storeSecureKey_raises (secureKey : List UInt8) :
    (storeSecureKey secureKey : Op Out InitiatorState Unit).Raises errors :=
  .bind .modifyState fun _ => .bind .getState fun _ =>
    .bind (.cmdLift (splice_raises _ _ _ _)) fun _ => .bind .modifyState fun _ => .modifyState

theorem readSecureKey_raises :
    (readSecureKey : Op Out InitiatorState (List UInt8)).Raises errors :=
  .bind .getState fun _ => .cmdLift (slice_raises _ _ _)

theorem eraseSecureKey_raises : (eraseSecureKey : Op Out InitiatorState Unit).Raises errors :=
  .modifyState

end Steps

/-! ## The two requests -/

theorem createRegistrationRequest_raises (secureKey : List UInt8) :
    (createRegistrationRequest P secureKey).Raises
      (· ∈ Operation.createRegistrationRequest.errors) := by
  have h : Derivation (· ∈ Operation.createRegistrationRequest.errors) := ⟨by decide, by decide⟩
  refine .bind ?_ fun _ => .bind ?_ fun _ => .bind refreshDeadline_raises fun _ => .modifyState
  · exact .bind (.failIf h.invalidInput) fun _ => .bind .getState fun _ =>
      .bind (.failIf (by decide)) fun _ => rejectExpired_raises (by decide)
  · refine .bind (.onWorld (randomNonzeroScalar_raises P h)) fun _ => .bind .modifyState fun _ => ?_
    refine .bind (.lift (scalarmultBase_raises P h.cryptoError _)) fun _ => ?_
    refine .bind .modifyState fun _ => .bind (storeSecureKey_raises _) fun _ => ?_
    exact .zoom (Oprf.blind_raises P h _)

theorem generateKe1_raises (secureKey accountId : List UInt8) :
    (generateKe1 P secureKey accountId).Raises (· ∈ Operation.generateKe1.errors) := by
  have h : Derivation (· ∈ Operation.generateKe1.errors) := ⟨by decide, by decide⟩
  refine .bind ?_ fun _ => .bind ?_ fun _ => .bind refreshDeadline_raises fun _ => .modifyState
  · exact .bind (.failIf h.invalidInput) fun _ => .bind (.failIf h.invalidInput) fun _ =>
      .bind .getState fun _ => .bind (.failIf (by decide)) fun _ =>
      rejectExpired_raises (by decide)
  · refine .bind (storeSecureKey_raises _) fun _ => .bind .modifyState fun _ => ?_
    refine .bind (.onWorld (randomNonzeroScalar_raises P h)) fun _ => .bind .modifyState fun _ => ?_
    refine .bind (.lift (scalarmultBase_raises P h.cryptoError _)) fun _ => ?_
    refine .bind .modifyState fun _ => .bind .modifyState fun _ => ?_
    refine .bind (.onWorld (PqKem.keypairGenerate_raises P)) fun _ => .bind .modifyState fun _ => ?_
    refine .bind (.onWorld (randomBytes_raises h _)) fun _ => .bind .modifyOut fun _ => ?_
    refine .bind .modifyState fun _ => .bind .modifyOut fun _ => ?_
    exact .bind (.zoom (Oprf.blind_raises P h _)) fun _ => .modifyOut

/-! ## The end of the registration -/

theorem finalizeRegistration_raises (initiator : OpaqueInitiator) (response : List UInt8) :
    (finalizeRegistration P initiator response).Raises
      (· ∈ Operation.finalizeRegistration.errors) := by
  have h : Derivation (· ∈ Operation.finalizeRegistration.errors) := ⟨by decide, by decide⟩
  have hformat : Parsing (· ∈ Operation.finalizeRegistration.errors) := ⟨by decide, by decide⟩
  refine .bind ?_ fun response => .bind ?_ fun _ => .bind eraseSecureKey_raises fun _ =>
    .bind .modifyState fun _ => .modifyState
  · refine .bind (.failIf (by decide)) fun _ => .bind .getState fun _ => ?_
    refine .bind (.failIf (by decide)) fun _ => .bind (rejectExpired_raises (by decide)) fun _ => ?_
    refine .bind (.lift (Protocol.registrationResponse_exact.parse_raises hformat _)) fun _ => ?_
    refine .bind (.lift (validatePublicKey_raises P (by decide) _)) fun _ => ?_
    exact .bind (.abortIf (by decide)) fun _ => .pure _
  · refine .bind .getState fun _ => .bind readSecureKey_raises fun _ => ?_
    refine .bind (.okOr hformat.invalidProtocolMessage) fun _ => ?_
    refine .bind (.lift (Oprf.finalize_raises P h _ _ _)) fun _ => ?_
    refine .bind (.lift (deriveRandomizedPassword_raises P h _ _ _)) fun _ => ?_
    refine .bind eraseSecureKey_raises fun _ => ?_
    refine .bind (.okOr hformat.invalidProtocolMessage) fun _ => ?_
    refine .bind (.zoom (.bind (Envelope.seal_raises P h (by decide) _ _ _ _) fun _ =>
      .bind .get fun _ => .pure _)) fun _ => .bind .modifyState fun _ => ?_
    refine .bind (.lift (deriveMaskingKey_raises P h _)) fun _ => ?_
    exact .bind .modifyOut fun _ => .modifyOut

/-! ## The third message -/

section Login

variable (h : Derivation errors)

include h

theorem recoverKeys_raises (hformat : errors .invalidProtocolMessage)
    (henvelope : errors .invalidEnvelope) (hauth : errors .authenticationError)
    (initiator : OpaqueInitiator) (ke2 : Protocol.Ke2Ref)
    (accountContextHash randomizedPwd : Bytes hashLength)
    (evaluatedElem maskedEnvelopeData : List UInt8) :
    (recoverKeys P initiator ke2 accountContextHash randomizedPwd evaluatedElem
      maskedEnvelopeData).Raises errors := by
  refine .bind (deriveMaskingKey_raises P h _) fun _ => .bind (.okOr hformat) fun _ => ?_
  refine .bind (maskCredentialEnvelope_raises P h _ _ _ _ _) fun _ => ?_
  refine .bind (slice_raises _ _ _) fun _ => .bind (slice_raises _ _ _) fun _ => ?_
  refine .bind (slice_raises _ _ _) fun _ => ?_
  refine .bind (Cmd.Raises.fill (Envelope.openRaw_raises P h henvelope hauth _ _ _ _ _) _)
    fun _ => ?_
  exact .bind (.failIf hauth) fun _ => .ok _

theorem ke3Secrets_raises (hkem : errors .invalidKemInput) (state : InitiatorState)
    (recovered : Envelope.Opened) (respEphPk : Bytes publicKeyLength)
    (kemCiphertext : List UInt8) :
    (ke3Secrets P state recovered respEphPk kemCiphertext).Raises errors :=
  .bind (scalarMult_raises P h.cryptoError _ _) fun _ =>
    .bind (scalarMult_raises P h.cryptoError _ _) fun _ =>
    .bind (scalarMult_raises P h.cryptoError _ _) fun _ =>
    .bind (scalarMult_raises P h.cryptoError _ _) fun _ =>
    .bind (PqKem.decapsulate_raises P hkem _ _) fun _ => .ok _

theorem ke3KeySchedule_raises (hauth : errors .authenticationError)
    (classicalIkm : Bytes classicalIkmLength) (kemSs : Bytes kemSharedSecretLength)
    (macInput responderMac : List UInt8) (randomizedPwd accountContextHash : Bytes hashLength) :
    (ke3KeySchedule P classicalIkm kemSs macInput responderMac randomizedPwd
      accountContextHash).Raises errors := by
  refine .bind (PqKem.combineKeyMaterial_raises P h _ _ _) fun _ => ?_
  refine .bind (expand_raises P h _ _ _) fun _ => .bind (expand_raises P h _ _ _) fun _ => ?_
  refine .bind (hmacSha512_raises P h.invalidInput _ _) fun _ => .bind (.failIf hauth) fun _ => ?_
  refine .bind (deriveClientExportKey_raises P h _ _ _) fun _ => ?_
  refine .bind (expand_raises P h _ _ _) fun _ => ?_
  exact .bind (hmacSha512_raises P h.invalidInput _ _) fun _ => .ok _

end Login

theorem ke3ClassicalIkm_raises (secrets : Handshake.SharedSecrets) :
    (ke3ClassicalIkm secrets).Raises errors := by
  rw [ke3ClassicalIkm_eq]
  exact .ok _

/-- The fields are copied and the written part is read back. -/
theorem ke3MacInput_raises (state : InitiatorState) (respEphPk : Bytes publicKeyLength)
    (ke2 : Protocol.Ke2Ref) (recovered : Envelope.Opened) :
    (ke3MacInput state respEphPk ke2 recovered).Raises errors := by
  refine .bind (Cmd.Raises.fill ?_ _) fun _ => slice_raises _ _ _
  iterate 9 refine .bind (Cursor.append_raises _) fun _ => ?_
  exact Cursor.append_raises _

theorem ke3Derive_raises (initiator : OpaqueInitiator) (ke2Data : List UInt8) :
    (ke3Derive P initiator ke2Data).Raises (· ∈ Operation.generateKe3.errors) := by
  have h : Derivation (· ∈ Operation.generateKe3.errors) := ⟨by decide, by decide⟩
  have hformat : Parsing (· ∈ Operation.generateKe3.errors) := ⟨by decide, by decide⟩
  refine .bind (.lift ?_) fun ke2 => ?_
  · exact .bind (validatePublicKey_raises P (by decide) _) fun _ =>
      .bind (Protocol.ke2_exact.parse_raises hformat _) fun _ =>
      .bind (validatePublicKey_raises P (by decide) _) fun _ => .ok _
  · refine .bind (.cmdLift (slice_raises _ _ _)) fun _ => ?_
    refine .bind (.cmdLift (slice_raises _ _ _)) fun _ => .bind ?_ fun _ => ?_
    · refine .bind .getState fun _ => .bind readSecureKey_raises fun _ => ?_
      refine .bind (.okOr hformat.invalidProtocolMessage) fun _ => ?_
      refine .bind (.lift (Oprf.finalize_raises P h _ _ _)) fun _ => ?_
      refine .bind (.lift (deriveRandomizedPassword_raises P h _ _ _)) fun _ => ?_
      exact .bind eraseSecureKey_raises fun _ => .pure _
    · refine .bind .getState fun _ => ?_
      refine .bind (.lift (recoverKeys_raises P h (by decide) (by decide) (by decide) _ _ _ _ _ _))
        fun _ => ?_
      refine .bind (.okOr hformat.invalidProtocolMessage) fun _ => ?_
      refine .bind (.lift (ke3Secrets_raises P h (by decide) _ _ _ _)) fun _ => ?_
      refine .bind .modifyState fun _ => .bind .modifyState fun _ => ?_
      refine .bind (.lift (ke3ClassicalIkm_raises _)) fun _ => ?_
      refine .bind (.lift (ke3MacInput_raises _ _ _ _)) fun _ => ?_
      exact .bind (.lift (ke3KeySchedule_raises P h (by decide) _ _ _ _ _ _)) fun _ => .pure _

theorem generateKe3_raises (initiator : OpaqueInitiator) (ke2Data : List UInt8) :
    (generateKe3 P initiator ke2Data).Raises (· ∈ Operation.generateKe3.errors) := by
  refine .bind (.bind ?_ fun _ => .onErr (.bind (ke3Derive_raises P initiator ke2Data)
    fun _ => ?_)) fun _ => .pure _
  · exact .bind (.failIf (by decide)) fun _ => .bind .getState fun _ =>
      .bind (.failIf (by decide)) fun _ => .bind (rejectExpired_raises (by decide)) fun _ =>
      .bind .getState fun _ => .failIf (by decide)
  · refine .bind .modifyOut fun _ => .bind .getState fun _ => .bind .modifyState fun _ => ?_
    exact .bind refreshDeadline_raises fun _ => .bind .modifyState fun _ => .pure _

theorem initiatorFinish_raises :
    initiatorFinish.Raises (· ∈ Operation.initiatorFinish.errors) := by
  have hphase : .validationError ∈ Operation.initiatorFinish.errors := by decide
  have hzero : .invalidInput ∈ Operation.initiatorFinish.errors := by decide
  refine .bind .getState fun _ => .bind (.failIf hphase) fun _ => ?_
  refine .bind (.abortIf hzero) fun _ => .bind .modifyOut fun _ => ?_
  exact .bind .modifyState fun _ => .modifyState

end AuraOpaque.Agent
