import AuraOpaque.Agent.Lifecycle
import AuraOpaque.Core.PanicFreedom

/-!
# The client does not panic

The stored length of the password bounds the slice that is read with it.  It is
set together with the password, never beyond the buffer, and otherwise only
cleared.
-/

namespace AuraOpaque.Agent

open AuraOpaque.Foundation AuraOpaque.Core
open Core.Op (SafeOn)

variable (P : Primitives)

/-- The stored length stays inside the password buffer. -/
def InitiatorState.Fits (s : InitiatorState) : Prop := s.secureKeyLen ≤ maxSecureKeyLength

theorem InitiatorState.invalidate_fits (s : InitiatorState) : s.invalidate.Fits := Nat.zero_le _

open InitiatorState (Fits)

section Steps

variable {Out : Type}

theorem rejectExpired_safe : SafeOn Fits (rejectExpired : Op Out InitiatorState Unit) := by
  refine .bind .getState fun s => .bind (.onWorld ?_) fun _ =>
    .abortIf _ fun f _ => f.state.invalidate_fits
  rw [InitiatorState.isExpired]
  split
  · exact .pure _
  · exact .bind now_safe fun _ => .pure _

theorem refreshDeadline_safe : SafeOn Fits (refreshDeadline : Op Out InitiatorState Unit) :=
  .bind (.onWorld now_safe) fun _ => .modifyState fun _ hs => hs

theorem storeSecureKey_safe {secureKey : List UInt8} (h : secureKey.length ≤ maxSecureKeyLength) :
    SafeOn Fits (storeSecureKey secureKey : Op Out InitiatorState Unit) := by
  refine .bind (.modifyState fun _ hs => hs) fun _ => .bind .getState fun _ => ?_
  refine .bind (.cmdLift (splice_ne_panic (Nat.zero_le _) h (Nat.sub_zero _).symm)) fun _ => ?_
  exact .bind (.modifyState fun _ hs => hs) fun _ => .modifyState fun _ _ => h

theorem readSecureKey_safe :
    SafeOn Fits (readSecureKey : Op Out InitiatorState (List UInt8)) := by
  refine .bind_of .getState fun s hread => ?_
  obtain ⟨f, _, hfits, hrun⟩ := hread
  cases hrun
  exact .cmdLift (slice_ne_panic (Nat.zero_le _) (by rwa [List.Vector.toList_length]))

theorem eraseSecureKey_safe : SafeOn Fits (eraseSecureKey : Op Out InitiatorState Unit) :=
  .modifyState fun _ _ => Nat.zero_le _

end Steps

/-! ## The two requests -/

theorem createRegistrationRequest_safe (secureKey : List UInt8) :
    SafeOn Fits (createRegistrationRequest P secureKey) := by
  refine .bind_of ?_ fun _ hchecks => .bind ?_ fun _ =>
    .bind refreshDeadline_safe fun _ => .modifyState fun _ hs => hs
  · exact .bind (.failIf _) fun _ => .bind .getState fun _ => .bind (.failIf _) fun _ =>
      rejectExpired_safe
  · obtain ⟨_, _, -, hchecks⟩ := hchecks
    obtain ⟨_, _, hlen, -⟩ := Cmd.run_bind_eq_ok_iff.mp hchecks
    have hlen := Outcome.failIf_eq_ok_iff.mp (Prod.mk.inj hlen).1
    refine .bind (.onWorld (randomNonzeroScalar_safe P)) fun _ => ?_
    refine .bind (.modifyState fun _ hs => hs) fun _ => ?_
    refine .bind (.lift (scalarmultBase_ne_panic P _)) fun _ => ?_
    refine .bind (.modifyState fun _ hs => hs) fun _ => ?_
    exact .bind (storeSecureKey_safe (by omega)) fun _ =>
      .zoom (Oprf.blind_safe P _) fun _ _ hs => hs

theorem generateKe1_safe (secureKey accountId : List UInt8) :
    SafeOn Fits (generateKe1 P secureKey accountId) := by
  refine .bind_of ?_ fun _ hchecks => .bind ?_ fun _ =>
    .bind refreshDeadline_safe fun _ => .modifyState fun _ hs => hs
  · exact .bind (.failIf _) fun _ => .bind (.failIf _) fun _ => .bind .getState fun _ =>
      .bind (.failIf _) fun _ => rejectExpired_safe
  · obtain ⟨_, _, -, hchecks⟩ := hchecks
    obtain ⟨_, _, hlen, -⟩ := Cmd.run_bind_eq_ok_iff.mp hchecks
    have hlen := Outcome.failIf_eq_ok_iff.mp (Prod.mk.inj hlen).1
    refine .bind (storeSecureKey_safe (by omega)) fun _ => ?_
    refine .bind (.modifyState fun _ hs => hs) fun _ => ?_
    refine .bind (.onWorld (randomNonzeroScalar_safe P)) fun _ => ?_
    refine .bind (.modifyState fun _ hs => hs) fun _ => ?_
    refine .bind (.lift (scalarmultBase_ne_panic P _)) fun _ => ?_
    refine .bind (.modifyState fun _ hs => hs) fun _ =>
      .bind (.modifyState fun _ hs => hs) fun _ => ?_
    refine .bind (.onWorld (PqKem.keypairGenerate_safe P)) fun _ => ?_
    refine .bind (.modifyState fun _ hs => hs) fun _ => ?_
    refine .bind (.onWorld (randomBytes_safe _)) fun _ => .bind .modifyOut fun _ => ?_
    refine .bind (.modifyState fun _ hs => hs) fun _ => .bind .modifyOut fun _ => ?_
    exact .bind (.zoom (Oprf.blind_safe P _) fun _ _ hs => hs) fun _ => .modifyOut

/-! ## The end of the registration -/

theorem finalizeChecks_safe (initiator : OpaqueInitiator) (response : List UInt8) :
    SafeOn Fits (finalizeChecks P initiator response) := by
  refine .bind (.failIf _) fun _ => .bind .getState fun _ => .bind (.failIf _) fun _ => ?_
  refine .bind rejectExpired_safe fun _ => ?_
  refine .bind (.lift (Protocol.parseRegistrationResponse_reads.ne_panic _)) fun _ => ?_
  refine .bind (.lift (validatePublicKey_ne_panic P _)) fun _ => ?_
  exact .bind (.abortIf _ fun f _ => f.state.invalidate_fits) fun _ => .pure _

theorem finalizeRegistration_safe (initiator : OpaqueInitiator) (response : List UInt8) :
    SafeOn Fits (finalizeRegistration P initiator response) := by
  refine .bind (finalizeChecks_safe P initiator response) fun view => .bind ?_ fun _ =>
    .bind eraseSecureKey_safe fun _ => .bind (.modifyState fun _ hs => hs) fun _ =>
      .modifyState fun _ hs => hs
  refine .bind .getState fun _ => .bind readSecureKey_safe fun _ => .bind (.okOr _ _) fun _ => ?_
  refine .bind (.lift (Oprf.finalize_ne_panic P _ _ _)) fun _ => ?_
  refine .bind (.lift (deriveRandomizedPassword_ne_panic P _ _ _)) fun _ => ?_
  refine .bind eraseSecureKey_safe fun _ => .bind (.okOr _ _) fun _ => ?_
  refine .bind (.zoom (.bind (Envelope.seal_safe P _ _ _ _) fun _ => .bind .get fun _ => .pure _)
    fun _ _ hs => hs) fun _ => ?_
  refine .bind (.modifyState fun _ hs => hs) fun _ => ?_
  refine .bind (.lift (deriveMaskingKey_ne_panic P _)) fun _ => ?_
  exact .bind .modifyOut fun _ => .modifyOut

/-! ## The third message -/

theorem recoverKeys_ne_panic (initiator : OpaqueInitiator) (ke2 : Protocol.Ke2Ref)
    (accountContextHash randomizedPwd : Bytes hashLength)
    (evaluatedElem maskedEnvelopeData : List UInt8) :
    recoverKeys P initiator ke2 accountContextHash randomizedPwd evaluatedElem maskedEnvelopeData ≠
      .panic := by
  refine Outcome.bind_ne_panic (deriveMaskingKey_ne_panic P _) fun _ _ => ?_
  refine Outcome.okOr_bind_ne_panic fun _ _ => ?_
  refine Outcome.bind_ne_panic (maskCredentialEnvelope_ne_panic P _ _ _ _ _) fun _ _ => ?_
  refine Outcome.bind_ne_panic (slice_ne_panic (by decide) (by simp)) fun _ _ => ?_
  refine Outcome.bind_ne_panic (slice_ne_panic (by decide) (by simp)) fun _ _ => ?_
  refine Outcome.bind_ne_panic (slice_ne_panic (by decide) (by simp)) fun _ _ => ?_
  refine Outcome.bind_ne_panic (Cmd.Safe.fill_ne_panic (Envelope.openRaw_safe P _ _ _ _ _) _)
    fun _ _ => ?_
  exact Outcome.failIf_bind_ne_panic fun _ => Outcome.ok_ne_panic

theorem ke3Secrets_ne_panic (state : InitiatorState) (recovered : Envelope.Opened)
    (respEphPk : Bytes publicKeyLength) (kemCiphertext : List UInt8) :
    ke3Secrets P state recovered respEphPk kemCiphertext ≠ .panic := by
  refine Outcome.bind_ne_panic (scalarMult_ne_panic P _ _) fun _ _ => ?_
  refine Outcome.bind_ne_panic (scalarMult_ne_panic P _ _) fun _ _ => ?_
  refine Outcome.bind_ne_panic (scalarMult_ne_panic P _ _) fun _ _ => ?_
  refine Outcome.bind_ne_panic (scalarMult_ne_panic P _ _) fun _ _ => ?_
  exact Outcome.bind_ne_panic (PqKem.decapsulate_ne_panic P _ _) fun _ _ => Outcome.ok_ne_panic

theorem ke3KeySchedule_ne_panic (classicalIkm : Bytes classicalIkmLength)
    (kemSs : Bytes kemSharedSecretLength) (macInput responderMac : List UInt8)
    (randomizedPwd accountContextHash : Bytes hashLength) :
    ke3KeySchedule P classicalIkm kemSs macInput responderMac randomizedPwd accountContextHash ≠
      .panic := by
  refine Outcome.bind_ne_panic (PqKem.combineKeyMaterial_ne_panic P _ _ _) fun _ _ => ?_
  refine Outcome.bind_ne_panic (expand_ne_panic P _ _ _) fun _ _ => ?_
  refine Outcome.bind_ne_panic (expand_ne_panic P _ _ _) fun _ _ => ?_
  refine Outcome.bind_ne_panic (hmacSha512_ne_panic P _ _) fun _ _ => ?_
  refine Outcome.failIf_bind_ne_panic fun _ => ?_
  refine Outcome.bind_ne_panic (deriveClientExportKey_ne_panic P _ _ _) fun _ _ => ?_
  refine Outcome.bind_ne_panic (expand_ne_panic P _ _ _) fun _ _ => ?_
  exact Outcome.bind_ne_panic (hmacSha512_ne_panic P _ _) fun _ _ => Outcome.ok_ne_panic

theorem readKe2_ne_panic (initiator : OpaqueInitiator) (ke2Data : List UInt8) :
    readKe2 P initiator ke2Data ≠ .panic := by
  refine Outcome.bind_ne_panic (validatePublicKey_ne_panic P _) fun _ _ => ?_
  refine Outcome.bind_ne_panic (Protocol.parseKe2_reads.ne_panic _) fun _ _ => ?_
  exact Outcome.bind_ne_panic (validatePublicKey_ne_panic P _) fun _ _ => Outcome.ok_ne_panic

theorem ke3Derive_safe (initiator : OpaqueInitiator) (ke2Data : List UInt8) :
    SafeOn Fits (ke3Derive P initiator ke2Data) := by
  refine .lift_bind (readKe2_ne_panic P initiator ke2Data) fun ke2 hread => ?_
  have hsized : Protocol.Sized Protocol.ke2FieldLengths ke2.fields :=
    (Protocol.parseKe2_reads.eq_ok_iff.mp (readKe2_ok P hread).1).1
  have hresponse : ke2.credentialResponse.length = credentialResponseLength := by
    simp only [Protocol.Sized, List.map_cons, List.cons.injEq] at hsized
    exact hsized.2.2.1
  refine .bind (.cmdLift (slice_ne_panic (Nat.zero_le _) (by rw [hresponse]; decide))) fun _ => ?_
  refine .bind (.cmdLift (slice_ne_panic (by rw [hresponse]; decide) le_rfl)) fun _ => ?_
  refine .bind (.bind .getState fun _ => .bind readSecureKey_safe fun _ =>
    .bind (.okOr _ _) fun _ => .bind (.lift (Oprf.finalize_ne_panic P _ _ _)) fun _ =>
    .bind (.lift (deriveRandomizedPassword_ne_panic P _ _ _)) fun _ =>
    .bind eraseSecureKey_safe fun _ => .pure _) fun _ => ?_
  refine .bind .getState fun _ => .bind (.lift (recoverKeys_ne_panic P _ _ _ _ _ _)) fun _ => ?_
  refine .bind (.okOr _ _) fun _ => .bind (.lift (ke3Secrets_ne_panic P _ _ _ _)) fun secrets => ?_
  refine .bind (.modifyState fun _ hs => hs) fun _ =>
    .bind (.modifyState fun _ hs => hs) fun _ => ?_
  refine .bind (.lift (by rw [ke3ClassicalIkm_eq]; exact Outcome.ok_ne_panic)) fun _ => ?_
  refine .bind (.lift ?_) fun _ => .bind (.lift (ke3KeySchedule_ne_panic P _ _ _ _ _ _)) fun _ =>
    .pure _
  -- the ten fields fill the buffer exactly
  rw [ke3MacInput_eq hsized]
  exact Outcome.ok_ne_panic

theorem generateKe3_safe (initiator : OpaqueInitiator) (ke2Data : List UInt8) :
    SafeOn Fits (generateKe3 P initiator ke2Data) := by
  refine .bind (.bind ?_ fun _ => .onErr (.bind (ke3Derive_safe P initiator ke2Data) fun _ => ?_)
    fun f _ => f.state.invalidate_fits) fun _ => .pure _
  · exact .bind (.failIf _) fun _ => .bind .getState fun _ => .bind (.failIf _) fun _ =>
      .bind rejectExpired_safe fun _ => .bind .getState fun _ => .failIf _
  · refine .bind .modifyOut fun _ => .bind .getState fun _ => ?_
    exact .bind (.modifyState fun _ hs => hs) fun _ => .bind refreshDeadline_safe fun _ =>
      .bind (.modifyState fun _ hs => hs) fun _ => .pure _

theorem initiatorFinish_safe : SafeOn Fits initiatorFinish := by
  refine .bind .getState fun _ => .bind (.failIf _) fun _ => ?_
  refine .bind (.abortIf _ fun f _ => f.state.invalidate_fits) fun _ => .bind .modifyOut fun _ => ?_
  exact .bind (.modifyState fun _ _ => Nat.zero_le _) fun _ => .modifyState fun _ hs => hs

/-! ## Runs -/

variable {P} {s t : InitiatorState}

theorem Call.exec_safe (call : Call) (hs : s.Fits) (w : World) :
    (call.exec P s w).1 ≠ .panic ∧ (call.exec P s w).2.Fits := by
  cases call with
  | createRegistrationRequest secureKey request =>
      exact createRegistrationRequest_safe P secureKey ⟨request, s, w⟩ hs
  | finalizeRegistration initiator response record =>
      exact finalizeRegistration_safe P initiator response ⟨record, s, w⟩ hs
  | generateKe1 secureKey accountId ke1 =>
      exact generateKe1_safe P secureKey accountId ⟨ke1, s, w⟩ hs
  | generateKe3 initiator ke2Data ke3 =>
      exact generateKe3_safe P initiator ke2Data ⟨ke3, s, w⟩ hs
  | initiatorFinish output => exact initiatorFinish_safe ⟨output, s, w⟩ hs
  | invalidate => exact ⟨Outcome.ok_ne_panic, Nat.zero_le _⟩
  | zeroize => exact ⟨Outcome.ok_ne_panic, Nat.zero_le _⟩

theorem run_fits {createdAt : ℕ} {history : List Event} (hrun : AgentRun P createdAt history s) :
    s.Fits := by
  refine Run.stateInvariant hrun (Nat.zero_le _) ?_
  rintro s e t hs ⟨w, hexec⟩
  have hsafe := @Call.exec_safe P s e.call hs w
  rw [hexec] at hsafe
  exact hsafe.2

end AuraOpaque.Agent
