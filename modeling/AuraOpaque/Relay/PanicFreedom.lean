import AuraOpaque.Relay.Lifecycle
import AuraOpaque.Relay.Registration
import AuraOpaque.Core.PanicFreedom

/-!
# The relay does not panic

Nothing is said of the session here; the lengths come from the parsers and from
the types.  Stored credentials are checked before they are used.
-/

namespace AuraOpaque.Relay

open AuraOpaque.Foundation AuraOpaque.Core
open Core.Op (SafeOn)

variable (P : Primitives) {responder : OpaqueResponder}

/-- No condition on the session. -/
abbrev Anything (_ : ResponderState) : Prop := True

theorem fromKeys_ne_panic (privateKey publicKey : List UInt8) :
    ResponderKeyPair.fromKeys P privateKey publicKey ≠ .panic := by
  refine Outcome.failIf_bind_ne_panic fun hlen => ?_
  simp only [Bool.or_eq_true, decide_eq_true_eq, not_or, not_not] at hlen
  refine Outcome.bind_ne_panic (validatePublicKey_ne_panic P _) fun _ _ => ?_
  refine Outcome.okOr_bind_ne_panic fun _ _ => ?_
  refine Outcome.bind_ne_panic (scalarmultBase_ne_panic P _) fun _ _ => ?_
  refine Outcome.failIf_bind_ne_panic fun _ => ?_
  refine Outcome.bind_ne_panic (copyFromSlice_ne_panic hlen.1) fun _ _ => ?_
  exact Outcome.bind_ne_panic (copyFromSlice_ne_panic hlen.2) fun _ _ => Outcome.ok_ne_panic

/-! ## Registration -/

theorem createRegistrationResponse_safe (hevaluator : responder.evaluator.NeverPanics)
    (registrationRequest accountId : List UInt8) :
    Cmd.Safe (fun _ => True)
      (createRegistrationResponse P responder registrationRequest accountId) := by
  refine .bind (.lift (Protocol.parseRegistrationRequest_reads.ne_panic _)) fun payload => ?_
  refine .bind (.failIf _) fun _ => ?_
  refine .bind (.lift (validateRistrettoPoint_ne_panic P _)) fun _ => .bind (.okOr _ _) fun _ => ?_
  refine .bind (.lift (hevaluator.evaluateOprf _ _)) fun evaluated => .zoom ?_ fun _ _ _ => trivial
  exact .bind ((Writes.spliceAt (by simp)).safe (by simp)) fun _ =>
    (Writes.spliceAt (by simp)).safe (by simp)

theorem buildCredentials_safe (registrationRecord : List UInt8) :
    Cmd.Safe (fun _ => True) (buildCredentials P registrationRecord) := by
  refine .bind .get fun _ => .bind (.failIf _) fun _ => ?_
  refine .lift_bind (Protocol.parseRegistrationRecord_reads.ne_panic _) fun view hview => ?_
  have hsized := (Protocol.parseRegistrationRecord_reads.eq_ok_iff.mp hview).1
  simp only [Protocol.Sized, List.map_cons, List.cons.injEq] at hsized
  refine .bind (.lift (validatePublicKey_ne_panic P _)) fun _ => ?_
  refine .bind (.modify fun _ _ => trivial) fun _ => ?_
  refine .bind (.cmdLift (copyFromSlice_ne_panic hsized.1)) fun _ => ?_
  refine .bind (.modify fun _ _ => trivial) fun _ => ?_
  refine .bind (.cmdLift (copyFromSlice_ne_panic hsized.2.2.1)) fun _ => ?_
  exact .bind (.modify fun _ _ => trivial) fun _ => .modify fun _ _ => trivial

/-! ## The second message -/

theorem ctSelectBytes_ne_panic {n : ℕ} (a b : Bytes n) (choice : Bool) :
    ctSelectBytes n a.toList b.toList choice ≠ .panic := by
  rw [ctSelectBytes_toList]
  exact Outcome.ok_ne_panic

theorem fakeCredentials_ne_panic (hevaluator : responder.evaluator.NeverPanics)
    (accountId : List UInt8) : fakeCredentials P responder accountId ≠ .panic := by
  refine Outcome.bind_ne_panic (hevaluator.deriveFakeMaterial _) fun _ _ => ?_
  refine Outcome.bind_ne_panic (deriveKeyPair_ne_panic P _) fun _ _ => ?_
  refine Outcome.bind_ne_panic (expand_ne_panic P _ _ _) fun _ _ => ?_
  exact Outcome.bind_ne_panic (deriveMaskingKey_ne_panic P _) fun _ _ => Outcome.ok_ne_panic

theorem realCredentials_ne_panic (credentials : ResponderCredentials) :
    realCredentials P credentials ≠ .panic := by
  unfold realCredentials
  split
  · refine Outcome.failIf_bind_ne_panic fun _ => ?_
    refine Outcome.bind_ne_panic (validatePublicKey_ne_panic P _) fun _ _ => ?_
    exact Outcome.okOr_bind_ne_panic fun _ _ => Outcome.ok_ne_panic
  · exact Outcome.ok_ne_panic

theorem selectCredentials_ne_panic (hevaluator : responder.evaluator.NeverPanics)
    (accountId : List UInt8) (credentials : ResponderCredentials) :
    selectCredentials P responder accountId credentials ≠ .panic := by
  refine Outcome.bind_ne_panic (fakeCredentials_ne_panic P hevaluator _) fun _ _ => ?_
  refine Outcome.bind_ne_panic (realCredentials_ne_panic P _) fun _ _ => ?_
  refine Outcome.bind_ne_panic (ctSelectBytes_ne_panic _ _ _) fun _ _ => ?_
  refine Outcome.bind_ne_panic (ctSelectBytes_ne_panic _ _ _) fun _ _ => ?_
  exact Outcome.bind_ne_panic (ctSelectBytes_ne_panic _ _ _) fun _ _ => Outcome.ok_ne_panic

theorem ke2Inputs_ne_panic (hevaluator : responder.evaluator.NeverPanics)
    (ke1Data accountId : List UInt8) (credentials : ResponderCredentials) :
    ke2Inputs P responder ke1Data accountId credentials ≠ .panic := by
  refine Outcome.bind_ne_panic (Protocol.parseKe1_reads.ne_panic _) fun _ _ => ?_
  refine Outcome.okOr_bind_ne_panic fun _ _ => ?_
  refine Outcome.bind_ne_panic (selectCredentials_ne_panic P hevaluator _ _) fun _ _ => ?_
  refine Outcome.bind_ne_panic (validateRistrettoPoint_ne_panic P _) fun _ _ => ?_
  refine Outcome.bind_ne_panic (validatePublicKey_ne_panic P _) fun _ _ => ?_
  exact Outcome.bind_ne_panic (validatePublicKey_ne_panic P _) fun _ _ => Outcome.ok_ne_panic

theorem rejectExpired_safe {Out : Type} :
    SafeOn Anything (rejectExpired : Op Out ResponderState Unit) := by
  refine .bind .getState fun s => .bind (.onWorld ?_) fun _ => .abortIf _ fun _ _ => trivial
  rw [ResponderState.isExpired]
  split
  · exact .pure _
  · exact .bind now_safe fun _ => .pure _

theorem writeCredentialResponse_safe {lo hi : ℕ} {source : List UInt8}
    (hhi : hi = lo + source.length) (hfits : hi ≤ credentialResponseLength) :
    SafeOn Anything (writeCredentialResponse lo hi source) :=
  .zoom ((Writes.spliceAt hhi).safe (hhi ▸ hfits)) fun _ _ _ => trivial

theorem ke2CredentialResponse_safe (hevaluator : responder.evaluator.NeverPanics)
    (accountId : List UInt8) (inputs : Ke2Inputs) :
    SafeOn Anything (ke2CredentialResponse P responder accountId inputs) := by
  refine .bind (.okOr _ _) fun _ => .bind (.lift (hevaluator.evaluateOprf _ _)) fun _ => ?_
  refine .bind (writeCredentialResponse_safe (by simp) (by decide)) fun _ =>
    .bind .getOut fun _ => ?_
  refine .bind (.lift (maskCredentialEnvelope_ne_panic P _ _ _ _ _)) fun _ => ?_
  exact writeCredentialResponse_safe (by simp) (by decide)

theorem ke2Secrets_safe (inputs : Ke2Inputs) :
    SafeOn Anything (ke2Secrets P responder inputs) := by
  refine .bind .getState fun _ => .bind (.lift ?_) fun _ => ?_
  · refine Outcome.bind_ne_panic (scalarMult_ne_panic P _ _) fun _ _ => ?_
    refine Outcome.bind_ne_panic (scalarMult_ne_panic P _ _) fun _ _ => ?_
    refine Outcome.bind_ne_panic (scalarMult_ne_panic P _ _) fun _ _ => ?_
    exact Outcome.bind_ne_panic (scalarMult_ne_panic P _ _) fun _ _ => Outcome.ok_ne_panic
  · refine .bind (.onWorld (PqKem.encapsulate_safe P _)) fun _ => .bind .modifyOut fun _ => ?_
    exact .bind (.modifyState fun _ _ => trivial) fun _ => .pure _

theorem ke2KeySchedule_safe (classicalIkm : Bytes classicalIkmLength)
    (kemSs : Bytes kemSharedSecretLength) (macInput : List UInt8) :
    SafeOn Anything (ke2KeySchedule P classicalIkm kemSs macInput) := by
  refine .bind (.lift (PqKem.combineKeyMaterial_ne_panic P _ _ _)) fun _ => ?_
  refine .bind (.modifyState fun _ _ => trivial) fun _ => ?_
  refine .bind (.zoom (keyDerivationExpand_safe P _ _) fun _ _ _ => trivial) fun _ => ?_
  refine .bind (.lift (expand_ne_panic P _ _ _)) fun _ => ?_
  refine .bind (.lift (hmacSha512_ne_panic P _ _)) fun _ => .bind .modifyOut fun _ => ?_
  refine .bind (.lift (expand_ne_panic P _ _ _)) fun _ => ?_
  exact .bind (.lift (hmacSha512_ne_panic P _ _)) fun _ => .modifyState fun _ _ => trivial

/-- The transcript of checked inputs fills its buffer exactly. -/
theorem ke2MacInput_ne_panic {inputs : Ke2Inputs} (hvalid : inputs.Valid P)
    (responder : OpaqueResponder) (state : ResponderState) (ke2 : Ke2Message) :
    ke2MacInput responder.keypair state ke2 inputs ≠ .panic := by
  rw [ke2MacInput_eq (@localTranscript_sized P responder inputs hvalid state ke2) rfl]
  exact Outcome.ok_ne_panic

theorem generateKe2_safe (hevaluator : responder.evaluator.NeverPanics)
    (ke1Data accountId : List UInt8) (credentials : ResponderCredentials) :
    SafeOn Anything (generateKe2 P responder ke1Data accountId credentials) := by
  refine .bind (.bind ?_ fun _ => .lift_bind (ke2Inputs_ne_panic P hevaluator _ _ _)
    fun inputs hinputs => ?_) fun _ => .pure _
  · exact .bind (.failIf _) fun _ => .bind .getState fun _ => .bind (.failIf _) fun _ =>
      .bind rejectExpired_safe fun _ => .failIf _
  · have hvalid := (ke2Inputs_ok P hinputs).1
    refine .bind ?_ fun _ => .bind (.bind (.onWorld now_safe) fun _ =>
      .modifyState fun _ _ => trivial) fun _ => .bind (.modifyState fun _ _ => trivial) fun _ =>
      .pure _
    refine .bind ?_ fun _ => .bind (ke2CredentialResponse_safe P hevaluator _ _) fun _ => ?_
    · refine .bind (.modifyState fun _ _ => trivial) fun _ => ?_
      refine .bind (.onWorld (randomNonzeroScalar_safe P)) fun _ => ?_
      refine .bind (.modifyState fun _ _ => trivial) fun _ => ?_
      refine .bind (.lift (scalarmultBase_ne_panic P _)) fun _ => ?_
      refine .bind (.modifyState fun _ _ => trivial) fun _ => ?_
      exact .bind (.onWorld (randomBytes_safe _)) fun _ => .bind .modifyOut fun _ => .modifyOut
    · refine .bind (ke2Secrets_safe P _) fun _ => ?_
      refine .bind (.lift (by rw [ke2ClassicalIkm_eq]; exact Outcome.ok_ne_panic)) fun _ => ?_
      refine .bind .getState fun _ => .bind .getOut fun _ => ?_
      refine .bind (.lift (ke2MacInput_ne_panic P hvalid _ _ _)) fun _ => ?_
      exact .bind (ke2KeySchedule_safe P _ _ _) fun _ => .pure _

/-! ## The end of the session -/

theorem responderFinish_safe (ke3Data : List UInt8) :
    SafeOn Anything (responderFinish ke3Data) := by
  refine .bind (.failIf _) fun _ => .bind .getState fun _ => .bind (.failIf _) fun _ => ?_
  refine .bind rejectExpired_safe fun _ => .bind .getState fun _ => .bind (.failIf _) fun _ => ?_
  refine .bind (.onErr (.cmdLift (Protocol.parseKe3_reads.ne_panic _)) fun _ _ => trivial)
    fun _ => ?_
  refine .bind (.abortIf _ fun _ _ => trivial) fun _ => .bind .modifyOut fun _ => ?_
  exact .modifyState fun _ _ => trivial

end AuraOpaque.Relay
