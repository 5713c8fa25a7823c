import AuraOpaque.Relay.Lifecycle
import AuraOpaque.Relay.Credentials

/-!
# Errors of the relay and the session they leave

A call of `responderFinish` that fails leaves the session as it was or over.
`generateKe2` puts the relay's long-term keys into the session before its last
check has passed; which of its errors come too late is a question about its
arguments and the random draws.
-/

namespace AuraOpaque.Relay

open AuraOpaque.Foundation AuraOpaque.Core

variable (P : Primitives)

open ResponderState (SameStage Erased Terminal)

/-! ## The checks that come after the first write -/

/-- What `generateKe2` finds out only after it has written to the session. -/
structure LateChecksPass (responder : OpaqueResponder) (accountId : List UInt8)
    (inputs : Ke2Inputs) (world : World) : Prop where
  yieldsScalar : World.YieldsScalar P world
  evaluates : ∃ credReq evaluated, inputs.ke1.credentialRequest = credReq.toList ∧
    responder.evaluator.evaluateOprf credReq accountId = .ok evaluated
  maskingKey : inputs.selected.maskingKey ≠ zeros _
  accountContextHash : inputs.accountContextHash ≠ zeros _
  relayPrivateKey : ∃ s, s ≠ 0 ∧ responder.keypair.privateKey = P.group.asBytes s
  kemKey : PqKem.WellFormed P inputs.ke1.pqEphemeralPublicKey

section Late

variable {P} {responder : OpaqueResponder} {accountId : List UInt8} {inputs : Ke2Inputs}
  {world : World}

/-- They pass exactly when there are values for a successful run. -/
theorem lateChecksPass_iff (hvalid : inputs.Valid P) :
    LateChecksPass P responder accountId inputs world ↔
      Nonempty (Ke2Values P responder accountId inputs world) := by
  constructor
  · rintro ⟨hyields, ⟨credReq, evaluated, hcred, hevaluate⟩, hkey, hhash, ⟨s, hs, hrelay⟩,
      ek, bytes, hbytes, hek, hcanonical⟩
    obtain ⟨e, w, he, hdraw⟩ := (World.yieldsScalar_iff P world).mp hyields
    obtain ⟨x, hx, hinitiator⟩ := hvalid.initEphPk
    obtain ⟨a, ha, hclient⟩ := hvalid.selected
    exact ⟨⟨e, he, w, hdraw, credReq, hcred, evaluated, hevaluate,
      isAllZero_toList_eq_false_iff.mpr hkey, isAllZero_toList_eq_false_iff.mpr hhash,
      s, hs, hrelay,
      x, hx, hinitiator, a, ha, hclient, bytes, hbytes, ek, hek, hcanonical⟩⟩
  · rintro ⟨v⟩
    exact
      { yieldsScalar := (World.yieldsScalar_iff P world).mpr
          ⟨v.ephemeral, v.drawn, v.ephemeral_ne_zero, v.draw⟩
        evaluates := ⟨v.credReq, v.evaluated, v.credReq_eq, v.evaluate⟩
        maskingKey := isAllZero_toList_eq_false_iff.mp v.maskingKey_ne_zero
        accountContextHash := isAllZero_toList_eq_false_iff.mp v.accountContextHash_ne_zero
        relayPrivateKey := ⟨v.relay, v.relay_ne_zero, v.relay_eq⟩
        kemKey := ⟨v.kemKey, v.kemKeyBytes, v.kemKeyBytes_eq, v.kemKey_new, v.kemKey_bytes⟩ }

end Late

/-! ## How a call of `generateKe2` goes -/

section Calls

variable {P} {responder : OpaqueResponder} {ke1Data accountId : List UInt8}
  {credentials : ResponderCredentials}

/-- The call gets past the checks that come before the first write. -/
structure Admitted (P : Primitives) (responder : OpaqueResponder) (ke1Data accountId : List UInt8)
    (credentials : ResponderCredentials) (s : ResponderState) (inputs : Ke2Inputs) : Prop where
  phase : s.phase = .created
  nonempty : accountId.isEmpty = false
  inputs : ke2Inputs P responder ke1Data accountId credentials = .ok inputs

theorem generateKe2_run_of_not_admitted {f : Frame Ke2Message ResponderState}
    (h : ∀ inputs, ¬ Admitted P responder ke1Data accountId credentials f.state inputs) :
    ∃ o, o.isOk = false ∧
      (generateKe2 P responder ke1Data accountId credentials).run f = (o, f) := by
  rw [generateKe2, generateKe2Traced]
  rcases ke2Checks_cases ke1Data accountId f with ⟨hphase, -, haccount, hpass⟩ | ⟨e, hfail⟩
  · rcases hinputs : ke2Inputs P responder ke1Data accountId credentials with inputs | e | _
    · exact absurd ⟨hphase, haccount, hinputs⟩ (h inputs)
    · exact ⟨.err e, rfl, by simp only [Cmd.run_bind, hpass, Cmd.run_liftM]⟩
    · exact ⟨.panic, rfl, by simp only [Cmd.run_bind, hpass, Cmd.run_liftM]⟩
  · exact ⟨.err e, rfl, by simp only [Cmd.run_bind, hfail]⟩

theorem Admitted.length {s : ResponderState} {inputs : Ke2Inputs}
    (h : Admitted P responder ke1Data accountId credentials s inputs) :
    ke1Data.length = ke1Length := by
  obtain ⟨hsized, hdata⟩ := Protocol.parseKe1_reads.eq_ok_iff.mp (ke2Inputs_ok P h.inputs).2.1
  rw [hdata, hsized.encode_length]
  rfl

theorem generateKe2_run_of_lateChecksPass {f : Frame Ke2Message ResponderState}
    {inputs : Ke2Inputs} (h : Admitted P responder ke1Data accountId credentials f.state inputs)
    (hlate : LateChecksPass P responder accountId inputs f.world) :
    ∃ f', (generateKe2 P responder ke1Data accountId credentials).run f = (.ok (), f') ∧
      f'.state.phase = .ke2Generated := by
  obtain ⟨v⟩ := (lateChecksPass_iff (ke2Inputs_ok P h.inputs).1).mp hlate
  exact ⟨_, generateKe2_eq_ok_iff.mpr ⟨_, generateKe2Traced_eq_ok_iff.mpr
    ⟨h.phase, h.nonempty, inputs, h.inputs, v, rfl, rfl⟩⟩, rfl⟩

theorem generateKe2_run_of_derive_err {f f' : Frame Ke2Message ResponderState}
    {inputs : Ke2Inputs} {e : OpaqueError}
    (h : Admitted P responder ke1Data accountId credentials f.state inputs)
    (hderive : (ke2Derive P responder accountId inputs).run f = (.err e, f')) :
    (generateKe2 P responder ke1Data accountId credentials).run f = (.err e, f') := by
  simp only [generateKe2, generateKe2Traced, ke2Body, Cmd.run_bind,
    ke2Checks_run h.phase h.length h.nonempty, Cmd.run_liftM, h.inputs, hderive]

/-- An admitted call with a late failure leaves a session that has been written to. -/
theorem generateKe2_run_of_late_failure {f : Frame Ke2Message ResponderState}
    {inputs : Ke2Inputs} (h : Admitted P responder ke1Data accountId credentials f.state inputs)
    (hlate : ¬ LateChecksPass P responder accountId inputs f.world) :
    ∃ o f', (generateKe2 P responder ke1Data accountId credentials).run f = (o, f') ∧
      o.isOk = false ∧ ResponderState.Adopted
        (f.state.adopt responder.keypair inputs.initEphPk) f'.state := by
  have hadopted := @ke2Derive_adopts P responder accountId inputs f
  rcases hderive : (ke2Derive P responder accountId inputs).run f with ⟨r | e | _, g⟩ <;>
    rw [hderive] at hadopted
  · have hvalid := (ke2Inputs_ok P h.inputs).1
    exact absurd ((lateChecksPass_iff hvalid).mpr (ke2Derive_ok hvalid hderive)) hlate
  · exact ⟨.err e, g, generateKe2_run_of_derive_err h hderive, rfl, hadopted⟩
  · refine ⟨.panic, g, ?_, rfl, hadopted⟩
    simp only [generateKe2, generateKe2Traced, ke2Body, Cmd.run_bind,
      ke2Checks_run h.phase h.length h.nonempty, Cmd.run_liftM, h.inputs, hderive]

/-- The encapsulation is the only step after the products that looks at the KEM key. -/
theorem ke2Secrets_run_of_malformed_kem {inputs : Ke2Inputs} (hvalid : inputs.Valid P)
    {f : Frame Ke2Message ResponderState} {e s : P.group.Scalar} (he : e ≠ 0) (hs : s ≠ 0)
    (hephemeral : f.state.responderEphemeralPrivateKey = P.group.asBytes e)
    (hrelay : responder.keypair.privateKey = P.group.asBytes s)
    (hmalformed : ¬ PqKem.WellFormed P inputs.ke1.pqEphemeralPublicKey) :
    (ke2Secrets P responder inputs).run f = (.err .invalidKemInput, f) := by
  obtain ⟨x, hx, hinitiator⟩ := hvalid.initEphPk
  obtain ⟨a, ha, hclient⟩ := hvalid.selected
  have hproducts : ke2Products P responder.keypair f.state.responderEphemeralPrivateKey inputs =
      .ok (P.group.compress (s • a), P.group.compress (s • x), P.group.compress (e • a),
        P.group.compress (e • x)) := by
    simp only [ke2Products, hephemeral, hrelay, hinitiator, hclient, scalarMult_encoded P hs ha,
      scalarMult_encoded P hs hx, scalarMult_encoded P he ha, scalarMult_encoded P he hx,
      Outcome.ok_bind, Outcome.pure_eq]
  simp only [ke2Secrets, Cmd.run_bind, Op.run_getState, Cmd.run_liftM, hproducts,
    Op.run_onWorld, PqKem.encapsulate_run_of_not_wellFormed P hmalformed]

/-- A malformed encapsulation key is found out with the relay's keys already in the session. -/
theorem generateKe2_run_of_malformed_kem {inputs : Ke2Inputs}
    {f : Frame Ke2Message ResponderState}
    (h : Admitted P responder ke1Data accountId credentials f.state inputs)
    (hyields : World.YieldsScalar P f.world) {credReq evaluated : Bytes publicKeyLength}
    (hcred : inputs.ke1.credentialRequest = credReq.toList)
    (hevaluate : responder.evaluator.evaluateOprf credReq accountId = .ok evaluated)
    (hkey : inputs.selected.maskingKey ≠ zeros _) (hhash : inputs.accountContextHash ≠ zeros _)
    {s : P.group.Scalar} (hs : s ≠ 0) (hrelay : responder.keypair.privateKey = P.group.asBytes s)
    (hmalformed : ¬ PqKem.WellFormed P inputs.ke1.pqEphemeralPublicKey) :
    ∃ f', (generateKe2 P responder ke1Data accountId credentials).run f =
        (.err .invalidKemInput, f') ∧
      ResponderState.Adopted (f.state.adopt responder.keypair inputs.initEphPk) f'.state := by
  obtain ⟨e, w, he, hdraw⟩ := (World.yieldsScalar_iff P f.world).mp hyields
  have hadopted := @ke2Derive_adopts P responder accountId inputs f
  have hderive : ∃ f', (ke2Derive P responder accountId inputs).run f =
      (.err .invalidKemInput, f') := by
    rw [ke2Derive, Cmd.run_bind_ok (ke2Ephemeral_run he hdraw),
      Cmd.run_bind_ok (ke2CredentialResponse_run hcred hevaluate
        (isAllZero_toList_eq_false_iff.mpr hkey) (isAllZero_toList_eq_false_iff.mpr hhash))]
    exact ⟨_, Cmd.run_bind_err
      (ke2Secrets_run_of_malformed_kem (ke2Inputs_ok P h.inputs).1 he hs rfl hrelay hmalformed)⟩
  obtain ⟨f', hderive⟩ := hderive
  rw [hderive] at hadopted
  exact ⟨f', generateKe2_run_of_derive_err h hderive, hadopted⟩

end Calls

/-! ## Runs without late failures -/

/-- If the call is a `generateKe2` that is admitted, its late checks pass. -/
def Call.NoLateFailure (s : ResponderState) (w : World) : Call → Prop
  | .generateKe2 responder ke1Data accountId credentials _ =>
      ∀ inputs, Admitted P responder ke1Data accountId credentials s inputs →
        LateChecksPass P responder accountId inputs w
  | _ => True

/-- One call without a late failure, in any world. -/
def TimelyStep (s : ResponderState) (e : Event) (t : ResponderState) : Prop :=
  e.after = t ∧ ∃ w, e.call.exec P s w = (e.outcome, t) ∧ e.call.NoLateFailure P s w

abbrev TimelyRun (createdAt : ℕ) : List Event → ResponderState → Prop :=
  Run (TimelyStep P) (ResponderState.newAt createdAt)

/-- Nothing of the client's is in a session whose KE2 has not been made. -/
def Untouched (s : ResponderState) : Prop :=
  s.phase = .created → s.initiatorPublicKey = zeros _

variable {P} {s t : ResponderState} {e : Event} {w : World}

/-- A KE2 comes only from late checks that pass. -/
theorem noLateFailure_of_ok {call : Call} (hexec : call.exec P s w = (.ok (), t)) :
    call.NoLateFailure P s w := by
  cases call with
  | generateKe2 responder ke1Data accountId credentials ke2 =>
      intro inputs hadmitted
      by_contra hlate
      obtain ⟨o, f', hrun, hfail, -⟩ := @generateKe2_run_of_late_failure P responder ke1Data
        accountId credentials ⟨ke2, s, w⟩ inputs hadmitted hlate
      simp only [Call.exec, Call.onSession, hrun] at hexec
      cases hexec
      cases hfail
  | responderFinish => trivial
  | invalidate => trivial
  | zeroize => trivial

theorem TimelyStep.step (h : TimelyStep P s e t) : Step P s e t := by
  obtain ⟨hafter, w, hexec, -⟩ := h
  exact ⟨hafter, w, hexec⟩

theorem TimelyStep.untouched (h : TimelyStep P s e t) (hs : Untouched s) : Untouched t := by
  obtain ⟨-, w, hexec, htimely⟩ := h
  obtain ⟨call, o, after⟩ := e
  cases call with
  | generateKe2 responder ke1Data accountId credentials ke2 =>
      simp only [Call.exec, Call.onSession] at hexec
      by_cases hadmitted : ∃ inputs,
        Admitted P responder ke1Data accountId credentials s inputs
      · obtain ⟨inputs, hadmitted⟩ := hadmitted
        obtain ⟨f', hrun, hphase⟩ := @generateKe2_run_of_lateChecksPass P responder ke1Data
          accountId credentials ⟨ke2, s, w⟩ inputs hadmitted (htimely inputs hadmitted)
        rw [hrun] at hexec
        cases hexec
        intro hcreated
        rw [hphase] at hcreated
        cases hcreated
      · obtain ⟨o', -, hrun⟩ := @generateKe2_run_of_not_admitted P responder ke1Data accountId
          credentials ⟨ke2, s, w⟩ (not_exists.mp hadmitted)
        rw [hrun] at hexec
        cases hexec
        exact hs
  | responderFinish ke3Data sessionKey =>
      simp only [Call.exec, Call.onSession] at hexec
      rcases responderFinish_cases ke3Data ⟨sessionKey, s, w⟩ with
        ⟨-, -, h⟩ | ⟨e, s', w', h, rfl | ⟨-, hterminal⟩⟩ <;> rw [h] at hexec <;> cases hexec
      · intro hcreated
        cases hcreated
      · exact hs
      · intro hcreated
        rw [hterminal.phase] at hcreated
        cases hcreated
  | invalidate =>
      cases hexec
      intro hcreated
      cases hcreated
  | zeroize =>
      cases hexec
      exact fun _ => rfl

theorem timelyRun_untouched {createdAt : ℕ} {history : List Event}
    (hrun : TimelyRun P createdAt history s) : Untouched s :=
  hrun.stateInvariant (fun _ => rfl) fun _ _ _ hs h => h.untouched hs

/-- From an untouched session the errors without a trace are those that come in time. -/
theorem generateKe2_error_iff {responder : OpaqueResponder} {ke1Data accountId : List UInt8}
    {credentials : ResponderCredentials} {ke2 : Ke2Message} {e : OpaqueError}
    (hs : Untouched s)
    (hexec : (Call.generateKe2 responder ke1Data accountId credentials ke2).exec P s w =
      (.err e, t)) :
    (t = s ∨ t.Terminal) ↔
      (Call.generateKe2 responder ke1Data accountId credentials ke2).NoLateFailure P s w := by
  simp only [Call.exec, Call.onSession] at hexec
  constructor
  · intro hatomic inputs hadmitted
    by_contra hlate
    obtain ⟨o, f', hrun, -, hadopted⟩ := @generateKe2_run_of_late_failure P responder ke1Data
      accountId credentials ⟨ke2, s, w⟩ inputs hadmitted hlate
    rw [hrun] at hexec
    cases hexec
    have hphase : f'.state.phase = .created := hadopted.phase.trans hadmitted.phase
    rcases hatomic with heq | hterminal
    · obtain ⟨x, hx, hinitiator⟩ := (ke2Inputs_ok P hadmitted.inputs).1.initEphPk
      have hkey : f'.state.initiatorPublicKey = P.group.compress x :=
        hadopted.initiatorPublicKey.trans hinitiator
      rw [heq, hs hadmitted.phase, ← P.group.compress_zero] at hkey
      exact hx (P.group.compress_injective hkey).symm
    · rw [hterminal.phase] at hphase
      cases hphase
  · intro htimely
    by_cases hadmitted : ∃ inputs, Admitted P responder ke1Data accountId credentials s inputs
    · obtain ⟨inputs, hadmitted⟩ := hadmitted
      obtain ⟨f', hrun, -⟩ := @generateKe2_run_of_lateChecksPass P responder ke1Data
        accountId credentials ⟨ke2, s, w⟩ inputs hadmitted (htimely inputs hadmitted)
      rw [hrun] at hexec
      cases hexec
    · obtain ⟨o', -, hrun⟩ := @generateKe2_run_of_not_admitted P responder ke1Data accountId
        credentials ⟨ke2, s, w⟩ (not_exists.mp hadmitted)
      rw [hrun] at hexec
      cases hexec
      exact .inl rfl

/--
In a run whose calls all come without a late failure, the next error leaves the
session as it was or terminal exactly when it is not a late one.
-/
theorem relay_error_atomic_iff {createdAt : ℕ} {history : List Event}
    (hrun : TimelyRun P createdAt history s) {call : Call} {e : OpaqueError}
    (hexec : call.exec P s w = (.err e, t)) :
    (t = s ∨ t.Terminal) ↔ call.NoLateFailure P s w := by
  cases call with
  | generateKe2 => exact generateKe2_error_iff (timelyRun_untouched hrun) hexec
  | responderFinish ke3Data sessionKey =>
      refine iff_of_true ?_ trivial
      simp only [Call.exec, Call.onSession] at hexec
      rcases responderFinish_cases ke3Data ⟨sessionKey, s, w⟩ with
        ⟨-, -, h⟩ | ⟨e, s', w', h, rfl | ⟨-, hterminal⟩⟩ <;> rw [h] at hexec <;> cases hexec
      · exact .inl rfl
      · exact .inr hterminal
  | invalidate => cases hexec
  | zeroize => cases hexec

/-! ## A late failure on the small instance -/

/-- A KE1 that is well formed but for its KEM key with coefficients that are not reduced. -/
def malformedKe1 : List UInt8 := sampleKe1 Sample.unreducedKey

theorem not_atomic_of_key (hphase : t.phase = .created) (hkey : t.responderPrivateKey ≠ zeros _) :
    ¬ (t = .newAt 0 ∨ t.Terminal) := by
  rintro (rfl | hterminal)
  · exact hkey rfl
  · rw [hterminal.phase] at hphase
    cases hphase

theorem malformedKe1_fails : ∃ t,
    (Call.generateKe2 sampleResponder malformedKe1 [1] .new .new).exec Sample.primitives
        (.newAt 0) (Sample.world 0) = (.err .invalidKemInput, t) ∧
      t.phase = .created ∧ t.responderPrivateKey = sampleResponder.keypair.privateKey := by
  have hone : (1 : ZMod 5) ≠ 0 := by decide
  obtain ⟨fake, hinputs, hmaskingKey⟩ := sample_inputs Sample.unreducedKey
  have hadmitted : Admitted Sample.primitives sampleResponder malformedKe1 [1] .new
    (.newAt 0) (sampleInputs Sample.unreducedKey fake) := ⟨rfl, rfl, hinputs⟩
  obtain ⟨f', hrun, hadopted⟩ := @generateKe2_run_of_malformed_kem Sample.primitives
    sampleResponder malformedKe1 [1] .new _ ⟨.new, .newAt 0, Sample.world 0⟩ hadmitted
    (Sample.world_neverExhausted 0).yieldsScalar (Sample.encode 31 1) _ rfl
    (sample_evaluates rfl hone) hmaskingKey (Sample.digest_ne_zero _) (1 : ZMod 5) hone rfl
    Sample.not_wellFormed_unreducedKey
  exact ⟨f'.state, by rw [Call.exec, Call.onSession, hrun], hadopted.phase,
    hadopted.responderPrivateKey⟩

/-- A call on an empty KE1 is refused, and on a fresh session it changes nothing. -/
theorem emptyKe1_refused (w : World) :
    (Call.generateKe2 sampleResponder [] [1] .new .new).exec Sample.primitives (.newAt 0) w =
      (.err .invalidProtocolMessage, .newAt 0) := rfl

/--
After a refused call on an empty KE1, another one is atomic and in time, and
one whose KEM key is not reduced is neither.  After a KE2, a wrong tag ends the
session.
-/
theorem relay_error_atomic_iff_sample : ∃ refused answered awaiting t u e,
    TimelyRun Sample.primitives 0 [refused] (.newAt 0) ∧
    (Call.generateKe2 sampleResponder [] [1] .new .new).NoLateFailure Sample.primitives
      (.newAt 0) (Sample.world 0) ∧
    (Call.generateKe2 sampleResponder malformedKe1 [1] .new .new).exec Sample.primitives
      (.newAt 0) (Sample.world 0) = (.err .invalidKemInput, t) ∧
    ¬ (Call.generateKe2 sampleResponder malformedKe1 [1] .new .new).NoLateFailure
      Sample.primitives (.newAt 0) (Sample.world 0) ∧
    TimelyRun Sample.primitives 0 [answered] awaiting ∧ awaiting.phase = .ke2Generated ∧
    (Call.responderFinish (List.replicate ke3Length 0) (zeros _)).exec Sample.primitives awaiting
      (Sample.world 0) = (.err e, u) ∧ (u = awaiting ∨ u.Terminal) := by
  obtain ⟨t, hmalformed, hphase, hkey⟩ := malformedKe1_fails
  obtain ⟨f', hke2, hanswers, hcreatedAt, hsessionKey⟩ := sample_answers 0 0
  have hawaits : AwaitsKe3 f'.state (Sample.world 0) :=
    ⟨hanswers, by rw [hcreatedAt]; rfl, hsessionKey⟩
  have hrefuses : ¬ Accepts f'.state (List.replicate ke3Length 0) := by
    intro haccepts
    cases congrArg List.head? haccepts
  have hinTime : (Call.generateKe2 sampleResponder [] [1] .new .new).NoLateFailure
      Sample.primitives (.newAt 0) (Sample.world 0) :=
    (relay_error_atomic_iff (.nil : TimelyRun Sample.primitives 0 _ _)
      (emptyKe1_refused _)).mp (.inl rfl)
  have hrefused : TimelyStep Sample.primitives (.newAt 0)
      ⟨.generateKe2 sampleResponder [] [1] .new .new, .err .invalidProtocolMessage, .newAt 0⟩
      (.newAt 0) := ⟨rfl, _, emptyKe1_refused _, hinTime⟩
  have hexec : (Call.generateKe2 sampleResponder (sampleKe1 (Sample.encapsulationKey 7).val) [1]
      .new .new).exec Sample.primitives (.newAt 0) (Sample.world 0) = (.ok (), f'.state) := by
    rw [Call.exec, Call.onSession, hke2]
  have hanswered : TimelyStep Sample.primitives (.newAt 0)
      ⟨.generateKe2 sampleResponder (sampleKe1 (Sample.encapsulationKey 7).val) [1] .new .new,
        .ok (), f'.state⟩ f'.state := ⟨rfl, _, hexec, noLateFailure_of_ok hexec⟩
  obtain ⟨e, hfinish⟩ := @responderFinish_run_of_refuses (List.replicate ke3Length 0)
    ⟨zeros _, f'.state, Sample.world 0⟩ rfl hawaits hrefuses
  have hlate := not_atomic_of_key hphase (by rw [hkey]; decide)
  obtain ⟨u, hwrongTag⟩ : ∃ u, (Call.responderFinish (List.replicate ke3Length 0)
      (zeros _)).exec Sample.primitives f'.state (Sample.world 0) = (.err e, u) :=
    ⟨_, by rw [Call.exec, Call.onSession, hfinish]⟩
  exact ⟨_, _, _, t, u, e, .single hrefused, hinTime, hmalformed,
    mt (relay_error_atomic_iff (.single hrefused) hmalformed).mpr hlate,
    .single hanswered, hanswers, hwrongTag,
    (relay_error_atomic_iff (.single hanswered) hwrongTag).mpr trivial⟩

/-- The relay's private key stays in a session that is still in its first phase. -/
theorem relay_key_kept_after_error : ∃ t,
    (Call.generateKe2 sampleResponder malformedKe1 [1] .new .new).exec Sample.primitives
        (.newAt 0) (Sample.world 0) = (.err .invalidKemInput, t) ∧
      t.phase = .created ∧ t.responderPrivateKey ≠ zeros _ ∧ ¬ (t = .newAt 0 ∨ t.Terminal) := by
  obtain ⟨t, hexec, hphase, hkey⟩ := malformedKe1_fails
  have hne : t.responderPrivateKey ≠ zeros _ := by
    rw [hkey]
    decide
  exact ⟨t, hexec, hphase, hne, not_atomic_of_key hphase hne⟩

end AuraOpaque.Relay
