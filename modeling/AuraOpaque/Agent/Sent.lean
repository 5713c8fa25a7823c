import AuraOpaque.Agent.Refusals
import AuraOpaque.Agent.Requests

/-!
# What a client has sent, sealed and opened

A request that went out holds the password's point under a blind, and the
session keeps the blind and the password until the answer comes.  Both answers
lead to one call of the cipher, under a key made from the password.
-/

namespace AuraOpaque.Agent

open AuraOpaque.Foundation AuraOpaque.Core
open Cmd (Returns)

variable (P : Primitives)

/-- A blinded password on the wire, and the session that can unblind the answer. -/
structure Blinded (password : List UInt8) (request : Bytes publicKeyLength)
    (s : InitiatorState) where
  admissible : Admissible P password
  blind : P.group.Scalar
  blind_ne_zero : blind ≠ 0
  request_eq : request = P.group.compress (blind • Oprf.inputPoint P password)
  blindScalar : s.obliviousPrfBlindScalar = P.group.asBytes blind
  holds : s.HoldsPassword password

section Steps

variable {Out : Type} {password : List UInt8}

theorem storeSecureKey_returns (hmax : password.length ≤ maxSecureKeyLength) :
    Returns (fun _ => True) (storeSecureKey password : Op Out InitiatorState Unit)
      fun _ f => f.state.HoldsPassword password := by
  intro f _ f' _ h
  obtain ⟨buffer, hbuffer, hrun⟩ := storeSecureKey_run hmax f
  rw [hrun] at h
  cases h
  exact ⟨rfl, hbuffer⟩

theorem blind_returns (hmax : password.length ≤ maxSecureKeyLength)
    {read : Frame Out InitiatorState → Oprf.BlindFrame}
    {write : Oprf.BlindFrame → Frame Out InitiatorState → Frame Out InitiatorState}
    {request : Out → Bytes publicKeyLength}
    (hrequest : ∀ b f, request (write b f).out = b.blindedElement)
    (hscalar : ∀ b f, (write b f).state.obliviousPrfBlindScalar = b.blindScalar)
    (hholds : ∀ b f, f.state.HoldsPassword password → (write b f).state.HoldsPassword password) :
    Returns (fun f => f.state.HoldsPassword password)
      (Cmd.zoom read write (Oprf.blind P password))
      fun _ f => Nonempty (Blinded P password (request f.out) f.state) := by
  intro f _ f' hf h
  rw [Cmd.run_zoom, Prod.mk.injEq] at h
  obtain ⟨hblind, rfl⟩ := h
  obtain ⟨hnonempty, hpoint, r, hr, hblinded, hblind⟩ := Oprf.blind_ok P (Prod.ext hblind rfl)
  exact ⟨⟨⟨hnonempty, hmax, hpoint⟩, r, hr, (hrequest _ _).trans hblinded,
    (hscalar _ _).trans hblind, hholds _ _ hf⟩⟩

end Steps

/-! ## The two requests -/

section Requests

variable {password accountId : List UInt8}

theorem registrationRequestBody_returns (hmax : password.length ≤ maxSecureKeyLength) :
    Returns (fun _ => True) (registrationRequestBody P password)
      fun _ f => Nonempty (Blinded P password f.out.data f.state) := by
  refine .step (fun _ _ => trivial) fun _ => .step (fun _ _ => trivial) fun _ => ?_
  refine .step (fun _ _ => trivial) fun _ => .step (fun _ _ => trivial) fun _ => ?_
  refine .bind (storeSecureKey_returns hmax) fun _ => ?_
  exact blind_returns P hmax (fun _ _ => rfl) (fun _ _ => rfl) fun _ _ hf => hf

theorem createRegistrationRequest_returns :
    Returns (fun _ => True) (createRegistrationRequest P password)
      fun _ f => Nonempty (Blinded P password f.out.data f.state) := by
  simp only [createRegistrationRequest, registrationRequestChecks, Cmd.bind_assoc]
  refine .bind (.failIf _) fun _ => .given fun hrange => ?_
  have hmax : password.length ≤ maxSecureKeyLength := not_lt.mp fun hlong => hrange (.inr hlong)
  refine .step (fun _ _ => trivial) fun _ => .step (fun _ _ => trivial) fun _ => ?_
  refine .step (fun _ _ => trivial) fun _ =>
    .bind (registrationRequestBody_returns P hmax) fun _ => ?_
  -- the deadline and the phase are not part of what is known
  refine .step ?_ fun _ => .of_preserves ?_
  · rintro f ⟨b⟩
    exact ⟨{ b with }⟩
  · rintro f ⟨b⟩
    exact ⟨{ b with }⟩

theorem ke1Body_returns (hmax : password.length ≤ maxSecureKeyLength) :
    Returns (fun _ => True) (ke1Body P password accountId)
      fun _ f => Nonempty (Blinded P password f.out.credentialRequest f.state) := by
  refine .bind (storeSecureKey_returns hmax) fun _ => .step (fun _ hs => hs) fun _ => ?_
  refine .step (fun _ hs => hs) fun _ => .step (fun _ hs => hs) fun _ => ?_
  refine .step (fun _ hs => hs) fun _ => .step (fun _ hs => hs) fun _ => ?_
  refine .step (fun _ hs => hs) fun _ => .step (fun _ hs => hs) fun _ => ?_
  refine .step (fun _ hs => hs) fun _ => .step (fun _ hs => hs) fun _ => ?_
  refine .step (fun _ hs => hs) fun _ => .step (fun _ hs => hs) fun _ => ?_
  refine .step (fun _ hs => hs) fun _ => .bind ?_ fun _ => .of_preserves ?_
  · exact blind_returns P hmax (fun _ _ => rfl) (fun _ _ => rfl) fun _ _ hf => hf
  · rintro f ⟨b⟩
    exact ⟨{ b with }⟩

theorem generateKe1_returns :
    Returns (fun _ => True) (generateKe1 P password accountId)
      fun _ f => Nonempty (Blinded P password f.out.credentialRequest f.state) ∧
        accountId.isEmpty = false := by
  simp only [generateKe1, ke1Checks, Cmd.bind_assoc]
  refine .bind (.failIf _) fun _ => .given fun hrange => ?_
  have hmax : password.length ≤ maxSecureKeyLength := not_lt.mp fun hlong => hrange (.inr hlong)
  refine .bind (.failIf _) fun _ => .given fun haccount => ?_
  refine .step (fun _ _ => trivial) fun _ => .step (fun _ _ => trivial) fun _ => ?_
  refine .step (fun _ _ => trivial) fun _ => .bind (ke1Body_returns P hmax) fun _ => ?_
  refine .step ?_ fun _ => ?_
  · rintro f ⟨b⟩
    exact ⟨{ b with }⟩
  · rintro f _ f' ⟨b⟩ h
    cases h
    exact ⟨⟨{ b with }⟩, by simpa using haccount⟩

end Requests

/-! ## The envelope -/

section Envelopes

variable {P}

theorem recoverKeys_ok {initiator : OpaqueInitiator} {ke2 : Protocol.Ke2Ref}
    {accountContextHash randomizedPwd : Bytes hashLength} {evaluatedElem maskedData : List UInt8}
    {recovered : Envelope.Opened}
    (h : recoverKeys P initiator ke2 accountContextHash randomizedPwd evaluatedElem maskedData =
      .ok recovered) :
    ∃ masked : Bytes envelopeLength, maskedData = masked.toList ∧
      Envelope.Decrypts P (Envelope.envelopeKey P initiator.responderPublicKey randomizedPwd.toList)
        (xorBytes masked (credentialPad P (maskingKeyOf P randomizedPwd) ke2.responderNonce
          evaluatedElem accountContextHash)) := by
  obtain ⟨masked, rfl⟩ : ∃ masked : Bytes envelopeLength, maskedData = masked.toList := by
    obtain ⟨_, -, h⟩ := Outcome.bind_eq_ok_iff.mp h
    obtain ⟨masked, hmasked, -⟩ := Outcome.bind_eq_ok_iff.mp h
    exact ⟨masked, tryInto_eq_some_iff.mp (Outcome.okOr_eq_ok_iff.mp hmasked)⟩
  refine ⟨masked, rfl, ?_⟩
  rcases maskCredentialEnvelope_cases P (maskingKeyOf P randomizedPwd) ke2.responderNonce
    evaluatedElem accountContextHash masked with ⟨hkey, hlen, hlen', hhash⟩ | herr
  · obtain ⟨nonce, ciphertext, authTag, hjoined⟩ := Envelope.exists_joined
      (xorBytes masked (credentialPad P (maskingKeyOf P randomizedPwd) ke2.responderNonce
        evaluatedElem accountContextHash))
    rw [recoverKeys_of_joined P hkey hlen hlen' hhash hjoined] at h
    obtain ⟨opened, hopen, -⟩ := Outcome.bind_eq_ok_iff.mp h
    obtain ⟨_, _, _, plaintext, hnonce, hciphertext, hauthTag, hdecrypt⟩ :=
      Envelope.openRaw_ok P (Cmd.fill_eq_ok_iff.mp hopen)
    obtain rfl := List.Vector.toList_injective hnonce
    obtain rfl := List.Vector.toList_injective hciphertext
    obtain rfl := List.Vector.toList_injective hauthTag
    exact ⟨_, _, _, plaintext, hjoined, hdecrypt⟩
  · rw [recoverKeys, deriveMaskingKey_of, Outcome.ok_bind, tryInto_toList, Outcome.okOr_some,
      Outcome.ok_bind, herr] at h
    cases h

theorem sealEnvelope_ok {randomizedPwd : List UInt8} {rpk : Bytes publicKeyLength}
    {initiatorPrivateKey : Bytes privateKeyLength} {initiatorPublicKey : Bytes publicKeyLength}
    {env : Envelope} {f f' : Frame RegistrationRecord InitiatorState}
    (h : (sealEnvelope P randomizedPwd rpk initiatorPrivateKey initiatorPublicKey).run f =
      (.ok env, f')) :
    ∃ envelope : Bytes envelopeLength,
      envelope.toList = env.nonce ++ (env.ciphertext ++ env.authTag) ∧
      Envelope.Encrypts P (Envelope.envelopeKey P rpk randomizedPwd) envelope := by
  rw [sealEnvelope, Cmd.run_zoom, Prod.mk.injEq] at h
  obtain ⟨_, g, hseal, hread⟩ := Cmd.run_bind_eq_ok_iff.mp (Prod.ext h.1 rfl)
  obtain ⟨_, _, hget, hpure⟩ := Cmd.run_bind_eq_ok_iff.mp hread
  cases hget
  cases hpure
  exact Envelope.seal_ok P hseal

theorem finalizeChecks_ok {initiator : OpaqueInitiator} {data : List UInt8}
    {response : Protocol.RegistrationResponseRef} {f f' : Frame RegistrationRecord InitiatorState}
    (h : (finalizeChecks P initiator data).run f = (.ok response, f')) :
    Protocol.parseRegistrationResponse data = .ok response ∧
      response.responderPublicKey = initiator.responderPublicKey.toList ∧ f'.state = f.state := by
  rcases finalizeChecks_cases initiator data f with
    ⟨response', -, hparse, hkey, hrun⟩ | ⟨e, w, hrun, -⟩ | ⟨e, hrun, -⟩ <;>
    rw [hrun] at h <;> cases h
  exact ⟨hparse, hkey, rfl⟩

/-- What a registration stores under the password it holds. -/
theorem finalizeBody_ok {response : Protocol.RegistrationResponseRef} {password : List UInt8}
    {u : Unit} {f f' : Frame RegistrationRecord InitiatorState}
    (hholds : f.state.HoldsPassword password)
    (h : (finalizeBody P response).run f = (.ok u, f')) :
    ∃ (evaluated rpk : Bytes publicKeyLength) (oprfOutput randomizedPwd : Bytes hashLength)
      (envelope : Bytes envelopeLength),
      response.evaluatedElement = evaluated.toList ∧ response.responderPublicKey = rpk.toList ∧
      Oprf.finalize P password f.state.obliviousPrfBlindScalar evaluated = .ok oprfOutput ∧
      deriveRandomizedPassword P oprfOutput.toList password hashLength = .ok randomizedPwd ∧
      f'.out.envelope = (maskingKeyOf P randomizedPwd).toList ++ envelope.toList ∧
      Envelope.Encrypts P (Envelope.envelopeKey P rpk randomizedPwd.toList) envelope := by
  simp only [finalizeBody, eraseSecureKey, Cmd.run_bind_eq_ok_iff, Op.run_getState, Cmd.run_okOr,
    Cmd.run_liftM, Op.run_modifyState, Op.run_modifyOut, deriveMaskingKey_of,
    Prod.mk.injEq, Outcome.okOr_eq_ok_iff, Outcome.ok.injEq] at h
  obtain ⟨_, _, ⟨rfl, rfl⟩, stored, _, hread, evaluated, _, ⟨hevaluated, rfl⟩, oprfOutput, _,
    ⟨hfinalize, rfl⟩, randomizedPwd, _, ⟨hstretch, rfl⟩, _, _, ⟨-, rfl⟩, rpk, _, ⟨hrpk, rfl⟩,
    env, f₁, hseal, _, _, ⟨-, rfl⟩, _, _, ⟨rfl, rfl⟩, _, _, ⟨-, rfl⟩, -, rfl⟩ := h
  obtain ⟨hstored, rfl⟩ := readSecureKey_ok hread
  obtain rfl : stored = password := hstored.2.symm.trans hholds.2
  obtain ⟨envelope, henvelope, hencrypts⟩ := sealEnvelope_ok hseal
  exact ⟨evaluated, rpk, oprfOutput, randomizedPwd, envelope, tryInto_eq_some_iff.mp hevaluated,
    tryInto_eq_some_iff.mp hrpk, hfinalize, hstretch, by simp [henvelope], hencrypts⟩

theorem finalizeRegistration_ok {initiator : OpaqueInitiator} {data password : List UInt8}
    {u : Unit} {f f' : Frame RegistrationRecord InitiatorState}
    (hholds : f.state.HoldsPassword password)
    (h : (finalizeRegistration P initiator data).run f = (.ok u, f')) :
    ∃ (evaluated : Bytes publicKeyLength) (oprfOutput randomizedPwd : Bytes hashLength)
      (envelope : Bytes envelopeLength),
      Protocol.parseRegistrationResponse data =
        .ok ⟨evaluated.toList, initiator.responderPublicKey.toList⟩ ∧
      Oprf.finalize P password f.state.obliviousPrfBlindScalar evaluated = .ok oprfOutput ∧
      deriveRandomizedPassword P oprfOutput.toList password hashLength = .ok randomizedPwd ∧
      f'.out.envelope = (maskingKeyOf P randomizedPwd).toList ++ envelope.toList ∧
      Envelope.Encrypts P
        (Envelope.envelopeKey P initiator.responderPublicKey randomizedPwd.toList) envelope := by
  obtain ⟨⟨evaluatedElement, responderPublicKey⟩, f₁, hchecks, hrest⟩ :=
    Cmd.run_bind_eq_ok_iff.mp h
  obtain ⟨hparse, hkey, hstate⟩ := finalizeChecks_ok hchecks
  obtain ⟨_, f₂, hbody, herase⟩ := Cmd.run_bind_eq_ok_iff.mp hrest
  rw [← hstate] at hholds ⊢
  obtain ⟨evaluated, rpk, oprfOutput, randomizedPwd, envelope, rfl, hrpk, hfinalize, hstretch,
    hout, hencrypts⟩ := finalizeBody_ok hholds hbody
  obtain rfl : rpk = initiator.responderPublicKey :=
    List.Vector.toList_injective (hrpk.symm.trans hkey)
  cases hrpk
  -- what follows only erases
  cases herase
  exact ⟨evaluated, oprfOutput, randomizedPwd, envelope, hparse, hfinalize, hstretch, hout,
    hencrypts⟩

end Envelopes

end AuraOpaque.Agent
