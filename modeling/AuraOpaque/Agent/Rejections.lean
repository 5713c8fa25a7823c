import AuraOpaque.Agent.Sent
import AuraOpaque.Core.PanicFreedom

/-!
# Why an answer is rejected

Each step of `generate_ke3` has errors of its own, and the codes of most of them
are the same.  The exceptions come before the envelope has opened to a key: from
there on every error has the shared code.
-/

namespace AuraOpaque.Agent

open AuraOpaque.Foundation AuraOpaque.Core
open Handshake (SharedSecrets Transcript)

variable (P : Primitives)

/-! ## The session that waits -/

/-- What a session that has sent its KE1 holds. -/
structure PendingKe2 (s : InitiatorState) : Prop where
  secrets : ∃ password request, Nonempty (Blinded P password request s)
  ephemeral : ∃ x, x ≠ 0 ∧ s.initiatorEphemeralPrivateKey = P.group.asBytes x

section Ke1

variable {password accountId : List UInt8}

theorem ke1Body_ephemeral :
    Cmd.Returns (fun _ => True) (ke1Body P password accountId)
      fun _ f => ∃ x, x ≠ 0 ∧ f.state.initiatorEphemeralPrivateKey = P.group.asBytes x := by
  refine .step (fun _ _ => trivial) fun _ => .step (fun _ _ => trivial) fun _ => ?_
  refine .step (fun _ _ => trivial) fun key => ?_
  -- the key that has just been stored is the one that is multiplied
  refine @Cmd.Returns.bind _ _ _ _ _ _ _
    (fun _ f => f.state.initiatorEphemeralPrivateKey = key) _ ?_ fun _ => ?_
  · rintro f _ f' - h
    cases h
    rfl
  refine @Cmd.Returns.bind _ _ _ _ _ _ _
    (fun _ f => ∃ x, x ≠ 0 ∧ f.state.initiatorEphemeralPrivateKey = P.group.asBytes x) _ ?_
    fun _ => ?_
  · rintro f _ f' hf h
    rw [Cmd.run_liftM, Prod.mk.injEq] at h
    obtain ⟨hmul, rfl⟩ := h
    rcases scalarmultBase_cases P key with ⟨x, hx, hkey, -⟩ | ⟨-, herr⟩
    · exact ⟨x, hx, hf.trans hkey⟩
    · rw [herr] at hmul
      cases hmul
  refine .step (fun _ hf => hf) fun _ => .step (fun _ hf => hf) fun _ => ?_
  refine .step (fun _ hf => hf) fun _ => .step (fun _ hf => hf) fun _ => ?_
  refine .step (fun _ hf => hf) fun _ => .step (fun _ hf => hf) fun _ => ?_
  refine .step (fun _ hf => hf) fun _ => .step (fun _ hf => hf) fun _ => ?_
  exact .step (fun _ hf => hf) fun _ => .of_preserves fun _ hf => hf

theorem generateKe1_ephemeral :
    Cmd.Returns (fun _ => True) (generateKe1 P password accountId)
      fun _ f => ∃ x, x ≠ 0 ∧ f.state.initiatorEphemeralPrivateKey = P.group.asBytes x := by
  refine .step (fun _ _ => trivial) fun _ => .bind (ke1Body_ephemeral P) fun _ => ?_
  exact .step (fun _ hf => hf) fun _ => .of_preserves fun _ hf => hf

theorem generateKe1_pending :
    Cmd.Returns (fun _ => True) (generateKe1 P password accountId)
      fun _ f => PendingKe2 P f.state := by
  intro f u f' hf h
  obtain ⟨hblinded, -⟩ := generateKe1_returns P f u f' hf h
  exact ⟨⟨password, _, hblinded⟩, generateKe1_ephemeral P f u f' hf h⟩

end Ke1

/-- A client is configured with the encoding of a point. -/
theorem OpaqueInitiator.new_ok {key : List UInt8} {initiator : OpaqueInitiator}
    (h : OpaqueInitiator.new P key = .ok initiator) :
    ∃ p, p ≠ 0 ∧ initiator.responderPublicKey = P.group.compress p := by
  obtain ⟨_, hvalid, h⟩ := Outcome.bind_eq_ok_iff.mp h
  obtain ⟨p, hp, rfl⟩ := (validatePublicKey_eq_ok_iff P).mp hvalid
  rw [copyFromSlice_toList, Outcome.ok_bind] at h
  cases h
  exact ⟨p, hp, rfl⟩

/-! ## The envelope -/

/-- The middle of the plaintext, where the private key stands, is a scalar that is not zero. -/
def HoldsScalar (plaintext : List UInt8) : Prop :=
  plaintext.length = Envelope.plaintextLen ∧ ∃ s, s ≠ 0 ∧
    (plaintext.drop publicKeyLength).take privateKeyLength = (P.group.asBytes s).toList

/-- If the envelope opens under the key at all, it opens to a scalar. -/
def OpensToScalar (key : Bytes secretboxKeyLength) (envelope : Bytes envelopeLength) : Prop :=
  ∀ nonce ciphertext authTag plaintext, envelope = Envelope.joined nonce ciphertext authTag →
    P.aeadDecrypt key nonce (authTag.toList ++ ciphertext.toList) = some plaintext →
    HoldsScalar P plaintext

theorem openedKeys_private {plaintext : List UInt8} (h : plaintext.length = Envelope.plaintextLen) :
    (∃ s, s ≠ 0 ∧
      (Envelope.openedKeys (ofList plaintext h)).initiatorPrivateKey = P.group.asBytes s) ↔
      HoldsScalar P plaintext := by
  have hprivate : (Envelope.openedKeys (ofList plaintext h)).initiatorPrivateKey.toList =
      (plaintext.drop publicKeyLength).take privateKeyLength := by
    rw [Envelope.openedKeys, toList_ofList, toList_ofList]
  constructor
  · rintro ⟨s, hs, hsame⟩
    exact ⟨h, s, hs, by rw [← hprivate, hsame]⟩
  · rintro ⟨-, s, hs, hsame⟩
    exact ⟨s, hs, List.Vector.toList_injective (hprivate.trans hsame)⟩

theorem recoverKeys_err_of_zero (initiator : OpaqueInitiator) (ke2 : Protocol.Ke2Ref)
    {randomizedPwd : Bytes hashLength} (evaluatedElem : List UInt8) (masked : Bytes envelopeLength)
    (hkey : isAllZero (maskingKeyOf P randomizedPwd).toList = true)
    (accountContextHash : Bytes hashLength) :
    recoverKeys P initiator ke2 accountContextHash randomizedPwd evaluatedElem masked.toList =
      .err .invalidInput := by
  rw [recoverKeys, deriveMaskingKey_of, Outcome.ok_bind, tryInto_toList, Outcome.okOr_some,
    Outcome.ok_bind, maskCredentialEnvelope, Outcome.failIf_pos _ (by simp [hkey])]
  rfl

theorem opensToScalar_joined {key : Bytes secretboxKeyLength} {nonce : Bytes nonceLength}
    {ciphertext : Bytes Envelope.plaintextLen} {authTag : Bytes secretboxMacLength} :
    OpensToScalar P key (Envelope.joined nonce ciphertext authTag) ↔
      ∀ plaintext, P.aeadDecrypt key nonce (authTag.toList ++ ciphertext.toList) = some plaintext →
        HoldsScalar P plaintext := by
  constructor
  · intro h plaintext
    exact h nonce ciphertext authTag plaintext rfl
  · intro h nonce' ciphertext' authTag' plaintext hsame
    obtain ⟨rfl, rfl, rfl⟩ := Envelope.joined_inj hsame
    exact h plaintext

/-- What opening comes down to: the cipher, the scalar, and then the pair. -/
theorem openKeys_cases (initiator : OpaqueInitiator) (randomizedPwd : Bytes hashLength)
    (nonce : Bytes nonceLength) (ciphertext : Bytes Envelope.plaintextLen)
    (authTag : Bytes secretboxMacLength) :
    let result := openKeys P initiator randomizedPwd nonce.toList ciphertext.toList authTag.toList
    let opens := OpensToScalar P
      (Envelope.envelopeKey P initiator.responderPublicKey randomizedPwd.toList)
      (Envelope.joined nonce ciphertext authTag)
    (¬ opens ∧ result = .err .cryptoError) ∨
    (opens ∧ result = .err .authenticationError) ∨
    (opens ∧ ∃ keys : Envelope.Opened, keys.IsPair P ∧
      keys.responderPublicKey = initiator.responderPublicKey ∧ result = .ok keys) := by
  intro result opens
  have hopens : opens ↔ _ := opensToScalar_joined P
  have hpwd : randomizedPwd.toList.isEmpty = false := isEmpty_toList (by decide) _
  rcases Envelope.openRaw_cases P hpwd initiator.responderPublicKey nonce ciphertext authTag
    Envelope.Opened.zeroed with ⟨hnone, hrun⟩ | ⟨plaintext, hsome, hplain⟩
  · refine .inr (.inl ⟨hopens.mpr fun plaintext h => ?_, ?_⟩)
    · rw [hnone] at h
      cases h
    · simp only [result]
      rw [openKeys, Cmd.fill, hrun]
      rfl
  have hscalar : opens ↔ HoldsScalar P plaintext := by
    rw [hopens, hsome]
    exact ⟨fun h => h plaintext rfl, fun h _ hsame => Option.some.inj hsame ▸ h⟩
  rw [hscalar]
  simp only [result]
  rcases hplain with ⟨hlen, hrun⟩ | ⟨hlen, hrun⟩ <;> rw [openKeys, Cmd.fill, hrun]
  · exact .inl ⟨fun h => hlen h.1, rfl⟩
  rw [← openedKeys_private P hlen]
  rcases Envelope.keepPair_cases P (Envelope.openedKeys (ofList plaintext hlen))
    (Envelope.openedKeys (ofList plaintext hlen)) with
    ⟨hpair, hkept⟩ | ⟨hnone, hrefused⟩ | ⟨-, hsome, hrefused⟩
  · obtain ⟨s, hs, hprivate, -⟩ := id hpair
    rw [hkept, Outcome.ok_bind]
    by_cases hresponder : (Envelope.openedKeys (ofList plaintext hlen)).responderPublicKey =
      initiator.responderPublicKey
    · refine .inr (.inr ⟨⟨s, hs, hprivate⟩, _, hpair, hresponder, ?_⟩)
      rw [hresponder, constantTimeEq_self]
      rfl
    · refine .inr (.inl ⟨⟨s, hs, hprivate⟩, ?_⟩)
      rw [Outcome.failIf_pos _
        (by simpa using fun h => hresponder (List.Vector.toList_injective h))]
      rfl
  · refine .inl ⟨?_, ?_⟩
    · rintro ⟨s, hs, hprivate⟩
      exact hnone s hs hprivate
    · rw [hrefused]
      rfl
  · refine .inr (.inl ⟨hsome, ?_⟩)
    rw [hrefused]
    rfl

theorem recoverKeys_cases (initiator : OpaqueInitiator) (ke2 : Protocol.Ke2Ref)
    {accountContextHash : Bytes hashLength} (randomizedPwd : Bytes hashLength)
    (evaluated : Bytes publicKeyLength) (masked : Bytes envelopeLength)
    (hnonce : ke2.responderNonce.length = nonceLength)
    (hhash : isAllZero accountContextHash.toList = false)
    (hkey : isAllZero (maskingKeyOf P randomizedPwd).toList = false) :
    let result := recoverKeys P initiator ke2 accountContextHash randomizedPwd evaluated.toList
      masked.toList
    let opens := OpensToScalar P
      (Envelope.envelopeKey P initiator.responderPublicKey randomizedPwd.toList)
      (xorBytes masked (credentialPad P (maskingKeyOf P randomizedPwd) ke2.responderNonce
        evaluated.toList accountContextHash))
    (¬ opens ∧ result = .err .cryptoError) ∨
    (opens ∧ result = .err .authenticationError) ∨
    (opens ∧ ∃ keys : Envelope.Opened, keys.IsPair P ∧
      keys.responderPublicKey = initiator.responderPublicKey ∧ result = .ok keys) := by
  intro result opens
  obtain ⟨nonce, ciphertext, authTag, hjoined⟩ := Envelope.exists_joined
    (xorBytes masked (credentialPad P (maskingKeyOf P randomizedPwd) ke2.responderNonce
      evaluated.toList accountContextHash))
  simp only [result, opens]
  rw [recoverKeys_of_joined P hkey hnonce evaluated.toList_length hhash hjoined, hjoined]
  exact openKeys_cases P initiator randomizedPwd nonce ciphertext authTag

/-! ## After the envelope -/

theorem ke3Secrets_err {state : InitiatorState} {keys : Envelope.Opened}
    {respEphPk : Bytes publicKeyLength} {kemCiphertext : List UInt8} {e : OpaqueError}
    (hpair : keys.IsPair P)
    (heph : ∃ x, x ≠ 0 ∧ state.initiatorEphemeralPrivateKey = P.group.asBytes x)
    (hresponder : ∃ p, p ≠ 0 ∧ keys.responderPublicKey = P.group.compress p)
    (hrespEphPk : ∃ p, p ≠ 0 ∧ respEphPk = P.group.compress p)
    (h : ke3Secrets P state keys respEphPk kemCiphertext = .err e) : e = .invalidKemInput := by
  obtain ⟨s, hs, hprivate, -⟩ := hpair
  obtain ⟨x, hx, heph⟩ := heph
  obtain ⟨p, hp, hresponder⟩ := hresponder
  obtain ⟨q, hq, rfl⟩ := hrespEphPk
  rw [ke3Secrets, hprivate, heph, hresponder, scalarMult_encoded P hs hp, Outcome.ok_bind,
    scalarMult_encoded P hx hp, Outcome.ok_bind, scalarMult_encoded P hs hq, Outcome.ok_bind,
    scalarMult_encoded P hx hq, Outcome.ok_bind] at h
  rcases Outcome.bind_eq_err_iff.mp h with hkem | ⟨kemSs, -, hpure⟩
  · exact PqKem.decapsulate_err P hkem
  · cases hpure

theorem ke3KeySchedule_err {secrets : SharedSecrets} {t : Transcript} (ht : t.Sized)
    {responderMac : List UInt8} {randomizedPwd accountContextHash : Bytes hashLength}
    {e : OpaqueError} (hhash : isAllZero accountContextHash.toList = false)
    (h : ke3KeySchedule P (ofList secrets.classicalIkm secrets.classicalIkm_length) secrets.kemSs
      t.encode responderMac randomizedPwd accountContextHash = .err e) :
    e = .authenticationError := by
  have hmac : ∀ info, hmacSha512 P (Handshake.derivedKey P secrets t info).toList t.encode =
      .ok (P.hmac (Handshake.derivedKey P secrets t info).toList t.encode) :=
    fun info => Handshake.hmacSha512_schedule P ht _
  simp only [ke3KeySchedule, Handshake.sha512Multi_transcript, toList_ofList,
    Handshake.combineKeyMaterial_schedule, Outcome.ok_bind, Handshake.expand_schedule, hmac,
    deriveClientExportKey_eq P (isEmpty_toList (by decide) randomizedPwd) hhash
      (show 0 < exportKeyLength by decide) (by decide)] at h
  rcases Outcome.bind_eq_err_iff.mp h with hfail | ⟨_, -, hpure⟩
  · exact (Outcome.failIf_eq_err_iff.mp hfail).2
  · cases hpure

/-! ## The steps in a row -/

/--
An answer that gets as far as its envelope, with two points in it, and the envelope opens to
a scalar or not at all.
-/
def Indistinct (initiator : OpaqueInitiator) (state : InitiatorState) (ke2 : Protocol.Ke2Ref) :
    Prop :=
  ∃ (evaluated : Bytes publicKeyLength) (masked : Bytes envelopeLength)
    (oprfOutput randomizedPwd : Bytes hashLength),
    ke2.credentialResponse = evaluated.toList ++ masked.toList ∧
    (∃ p, p ≠ 0 ∧ ke2.responderPublicKey = (P.group.compress p).toList) ∧
    (∃ p, p ≠ 0 ∧ evaluated = P.group.compress p) ∧
    Oprf.finalize P (state.secureKey.toList.take state.secureKeyLen)
      state.obliviousPrfBlindScalar evaluated = .ok oprfOutput ∧
    deriveRandomizedPassword P oprfOutput.toList
      (state.secureKey.toList.take state.secureKeyLen) hashLength = .ok randomizedPwd ∧
    isAllZero (maskingKeyOf P randomizedPwd).toList = false ∧
    OpensToScalar P (Envelope.envelopeKey P initiator.responderPublicKey randomizedPwd.toList)
      (xorBytes masked (credentialPad P (maskingKeyOf P randomizedPwd) ke2.responderNonce
        evaluated.toList state.accountContextHash))

section Steps

variable {P} {initiator : OpaqueInitiator} {ke2Data : List UInt8} {ke2 : Protocol.Ke2Ref}
  {f : Frame Ke3Message InitiatorState}

theorem recoverRandomizedPwd_err {evaluated : Bytes publicKeyLength} {password : List UInt8}
    {e : OpaqueError} (hpassword : f.state.HoldsPassword password)
    (h : (do
      let oprfOutput ← Oprf.finalize P password f.state.obliviousPrfBlindScalar evaluated
      deriveRandomizedPassword P oprfOutput.toList password hashLength) = .err e) :
    (recoverRandomizedPwd P evaluated.toList).run f = (.err e, f) := by
  rw [recoverRandomizedPwd, Cmd.run_bind_ok (Op.run_getState f),
    Cmd.run_bind_ok (readSecureKey_run hpassword),
    Cmd.run_bind_ok (by rw [Cmd.run_okOr, tryInto_toList, Outcome.okOr_some])]
  rcases Outcome.bind_eq_err_iff.mp h with hfinalize | ⟨oprfOutput, hfinalize, hstretch⟩
  · rw [Cmd.run_bind_err (by rw [Cmd.run_liftM, hfinalize])]
  · rw [Cmd.run_bind_ok (by rw [Cmd.run_liftM, hfinalize]),
      Cmd.run_bind_err (by rw [Cmd.run_liftM, hstretch])]

theorem ke2_parts (hsized : Protocol.Sized Protocol.ke2FieldLengths ke2.fields) :
    ke2.responderNonce.length = nonceLength ∧
      ∃ (evaluated : Bytes publicKeyLength) (masked : Bytes envelopeLength),
        ke2.credentialResponse = evaluated.toList ++ masked.toList := by
  simp only [Protocol.Sized, List.map_cons, List.map_nil, List.cons.injEq, and_true] at hsized
  have hlength : ke2.credentialResponse.length = 168 := hsized.2.2.1
  refine ⟨hsized.1, ofList (ke2.credentialResponse.take 32) (by simp [hlength]),
    ofList (ke2.credentialResponse.drop 32) (by simp [hlength]), ?_⟩
  rw [toList_ofList, toList_ofList, List.take_append_drop]

/-- Past the envelope, an error has the shared code. -/
theorem ke3Derive_err_of_keys {randomizedPwd : Bytes hashLength} {evaluated : Bytes publicKeyLength}
    {masked : List UInt8} {keys : Envelope.Opened} {f' g : Frame Ke3Message InitiatorState}
    {e : OpaqueError}
    (heph : ∃ x, x ≠ 0 ∧ g.state.initiatorEphemeralPrivateKey = P.group.asBytes x)
    (hhash : isAllZero g.state.accountContextHash.toList = false)
    (hresponder : ∃ p, p ≠ 0 ∧ initiator.responderPublicKey = P.group.compress p)
    (hread : readKe2 P initiator ke2Data = .ok ke2)
    (hresponse : ke2.credentialResponse = evaluated.toList ++ masked)
    (hpwd : (recoverRandomizedPwd P evaluated.toList).run f = (.ok randomizedPwd, g))
    (hkeys : recoverKeys P initiator ke2 g.state.accountContextHash randomizedPwd
      evaluated.toList masked = .ok keys)
    (hpair : keys.IsPair P) (hsame : keys.responderPublicKey = initiator.responderPublicKey)
    (hrun : (ke3Derive P initiator ke2Data).run f = (.err e, f')) :
    e = .invalidKemInput ∨ e = .authenticationError := by
  obtain ⟨hparse, p, hp, hpublic⟩ := readKe2_ok P hread
  obtain ⟨hevaluated, hmasked⟩ := slice_credentialResponse hresponse
  have hsized := (Protocol.parseKe2_reads.eq_ok_iff.mp hparse).1
  rw [ke3Derive, Cmd.run_bind_ok (by rw [Cmd.run_liftM, hread]),
    Cmd.run_bind_ok (by rw [Cmd.run_lift, hevaluated]),
    Cmd.run_bind_ok (by rw [Cmd.run_lift, hmasked]), Cmd.run_bind_ok hpwd,
    Cmd.run_bind_ok (Op.run_getState _), Cmd.run_bind_ok (by rw [Cmd.run_liftM, hkeys]),
    Cmd.run_bind_ok (by rw [Cmd.run_okOr, hpublic, tryInto_toList, Outcome.okOr_some])] at hrun
  rcases Cmd.run_bind_eq_err_iff.mp hrun with hshare | ⟨secrets, g', hshare, hrun⟩
  · rw [Cmd.run_liftM, Prod.mk.injEq] at hshare
    exact .inl (ke3Secrets_err P hpair heph (hsame ▸ hresponder) ⟨p, hp, rfl⟩ hshare.1)
  · rw [Cmd.run_bind_ok (Op.run_modifyState _ _), Cmd.run_bind_ok (Op.run_modifyState _ _),
      Cmd.run_bind_ok (by rw [Cmd.run_liftM, ke3ClassicalIkm_eq]),
      Cmd.run_bind_ok (by rw [Cmd.run_liftM, ke3MacInput_eq hsized])] at hrun
    rcases Cmd.run_bind_eq_err_iff.mp hrun with hkeys | ⟨_, _, -, hpure⟩
    · rw [Cmd.run_liftM, Prod.mk.injEq] at hkeys
      exact .inr (ke3KeySchedule_err P (ke3Transcript_sized hsized) hhash hkeys.1)
    · cases hpure

/-- What an answer holds fixes what is asked of it. -/
theorem indistinct_iff {state : InitiatorState} {evaluated : Bytes publicKeyLength}
    {masked : Bytes envelopeLength}
    (hresponse : ke2.credentialResponse = evaluated.toList ++ masked.toList) :
    Indistinct P initiator state ke2 ↔
    (∃ p, p ≠ 0 ∧ ke2.responderPublicKey = (P.group.compress p).toList) ∧
    (∃ p, p ≠ 0 ∧ evaluated = P.group.compress p) ∧
    ∃ oprfOutput randomizedPwd : Bytes hashLength,
      Oprf.finalize P (state.secureKey.toList.take state.secureKeyLen)
        state.obliviousPrfBlindScalar evaluated = .ok oprfOutput ∧
      deriveRandomizedPassword P oprfOutput.toList
        (state.secureKey.toList.take state.secureKeyLen) hashLength = .ok randomizedPwd ∧
      isAllZero (maskingKeyOf P randomizedPwd).toList = false ∧
      OpensToScalar P (Envelope.envelopeKey P initiator.responderPublicKey randomizedPwd.toList)
        (xorBytes masked (credentialPad P (maskingKeyOf P randomizedPwd) ke2.responderNonce
          evaluated.toList state.accountContextHash)) := by
  constructor
  · rintro ⟨evaluated', masked', oprfOutput, randomizedPwd, hresponse', hpublic, hpoint, hrest⟩
    obtain ⟨rfl, hmasked⟩ := toList_append_inj (hresponse'.symm.trans hresponse)
    obtain rfl := List.Vector.toList_injective hmasked
    exact ⟨hpublic, hpoint, oprfOutput, randomizedPwd, hrest⟩
  · rintro ⟨hpublic, hpoint, oprfOutput, randomizedPwd, hrest⟩
    exact ⟨evaluated, masked, oprfOutput, randomizedPwd, hresponse, hpublic, hpoint, hrest⟩

theorem indistinct_iff_of_finalize {state : InitiatorState} {evaluated : Bytes publicKeyLength}
    {masked : Bytes envelopeLength} {password : List UInt8} {oprfOutput : Bytes hashLength}
    (hpassword : state.secureKey.toList.take state.secureKeyLen = password)
    (hresponse : ke2.credentialResponse = evaluated.toList ++ masked.toList)
    (hkey : validatePublicKey P ke2.responderPublicKey = .ok ())
    (hpoint : ∃ p, p ≠ 0 ∧ evaluated = P.group.compress p)
    (hfinalize : Oprf.finalize P password state.obliviousPrfBlindScalar evaluated =
      .ok oprfOutput) :
    Indistinct P initiator state ke2 ↔
    ∃ randomizedPwd,
      deriveRandomizedPassword P oprfOutput.toList password hashLength = .ok randomizedPwd ∧
      isAllZero (maskingKeyOf P randomizedPwd).toList = false ∧
      OpensToScalar P (Envelope.envelopeKey P initiator.responderPublicKey randomizedPwd.toList)
        (xorBytes masked (credentialPad P (maskingKeyOf P randomizedPwd) ke2.responderNonce
          evaluated.toList state.accountContextHash)) := by
  rw [indistinct_iff hresponse, hpassword]
  constructor
  · rintro ⟨-, -, oprfOutput', randomizedPwd, hfinalize', hrest⟩
    obtain rfl := Outcome.ok.inj (hfinalize.symm.trans hfinalize')
    exact ⟨randomizedPwd, hrest⟩
  · rintro ⟨randomizedPwd, hrest⟩
    exact ⟨(validatePublicKey_eq_ok_iff P).mp hkey, hpoint, oprfOutput, randomizedPwd, hfinalize,
      hrest⟩

theorem ke3Derive_err_of_read {f' : Frame Ke3Message InitiatorState} {e e' : OpaqueError}
    (hread : readKe2 P initiator ke2Data = .err e')
    (hrun : (ke3Derive P initiator ke2Data).run f = (.err e, f')) : e = e' := by
  rw [ke3Derive, Cmd.run_bind_err (by rw [Cmd.run_liftM, hread])] at hrun
  cases hrun
  rfl

theorem ke3Derive_err_of_pwd {evaluated : Bytes publicKeyLength} {masked : List UInt8}
    {f' g : Frame Ke3Message InitiatorState} {e e' : OpaqueError}
    (hread : readKe2 P initiator ke2Data = .ok ke2)
    (hresponse : ke2.credentialResponse = evaluated.toList ++ masked)
    (hpwd : (recoverRandomizedPwd P evaluated.toList).run f = (.err e', g))
    (hrun : (ke3Derive P initiator ke2Data).run f = (.err e, f')) : e = e' := by
  obtain ⟨hevaluated, hmasked⟩ := slice_credentialResponse hresponse
  rw [ke3Derive, Cmd.run_bind_ok (by rw [Cmd.run_liftM, hread]),
    Cmd.run_bind_ok (by rw [Cmd.run_lift, hevaluated]),
    Cmd.run_bind_ok (by rw [Cmd.run_lift, hmasked]), Cmd.run_bind_err hpwd] at hrun
  cases hrun
  rfl

theorem ke3Derive_err_of_recover {randomizedPwd : Bytes hashLength}
    {evaluated : Bytes publicKeyLength} {masked : List UInt8}
    {f' g : Frame Ke3Message InitiatorState} {e e' : OpaqueError}
    (hread : readKe2 P initiator ke2Data = .ok ke2)
    (hresponse : ke2.credentialResponse = evaluated.toList ++ masked)
    (hpwd : (recoverRandomizedPwd P evaluated.toList).run f = (.ok randomizedPwd, g))
    (hrecover : recoverKeys P initiator ke2 g.state.accountContextHash randomizedPwd
      evaluated.toList masked = .err e')
    (hrun : (ke3Derive P initiator ke2Data).run f = (.err e, f')) : e = e' := by
  obtain ⟨hevaluated, hmasked⟩ := slice_credentialResponse hresponse
  rw [ke3Derive, Cmd.run_bind_ok (by rw [Cmd.run_liftM, hread]),
    Cmd.run_bind_ok (by rw [Cmd.run_lift, hevaluated]),
    Cmd.run_bind_ok (by rw [Cmd.run_lift, hmasked]), Cmd.run_bind_ok hpwd,
    Cmd.run_bind_ok (Op.run_getState _), Cmd.run_bind_err (by rw [Cmd.run_liftM, hrecover])] at hrun
  cases hrun
  rfl

/-- The errors of the derivation, one step after the other. -/
theorem ke3Derive_err_iff {f' : Frame Ke3Message InitiatorState} {e : OpaqueError}
    (hstate : PendingKe2 P f.state) (hhash : isAllZero f.state.accountContextHash.toList = false)
    (hresponder : ∃ p, p ≠ 0 ∧ initiator.responderPublicKey = P.group.compress p)
    (hparse : Protocol.parseKe2 ke2Data = .ok ke2)
    (hrun : (ke3Derive P initiator ke2Data).run f = (.err e, f')) :
    e.toCInt = -5 ↔ Indistinct P initiator f.state ke2 := by
  obtain ⟨⟨password, request, ⟨b⟩⟩, heph⟩ := hstate
  have hpassword : f.state.secureKey.toList.take f.state.secureKeyLen = password := b.holds.2
  obtain ⟨hnonce, evaluated, masked, hresponse⟩ :=
    ke2_parts (Protocol.parseKe2_reads.eq_ok_iff.mp hparse).1
  have hconfigured : validatePublicKey P initiator.responderPublicKey.toList = .ok () := by
    obtain ⟨p, hp, hpublic⟩ := hresponder
    exact (validatePublicKey_eq_ok_iff P).mpr ⟨p, hp, by rw [hpublic]⟩
  -- the ephemeral key of the responder
  rcases validatePublicKey_cases P ke2.responderPublicKey with hkey | hkey
  swap
  · have hread : readKe2 P initiator ke2Data = .err .invalidPublicKey := by
      rw [readKe2, hconfigured, Outcome.ok_bind, hparse, Outcome.ok_bind, hkey, Outcome.err_bind]
    obtain rfl := ke3Derive_err_of_read hread hrun
    refine iff_of_false (by decide) fun h => ?_
    have hvalid : validatePublicKey P ke2.responderPublicKey = .ok () :=
      (validatePublicKey_eq_ok_iff P).mpr ((indistinct_iff hresponse).mp h).1
    rw [hvalid] at hkey
    cases hkey
  have hread : readKe2 P initiator ke2Data = .ok ke2 := by
    rw [readKe2, hconfigured, Outcome.ok_bind, hparse, Outcome.ok_bind, hkey, Outcome.ok_bind]
    rfl
  -- the evaluated element
  rcases Oprf.finalize_cases P b.admissible.nonempty b.blind_ne_zero evaluated with
    ⟨p, oprfOutput, hp, hpoint, hfinalize⟩ | ⟨hnone, hfinalize⟩ <;>
    rw [← b.blindScalar] at hfinalize
  swap
  · have hpwd := recoverRandomizedPwd_err b.holds (by rw [hfinalize]; rfl)
    obtain rfl := ke3Derive_err_of_pwd hread hresponse hpwd hrun
    refine iff_of_false (by decide) fun h => ?_
    obtain ⟨-, ⟨q, hq, hpoint⟩, -⟩ := (indistinct_iff hresponse).mp h
    exact hnone q hq hpoint
  -- the password hash
  rw [indistinct_iff_of_finalize hpassword hresponse hkey ⟨p, hp, hpoint⟩ hfinalize]
  cases hstretch : deriveRandomizedPassword P oprfOutput.toList password hashLength with
  | panic => exact absurd hstretch (deriveRandomizedPassword_ne_panic P _ _ _)
  | err e' =>
      have hpwd := recoverRandomizedPwd_err b.holds
        (by rw [hfinalize, Outcome.ok_bind, hstretch])
      obtain rfl := ke3Derive_err_of_pwd hread hresponse hpwd hrun
      refine iff_of_false ?_ fun h => ?_
      · rcases deriveRandomizedPassword_err P hstretch with rfl | rfl <;> decide
      · obtain ⟨_, hok, -⟩ := h
        cases hok
  | ok randomizedPwd =>
      have hpwd := recoverRandomizedPwd_run b.holds hfinalize hstretch
      simp only [Outcome.ok.injEq, exists_eq_left']
      cases hzero : isAllZero (maskingKeyOf P randomizedPwd).toList with
      | true =>
          have hrecover := recoverKeys_err_of_zero P initiator ke2 evaluated.toList masked hzero
          obtain rfl := ke3Derive_err_of_recover hread hresponse hpwd
            (hrecover f.state.accountContextHash) hrun
          exact iff_of_false (by decide) (by simp)
      | false =>
          rcases recoverKeys_cases P initiator ke2 randomizedPwd evaluated masked hnonce hhash
            hzero with ⟨hnot, hrecover⟩ | ⟨hopens, hrecover⟩ |
              ⟨hopens, keys, hpair, hsame, hrecover⟩
          · obtain rfl := ke3Derive_err_of_recover hread hresponse hpwd hrecover hrun
            exact iff_of_false (by decide) fun h => hnot h.2
          · obtain rfl := ke3Derive_err_of_recover hread hresponse hpwd hrecover hrun
            exact iff_of_true (by decide) ⟨rfl, hopens⟩
          · have hcode := ke3Derive_err_of_keys (g := { f with state := f.state.withoutPassword })
              heph hhash hresponder hread hresponse hpwd hrecover hpair hsame hrun
            rcases hcode with rfl | rfl <;> exact iff_of_true (by decide) ⟨rfl, hopens⟩

theorem generateKe3_run_of_read {e : OpaqueError} (hlen : ke2Data.length = ke2Length)
    (hawaits : AwaitsKe2 f) (hread : readKe2 P initiator ke2Data = .err e) :
    ∃ f', (generateKe3 P initiator ke2Data).run f = (.err e, f') := by
  have hderive : (ke3Derive P initiator ke2Data).run { f with world := f.world.tick } =
      (.err e, { f with world := f.world.tick }) := by
    rw [ke3Derive, Cmd.run_bind_err (by rw [Cmd.run_liftM, hread])]
  have htraced : (generateKe3Traced P initiator ke2Data).run f =
      (.err e, { f with state := f.state.invalidate, world := f.world.tick }) := by
    rw [generateKe3Traced, Cmd.run_bind_ok (ke3Checks_run hlen hawaits),
      Cmd.run_onErr_of_err (by rw [ke3Body, Cmd.run_bind_err hderive])]
  exact ⟨_, by rw [generateKe3, Cmd.run_bind_err htraced]⟩

theorem readKe2_of_identity {nonce : Bytes nonceLength}
    {response : Bytes credentialResponseLength} {mac : Bytes macLength}
    {ciphertext : Bytes kemCiphertextLength}
    (h : validatePublicKey P initiator.responderPublicKey.toList = .ok ()) :
    readKe2 P initiator (Protocol.encode [nonce.toList, (zeros publicKeyLength).toList,
      response.toList, mac.toList, ciphertext.toList]) = .err .invalidPublicKey := by
  obtain ⟨ke2, hfields, hparse⟩ := Protocol.parseKe2_reads.encode [nonce.toList,
    (zeros publicKeyLength).toList, response.toList, mac.toList, ciphertext.toList]
    (by simp only [Protocol.Sized, List.map_cons, List.map_nil, List.Vector.toList_length])
  obtain ⟨-, hkey, -⟩ : _ ∧ ke2.responderPublicKey = (zeros publicKeyLength).toList ∧ _ := by
    simpa only [Protocol.Ke2Ref.fields, List.cons.injEq] using hfields
  have hidentity : decodeNonIdentityPoint P (zeros publicKeyLength).toList .invalidPublicKey =
      .err .invalidPublicKey := by
    rw [decodeNonIdentityPoint, Outcome.failIf_pos _ (isAllZero_toList_iff.mpr rfl)]
    rfl
  rw [readKe2, h, Outcome.ok_bind, hparse, Outcome.ok_bind, hkey, validatePublicKey,
    Outcome.failIf_neg _ (not_not.mpr (List.Vector.toList_length _)), Outcome.ok_bind, hidentity]
  rfl

theorem ke3Checks_err {f' : Frame Ke3Message InitiatorState} {e : OpaqueError}
    (h : (ke3Checks ke2Data).run f = (.err e, f')) : e.toCInt = -5 := by
  rcases Cmd.run_bind_eq_err_iff.mp h with hlen | ⟨_, f₁, -, h⟩
  · obtain ⟨-, rfl⟩ := Outcome.failIf_eq_err_iff.mp (Prod.mk.inj hlen).1
    rfl
  rw [Cmd.run_bind_ok (Op.run_getState f₁)] at h
  rcases Cmd.run_bind_eq_err_iff.mp h with hphase | ⟨_, f₂, -, h⟩
  · obtain ⟨-, rfl⟩ := Outcome.failIf_eq_err_iff.mp (Prod.mk.inj hphase).1
    rfl
  rcases Cmd.run_bind_eq_err_iff.mp h with hexpired | ⟨_, f₃, -, h⟩
  · by_cases htimeless : f₂.state.Timeless
    · rw [rejectExpired_run_of_timeless htimeless] at hexpired
      cases hexpired
    · rw [rejectExpired_run htimeless] at hexpired
      split at hexpired
      · cases hexpired
        rfl
      · cases hexpired
  rw [Cmd.run_bind_ok (Op.run_getState f₃)] at h
  obtain ⟨-, rfl⟩ := Outcome.failIf_eq_err_iff.mp (Prod.mk.inj h).1
  rfl

/-- The code of a rejected answer on a session that waits for one. -/
theorem generateKe3_err_iff {f' : Frame Ke3Message InitiatorState} {e : OpaqueError}
    (hstate : PendingKe2 P f.state) (hphase : f.state.phase = .ke1Generated)
    (hunexpired : lifetimeOver f.state.createdAt (f.world.clock 0) = false)
    (hresponder : ∃ p, p ≠ 0 ∧ initiator.responderPublicKey = P.group.compress p)
    (hparse : Protocol.parseKe2 ke2Data = .ok ke2)
    (hrun : (generateKe3 P initiator ke2Data).run f = (.err e, f')) :
    e.toCInt = -5 ↔ isAllZero f.state.accountContextHash.toList = true ∨
      Indistinct P initiator f.state ke2 := by
  have htraced : (generateKe3Traced P initiator ke2Data).run f = (.err e, f') := by
    rcases Cmd.run_bind_eq_err_iff.mp hrun with htraced | ⟨_, _, -, hpure⟩
    · exact htraced
    · cases hpure
  cases hhash : isAllZero f.state.accountContextHash.toList with
  | true =>
      refine iff_of_true ?_ (.inl rfl)
      rcases Cmd.run_bind_eq_err_iff.mp htraced with hchecks | ⟨_, f₁, hchecks, -⟩
      · exact ke3Checks_err hchecks
      · rcases ke3Checks_cases ke2Data f with
          ⟨-, hawaits, -⟩ | ⟨_, _, -, hfails⟩ | ⟨-, -, -, hfails⟩
        · rw [hawaits.accountContextHash] at hhash
          cases hhash
        · cases hfails.symm.trans hchecks
        · cases hfails.symm.trans hchecks
  | false =>
      have hlen : ke2Data.length = ke2Length := by
        obtain ⟨hsized, hdata⟩ := Protocol.parseKe2_reads.eq_ok_iff.mp hparse
        rw [hdata, hsized.encode_length]
        rfl
      rw [generateKe3Traced, Cmd.run_bind_ok (ke3Checks_run hlen ⟨hphase, hunexpired, hhash⟩)]
        at htraced
      obtain ⟨g, hbody, -⟩ := Cmd.onErr_eq_err_iff.mp htraced
      rcases Cmd.run_bind_eq_err_iff.mp hbody with hderive | ⟨_, _, -, hcommit⟩
      · rw [ke3Derive_err_iff (f := { f with world := f.world.tick }) hstate hhash hresponder
          hparse hderive]
        simp
      · cases hcommit

end Steps

end AuraOpaque.Agent
