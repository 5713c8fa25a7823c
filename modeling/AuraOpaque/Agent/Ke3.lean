import AuraOpaque.Agent.Authentication

/-!
# What `generate_ke3` computes

`Ke3Values` collects what a successful run parses, unmasks and decapsulates.
With such values the closure succeeds and its results are explicit; without
them it fails, and the clean-up erases the session.
-/

namespace AuraOpaque.Agent

open AuraOpaque.Foundation AuraOpaque.Core
open Handshake (SharedSecrets Transcript)

variable (P : Primitives)

theorem readKe2_ok {initiator : OpaqueInitiator} {ke2Data : List UInt8} {ke2 : Protocol.Ke2Ref}
    (h : readKe2 P initiator ke2Data = .ok ke2) :
    Protocol.parseKe2 ke2Data = .ok ke2 ∧
      ∃ p, p ≠ 0 ∧ ke2.responderPublicKey = (P.group.compress p).toList := by
  simp only [readKe2, Outcome.bind_eq_ok_iff] at h
  obtain ⟨_, -, _, hparse, _, hkey, heq⟩ := h
  cases heq
  exact ⟨hparse, (validatePublicKey_eq_ok_iff P).mp hkey⟩

/-- The end of `recoverKeys`, on the parts of the unmasked envelope. -/
def openKeys (initiator : OpaqueInitiator) (randomizedPwd : Bytes hashLength)
    (nonce ciphertext authTag : List UInt8) : OpaqueResult Envelope.Opened := do
  let recovered ← Cmd.fill Envelope.Opened.zeroed
    (Envelope.openRaw P nonce ciphertext authTag randomizedPwd.toList
      initiator.responderPublicKey)
  Outcome.failIf
    (!constantTimeEq recovered.responderPublicKey.toList initiator.responderPublicKey.toList)
    .authenticationError
  pure recovered

theorem recoverKeys_of_joined {initiator : OpaqueInitiator} {ke2 : Protocol.Ke2Ref}
    {accountContextHash randomizedPwd : Bytes hashLength} {evaluatedElem : List UInt8}
    {masked : Bytes envelopeLength} {nonce : Bytes nonceLength}
    {ciphertext : Bytes Envelope.plaintextLen} {authTag : Bytes secretboxMacLength}
    (hkey : isAllZero (maskingKeyOf P randomizedPwd).toList = false)
    (hnonce : ke2.responderNonce.length = nonceLength)
    (helement : evaluatedElem.length = publicKeyLength)
    (hhash : isAllZero accountContextHash.toList = false)
    (hjoined : xorBytes masked (credentialPad P (maskingKeyOf P randomizedPwd) ke2.responderNonce
      evaluatedElem accountContextHash) = Envelope.joined nonce ciphertext authTag) :
    recoverKeys P initiator ke2 accountContextHash randomizedPwd evaluatedElem masked.toList =
      openKeys P initiator randomizedPwd nonce.toList ciphertext.toList authTag.toList := by
  obtain ⟨hslice₁, hslice₂, hslice₃⟩ := Envelope.slices_of_joined nonce ciphertext authTag
  rw [recoverKeys, deriveMaskingKey_of, Outcome.ok_bind, tryInto_toList, Outcome.okOr_some,
    Outcome.ok_bind, maskCredentialEnvelope_eq P masked hkey hnonce helement hhash,
    Outcome.ok_bind, hjoined]
  simp only [hslice₁, hslice₂, hslice₃, Outcome.ok_bind]
  rfl

def InitiatorState.withoutPassword (s : InitiatorState) : InitiatorState :=
  { s with secureKey := zeros _, secureKeyLen := 0, obliviousPrfBlindScalar := zeros _ }

theorem ke3Transcript_sized {state : InitiatorState} {respEphPk : Bytes publicKeyLength}
    {ke2 : Protocol.Ke2Ref} {recovered : Envelope.Opened}
    (h : Protocol.Sized Protocol.ke2FieldLengths ke2.fields) :
    (ke3Transcript state respEphPk ke2 recovered).Sized := by
  simp only [Protocol.Sized, List.map_cons, List.map_nil, List.cons.injEq, and_true] at h
  simp [Transcript.Sized, Transcript.fields, ke3Transcript, h.1, h.2.2.1, h.2.2.2.2]

/-- What a run parses, derives and recovers. -/
structure Ke3Values (initiator : OpaqueInitiator) (ke2Data : List UInt8)
    (state : InitiatorState) where
  ke2 : Protocol.Ke2Ref
  read : readKe2 P initiator ke2Data = .ok ke2
  evaluated : Bytes publicKeyLength
  maskedEnvelope : List UInt8
  credentialResponse_eq : ke2.credentialResponse = evaluated.toList ++ maskedEnvelope
  password : List UInt8
  holdsPassword : state.HoldsPassword password
  oprfOutput : Bytes hashLength
  finalize : Oprf.finalize P password state.obliviousPrfBlindScalar evaluated = .ok oprfOutput
  randomizedPwd : Bytes hashLength
  stretch : deriveRandomizedPassword P oprfOutput.toList password hashLength = .ok randomizedPwd
  recovered : Envelope.Opened
  recover : recoverKeys P initiator ke2 state.accountContextHash randomizedPwd evaluated.toList
    maskedEnvelope = .ok recovered
  respEphPk : Bytes publicKeyLength
  respEphPk_eq : ke2.responderPublicKey = respEphPk.toList
  secrets : SharedSecrets
  share : ke3Secrets P state recovered respEphPk ke2.kemCiphertext = .ok secrets
  responderMac_eq : ke2.responderMac =
    (Handshake.responderMac P secrets (ke3Transcript state respEphPk ke2 recovered)).toList
  exportKey : Bytes exportKeyLength
  deriveExport : deriveClientExportKey P randomizedPwd.toList state.accountContextHash
    exportKeyLength = .ok exportKey

namespace Ke3Values

variable {P} {initiator : OpaqueInitiator} {ke2Data : List UInt8} {state : InitiatorState}
  (v : Ke3Values P initiator ke2Data state)

def derived : Ke3Derived where
  respEphPk := v.respEphPk
  ke2 := v.ke2
  recovered := v.recovered
  secrets := v.secrets
  keys :=
    { sessionKey := Handshake.sessionKey P v.secrets
        (ke3Transcript state v.respEphPk v.ke2 v.recovered)
      exportKey := v.exportKey
      initiatorMac := Handshake.initiatorMac P v.secrets
        (ke3Transcript state v.respEphPk v.ke2 v.recovered) }

def transcript : Transcript := ke3Transcript state v.respEphPk v.ke2 v.recovered

def message : Ke3Message where
  initiatorMac := Handshake.initiatorMac P v.secrets v.transcript

def stateAfter (createdAt : ℕ) : InitiatorState :=
  { state.withoutPassword with
    phase := .ke3Generated
    createdAt := createdAt
    pqEphemeralSecretKey := zeros _
    pqSharedSecret := v.secrets.kemSs
    responderPublicKey := v.recovered.responderPublicKey
    initiatorPrivateKey := v.recovered.initiatorPrivateKey
    initiatorPublicKey := v.recovered.initiatorPublicKey
    exportKey := v.exportKey
    sessionKey := Handshake.sessionKey P v.secrets v.transcript }

theorem ke2_sized : Protocol.Sized Protocol.ke2FieldLengths v.ke2.fields :=
  (Protocol.parseKe2_reads.eq_ok_iff.mp (readKe2_ok P v.read).1).1

theorem transcript_sized : v.transcript.Sized := ke3Transcript_sized v.ke2_sized

/-- All but the tag of a KE2 determines what the client computes from it. -/
theorem eq_of_ke2_eq {ke2Data' : List UInt8} {mac : List UInt8}
    (v' : Ke3Values P initiator ke2Data' state)
    (hke2 : v'.ke2 = { v.ke2 with responderMac := mac }) :
    v'.secrets = v.secrets ∧ v'.transcript = v.transcript := by
  have hresponse : v'.evaluated.toList ++ v'.maskedEnvelope =
      v.evaluated.toList ++ v.maskedEnvelope := by
    rw [← v.credentialResponse_eq, ← v'.credentialResponse_eq, hke2]
  obtain ⟨hevaluated, hmasked⟩ := toList_append_inj hresponse
  have hpassword : v'.password = v.password := v'.holdsPassword.2.symm.trans v.holdsPassword.2
  have hoprf : v'.oprfOutput = v.oprfOutput := by
    have h := v'.finalize
    rw [hpassword, hevaluated, v.finalize] at h
    exact (Outcome.ok.inj h).symm
  have hpwd : v'.randomizedPwd = v.randomizedPwd := by
    have h := v'.stretch
    rw [hoprf, hpassword, v.stretch] at h
    exact (Outcome.ok.inj h).symm
  have hrecovered : v'.recovered = v.recovered := by
    have h := v'.recover
    rw [hke2, hpwd, hevaluated, hmasked] at h
    exact Outcome.ok.inj (h.symm.trans v.recover)
  have hrespEphPk : v'.respEphPk = v.respEphPk := by
    apply List.Vector.toList_injective
    rw [← v'.respEphPk_eq, ← v.respEphPk_eq, hke2]
  have hsecrets : v'.secrets = v.secrets := by
    have h := v'.share
    rw [hke2, hrecovered, hrespEphPk] at h
    exact Outcome.ok.inj (h.symm.trans v.share)
  refine ⟨hsecrets, ?_⟩
  rw [transcript, transcript, hke2, hrecovered, hrespEphPk]
  rfl

end Ke3Values

/-! ## Block by block -/

section Blocks

variable {P} {initiator : OpaqueInitiator} {ke2Data : List UInt8}
  {f : Frame Ke3Message InitiatorState}

theorem readSecureKey_ok {Out : Type} {g g' : Frame Out InitiatorState} {password : List UInt8}
    (h : readSecureKey.run g = (.ok password, g')) : g.state.HoldsPassword password ∧ g' = g := by
  rw [readSecureKey, Cmd.run_bind_ok (Op.run_getState g), Cmd.run_lift, Prod.mk.injEq] at h
  obtain ⟨hslice, rfl⟩ := h
  unfold slice at hslice
  split at hslice
  · next hle =>
      cases hslice
      rw [List.drop_zero, Nat.sub_zero]
      refine ⟨⟨?_, rfl⟩, rfl⟩
      rw [List.length_take]
      exact (Nat.min_eq_left hle.2).symm
  · cases hslice

theorem recoverRandomizedPwd_run {evaluated : Bytes publicKeyLength} {password : List UInt8}
    {oprfOutput randomizedPwd : Bytes hashLength} (hpassword : f.state.HoldsPassword password)
    (hfinalize : Oprf.finalize P password f.state.obliviousPrfBlindScalar evaluated =
      .ok oprfOutput)
    (hstretch : deriveRandomizedPassword P oprfOutput.toList password hashLength =
      .ok randomizedPwd) :
    (recoverRandomizedPwd P evaluated.toList).run f =
      (.ok randomizedPwd, { f with state := f.state.withoutPassword }) := by
  simp only [recoverRandomizedPwd, Cmd.run_bind, Op.run_getState, readSecureKey_run hpassword,
    tryInto_toList, Cmd.run_okOr, Outcome.okOr_some, Cmd.run_liftM, hfinalize, hstretch,
    eraseSecureKey, Op.run_modifyState, Cmd.run_pure]
  rfl

theorem recoverRandomizedPwd_ok {evaluatedElem : List UInt8} {randomizedPwd : Bytes hashLength}
    {f' : Frame Ke3Message InitiatorState}
    (h : (recoverRandomizedPwd P evaluatedElem).run f = (.ok randomizedPwd, f')) :
    ∃ evaluated password oprfOutput, evaluatedElem = evaluated.toList ∧
      f.state.HoldsPassword password ∧
      Oprf.finalize P password f.state.obliviousPrfBlindScalar evaluated = .ok oprfOutput ∧
      deriveRandomizedPassword P oprfOutput.toList password hashLength = .ok randomizedPwd ∧
      f' = { f with state := f.state.withoutPassword } := by
  simp only [recoverRandomizedPwd, Cmd.run_bind_eq_ok_iff, Op.run_getState, Cmd.run_okOr,
    Cmd.run_liftM, Prod.mk.injEq, Outcome.okOr_eq_ok_iff, Outcome.ok.injEq] at h
  obtain ⟨_, _, ⟨rfl, rfl⟩, password, g, hread, evaluated, _, ⟨hevaluated, rfl⟩, oprfOutput, _,
    ⟨hfinalize, rfl⟩, rwd, _, ⟨hstretch, rfl⟩, _, _, herase, hpure⟩ := h
  obtain ⟨hpassword, rfl⟩ := readSecureKey_ok hread
  cases hpure
  cases herase
  exact ⟨evaluated, password, oprfOutput, tryInto_eq_some_iff.mp hevaluated, hpassword, hfinalize,
    hstretch, rfl⟩

theorem ke3ClassicalIkm_eq (secrets : SharedSecrets) :
    ke3ClassicalIkm secrets = .ok (ofList secrets.classicalIkm secrets.classicalIkm_length) := by
  refine Writes.fill (.spliceThen ?_ (.spliceThen ?_ (.spliceThen ?_ (.spliceAt ?_)))) _ _ <;> simp

theorem ke3MacInput_eq {state : InitiatorState} {respEphPk : Bytes publicKeyLength}
    {ke2 : Protocol.Ke2Ref} {recovered : Envelope.Opened}
    (hsized : Protocol.Sized Protocol.ke2FieldLengths ke2.fields) :
    ke3MacInput state respEphPk ke2 recovered =
      .ok (ke3Transcript state respEphPk ke2 recovered).encode := by
  have happends : Appends (ke3Transcript state respEphPk ke2 recovered).encode
      (ke3AppendFields state respEphPk ke2 recovered) := by
    simp only [Transcript.encode, Transcript.fields, ke3Transcript, List.flatten_cons,
      List.flatten_nil, List.append_nil]
    exact .appendThen (.appendThen (.appendThen (.appendThen (.appendThen (.appendThen (.appendThen
      (.appendThen (.appendThen (.append _)))))))))
  obtain ⟨cursor, hfill, hread⟩ := happends.fill
    (by rw [(ke3Transcript_sized hsized).encode_length]; decide) (zeros transcriptInputLength)
  rw [ke3MacInput, hfill, Outcome.ok_bind, hread]

/-- The schedule goes through exactly when the responder's tag is the expected one. -/
theorem ke3KeySchedule_eq_ok_iff {secrets : SharedSecrets} {t : Transcript} (ht : t.Sized)
    {responderMac : List UInt8} {randomizedPwd accountContextHash : Bytes hashLength}
    {keys : Ke3Keys} :
    ke3KeySchedule P (ofList secrets.classicalIkm secrets.classicalIkm_length) secrets.kemSs
        t.encode responderMac randomizedPwd accountContextHash = .ok keys ↔
      responderMac = (Handshake.responderMac P secrets t).toList ∧
      keys.sessionKey = Handshake.sessionKey P secrets t ∧
      keys.initiatorMac = Handshake.initiatorMac P secrets t ∧
      deriveClientExportKey P randomizedPwd.toList accountContextHash exportKeyLength =
        .ok keys.exportKey := by
  have hmac : ∀ info, hmacSha512 P (Handshake.derivedKey P secrets t info).toList t.encode =
      .ok (P.hmac (Handshake.derivedKey P secrets t info).toList t.encode) :=
    fun info => Handshake.hmacSha512_schedule P ht _
  simp only [ke3KeySchedule, Handshake.sha512Multi_transcript, toList_ofList,
    Handshake.combineKeyMaterial_schedule, Outcome.ok_bind, Handshake.expand_schedule, hmac]
  by_cases hresp : responderMac = (Handshake.responderMac P secrets t).toList
  · rw [Outcome.failIf_neg _ (by
        rw [hresp]
        simp [Handshake.responderMac, Handshake.responderMacKey])]
    obtain ⟨sessionKey, exportKey, initiatorMac⟩ := keys
    simp only [Outcome.ok_bind, Outcome.bind_eq_ok_iff, Outcome.pure_eq, Outcome.ok.injEq,
      Ke3Keys.mk.injEq]
    constructor
    · rintro ⟨_, hexport, rfl, rfl, rfl⟩
      exact ⟨hresp, rfl, rfl, hexport⟩
    · rintro ⟨-, rfl, rfl, hexport⟩
      exact ⟨exportKey, hexport, rfl, rfl, rfl⟩
  · rw [Outcome.failIf_pos _ (by
      simpa [Handshake.responderMac, Handshake.responderMacKey] using hresp)]
    simp [hresp]

end Blocks

/-! ## The closure -/

section Body

variable {P} {initiator : OpaqueInitiator} {ke2Data : List UInt8}
  {f : Frame Ke3Message InitiatorState}

theorem slice_credentialResponse {ke2 : Protocol.Ke2Ref} {evaluated : Bytes publicKeyLength}
    {masked : List UInt8} (h : ke2.credentialResponse = evaluated.toList ++ masked) :
    (slice ke2.credentialResponse 0 publicKeyLength : OpaqueResult _) = .ok evaluated.toList ∧
      (slice ke2.credentialResponse publicKeyLength ke2.credentialResponse.length :
        OpaqueResult _) = .ok masked := by
  rw [h]
  exact ⟨slice_left _ _ (by simp), slice_right _ _ (by simp) (by simp)⟩

theorem ke3Derive_run (v : Ke3Values P initiator ke2Data f.state) :
    (ke3Derive P initiator ke2Data).run f =
      (.ok v.derived,
        { f with state := { f.state.withoutPassword with
          pqEphemeralSecretKey := zeros _, pqSharedSecret := v.secrets.kemSs } }) := by
  obtain ⟨hevaluated, hmasked⟩ := slice_credentialResponse v.credentialResponse_eq
  have hpwd := recoverRandomizedPwd_run v.holdsPassword v.finalize v.stretch
  have hrespEphPk : tryInto publicKeyLength v.ke2.responderPublicKey = some v.respEphPk :=
    tryInto_eq_some_iff.mpr v.respEphPk_eq
  have hmac : ke3MacInput f.state.withoutPassword v.respEphPk v.ke2 v.recovered =
      .ok v.transcript.encode := ke3MacInput_eq v.ke2_sized
  have hkeys : ke3KeySchedule P (ofList v.secrets.classicalIkm v.secrets.classicalIkm_length)
      v.secrets.kemSs v.transcript.encode v.ke2.responderMac v.randomizedPwd
      f.state.withoutPassword.accountContextHash =
        .ok v.derived.keys :=
    (ke3KeySchedule_eq_ok_iff v.transcript_sized).mpr
      ⟨v.responderMac_eq, rfl, rfl, v.deriveExport⟩
  have hrecover : recoverKeys P initiator v.ke2 f.state.withoutPassword.accountContextHash
      v.randomizedPwd v.evaluated.toList v.maskedEnvelope = .ok v.recovered := v.recover
  have hshare : ke3Secrets P f.state.withoutPassword v.recovered v.respEphPk v.ke2.kemCiphertext =
      .ok v.secrets := v.share
  rw [ke3Derive, Cmd.run_bind_ok (by rw [Cmd.run_liftM, v.read]),
    Cmd.run_bind_ok (by rw [Cmd.run_lift, hevaluated]),
    Cmd.run_bind_ok (by rw [Cmd.run_lift, hmasked]), Cmd.run_bind_ok hpwd,
    Cmd.run_bind_ok (Op.run_getState _), Cmd.run_bind_ok (by rw [Cmd.run_liftM, hrecover]),
    Cmd.run_bind_ok (by rw [Cmd.run_okOr, hrespEphPk, Outcome.okOr_some]),
    Cmd.run_bind_ok (by rw [Cmd.run_liftM, hshare]), Cmd.run_bind_ok (Op.run_modifyState _ _),
    Cmd.run_bind_ok (Op.run_modifyState _ _),
    Cmd.run_bind_ok (by rw [Cmd.run_liftM, ke3ClassicalIkm_eq]),
    Cmd.run_bind_ok (by rw [Cmd.run_liftM, hmac]), Cmd.run_bind_ok (by rw [Cmd.run_liftM, hkeys])]
  rfl

theorem ke3Derive_ok {derived : Ke3Derived} {f' : Frame Ke3Message InitiatorState}
    (h : (ke3Derive P initiator ke2Data).run f = (.ok derived, f')) :
    Nonempty (Ke3Values P initiator ke2Data f.state) := by
  simp only [ke3Derive, Cmd.run_bind_eq_ok_iff, Cmd.run_liftM, Cmd.run_lift, Cmd.run_okOr,
    Op.run_getState, Op.run_modifyState, Prod.mk.injEq, Outcome.okOr_eq_ok_iff,
    Outcome.ok.injEq] at h
  obtain ⟨ke2, _, ⟨hread, rfl⟩, evaluatedElem, _, ⟨hevaluated, rfl⟩, masked, _, ⟨hmasked, rfl⟩,
    randomizedPwd, g, hpwd, _, _, ⟨rfl, rfl⟩, recovered, _, ⟨hrecover, rfl⟩, respEphPk, _,
    ⟨hrespEphPk, rfl⟩, secrets, _, ⟨hshare, rfl⟩, _, _, ⟨-, rfl⟩, _, _, ⟨-, rfl⟩, classicalIkm, _,
    ⟨hikm, rfl⟩, macInput, _, ⟨hmac, rfl⟩, keys, _, ⟨hkeys, rfl⟩, -⟩ := h
  obtain ⟨evaluated, password, oprfOutput, rfl, hpassword, hfinalize, hstretch, rfl⟩ :=
    recoverRandomizedPwd_ok hpwd
  have hsized := (Protocol.parseKe2_reads.eq_ok_iff.mp (readKe2_ok P hread).1).1
  have hresponse := eq_append_of_slice hevaluated hmasked
  rw [ke3ClassicalIkm_eq, Outcome.ok.injEq] at hikm
  rw [ke3MacInput_eq hsized, Outcome.ok.injEq] at hmac
  rw [← hikm, ← hmac] at hkeys
  obtain ⟨hrespMac, -, -, hexport⟩ :=
    (ke3KeySchedule_eq_ok_iff (ke3Transcript_sized hsized)).mp hkeys
  exact ⟨⟨ke2, hread, evaluated, masked, hresponse, password, hpassword, oprfOutput, hfinalize,
    randomizedPwd, hstretch, recovered, hrecover, respEphPk, tryInto_eq_some_iff.mp hrespEphPk,
    secrets, hshare, hrespMac, keys.exportKey, hexport⟩⟩

theorem ke3Body_run (v : Ke3Values P initiator ke2Data f.state) :
    (ke3Body P initiator ke2Data).run f =
      (.ok (v.secrets, v.transcript),
        { out := v.message
          state := v.stateAfter (f.world.clock 0)
          world := f.world.tick }) := by
  rw [ke3Body, Cmd.run_bind_ok (ke3Derive_run v)]
  rfl

theorem ke3Body_ok {r : SharedSecrets × Transcript} {f' : Frame Ke3Message InitiatorState}
    (h : (ke3Body P initiator ke2Data).run f = (.ok r, f')) :
    Nonempty (Ke3Values P initiator ke2Data f.state) := by
  obtain ⟨derived, g, hderive, -⟩ := Cmd.run_bind_eq_ok_iff.mp h
  exact ke3Derive_ok hderive

/-! ## The whole operation -/

/-- An unexpired session in the right phase, with its account hash in place. -/
structure AwaitsKe2 (f : Frame Ke3Message InitiatorState) : Prop where
  phase : f.state.phase = .ke1Generated
  unexpired : lifetimeOver f.state.createdAt (f.world.clock 0) = false
  accountContextHash : isAllZero f.state.accountContextHash.toList = false

theorem ke3Checks_run (hlen : ke2Data.length = ke2Length) (h : AwaitsKe2 f) :
    (ke3Checks ke2Data).run f = (.ok (), { f with world := f.world.tick }) := by
  have htimeless : ¬ f.state.Timeless := by simp [InitiatorState.Timeless, h.phase]
  rw [ke3Checks, Cmd.run_bind_ok (by
      rw [Cmd.run_failIf, Outcome.failIf_neg _ (by simpa using hlen)]),
    Cmd.run_bind_ok (Op.run_getState f),
    Cmd.run_bind_ok (by rw [Cmd.run_failIf, Outcome.failIf_neg _ (by simpa using h.phase)]),
    Cmd.run_bind_ok (by
      rw [rejectExpired_run htimeless, h.unexpired, if_neg Bool.false_ne_true]),
    Cmd.run_bind_ok (Op.run_getState _), Cmd.run_failIf,
    Outcome.failIf_neg _ (by simp [h.accountContextHash])]

/-- Otherwise the state is left as it was, or it is invalidated because it expired. -/
theorem ke3Checks_cases (ke2Data : List UInt8) (f : Frame Ke3Message InitiatorState) :
    (ke2Data.length = ke2Length ∧ AwaitsKe2 f ∧
      (ke3Checks ke2Data).run f = (.ok (), { f with world := f.world.tick })) ∨
    (∃ e w, ((ke2Data.length ≠ ke2Length ∨ f.state.phase ≠ .ke1Generated) ∨
        lifetimeOver f.state.createdAt (f.world.clock 0) = false ∧
          isAllZero f.state.accountContextHash.toList = true) ∧
      (ke3Checks ke2Data).run f = (.err e, { f with world := w })) ∨
    (ke2Data.length = ke2Length ∧ f.state.phase = .ke1Generated ∧
      lifetimeOver f.state.createdAt (f.world.clock 0) = true ∧
      (ke3Checks ke2Data).run f = (.err .validationError,
        { f with state := f.state.invalidate, world := f.world.tick })) := by
  by_cases hlen : ke2Data.length = ke2Length
  · by_cases hphase : f.state.phase = .ke1Generated
    · have htimeless : ¬ f.state.Timeless := by simp [InitiatorState.Timeless, hphase]
      cases hexpired : lifetimeOver f.state.createdAt (f.world.clock 0) with
      | true =>
          refine .inr (.inr ⟨hlen, hphase, rfl, ?_⟩)
          rw [ke3Checks, Cmd.run_bind_ok (by
              rw [Cmd.run_failIf, Outcome.failIf_neg _ (by simpa using hlen)]),
            Cmd.run_bind_ok (Op.run_getState f),
            Cmd.run_bind_ok (by rw [Cmd.run_failIf, Outcome.failIf_neg _ (by simpa using hphase)]),
            Cmd.run_bind_err (by rw [rejectExpired_run htimeless, hexpired, if_pos rfl])]
      | false =>
          cases hhash : isAllZero f.state.accountContextHash.toList with
          | false =>
              exact .inl ⟨hlen, ⟨hphase, hexpired, hhash⟩,
                ke3Checks_run hlen ⟨hphase, hexpired, hhash⟩⟩
          | true =>
              refine .inr (.inl ⟨.validationError, f.world.tick, .inr ⟨rfl, rfl⟩, ?_⟩)
              rw [ke3Checks, Cmd.run_bind_ok (by
                  rw [Cmd.run_failIf, Outcome.failIf_neg _ (by simpa using hlen)]),
                Cmd.run_bind_ok (Op.run_getState f),
                Cmd.run_bind_ok (by
                  rw [Cmd.run_failIf, Outcome.failIf_neg _ (by simpa using hphase)]),
                Cmd.run_bind_ok (by
                  rw [rejectExpired_run htimeless, hexpired, if_neg Bool.false_ne_true]),
                Cmd.run_bind_ok (Op.run_getState _), Cmd.run_failIf,
                Outcome.failIf_pos _ hhash]
    · refine .inr (.inl ⟨.validationError, f.world, .inl (.inr hphase), ?_⟩)
      rw [ke3Checks, Cmd.run_bind_ok (by
          rw [Cmd.run_failIf, Outcome.failIf_neg _ (by simpa using hlen)]),
        Cmd.run_bind_ok (Op.run_getState f),
        Cmd.run_bind_err (by rw [Cmd.run_failIf, Outcome.failIf_pos _ hphase])]
  · exact .inr (.inl ⟨.invalidProtocolMessage, f.world, .inl (.inl hlen), Cmd.run_bind_err (by
      rw [Cmd.run_failIf, Outcome.failIf_pos _ hlen])⟩)

/-- Success takes an awaiting session and values, and then everything is explicit. -/
theorem generateKe3Traced_eq_ok_iff {r : SharedSecrets × Transcript}
    {f' : Frame Ke3Message InitiatorState} :
    (generateKe3Traced P initiator ke2Data).run f = (.ok r, f') ↔
      AwaitsKe2 f ∧ ∃ v : Ke3Values P initiator ke2Data f.state,
        r = (v.secrets, v.transcript) ∧
        f' =
          { out := v.message
            state := v.stateAfter (f.world.clock 1)
            world := f.world.tick.tick } := by
  rw [generateKe3Traced]
  constructor
  · intro h
    rcases ke3Checks_cases ke2Data f with ⟨-, hawaits, hrun⟩ | ⟨e, w, -, hrun⟩ | ⟨-, -, -, hrun⟩
    · rw [Cmd.run_bind_ok hrun] at h
      have hbody := Cmd.onErr_eq_ok_iff.mp h
      obtain ⟨v⟩ := ke3Body_ok hbody
      rw [ke3Body_run v] at hbody
      cases hbody
      exact ⟨hawaits, v, rfl, rfl⟩
    · rw [Cmd.run_bind_err hrun] at h
      cases h
    · rw [Cmd.run_bind_err hrun] at h
      cases h
  · rintro ⟨hawaits, v, rfl, rfl⟩
    have hlen : ke2Data.length = ke2Length := by
      obtain ⟨hsized, hdata⟩ :=
        Protocol.parseKe2_reads.eq_ok_iff.mp (readKe2_ok P v.read).1
      rw [hdata, hsized.encode_length]
      rfl
    rw [Cmd.run_bind_ok (ke3Checks_run hlen hawaits)]
    exact Cmd.onErr_eq_ok_iff.mpr (@ke3Body_run P initiator ke2Data
      { f with world := f.world.tick } v)

theorem generateKe3_eq_ok_iff {u : Unit} {f' : Frame Ke3Message InitiatorState} :
    (generateKe3 P initiator ke2Data).run f = (.ok u, f') ↔
      ∃ r, (generateKe3Traced P initiator ke2Data).run f = (.ok r, f') := by
  rw [generateKe3]
  exact Cmd.run_discard_eq_ok_iff

end Body

end AuraOpaque.Agent
