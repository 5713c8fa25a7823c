import AuraOpaque.Agent.Registration
import AuraOpaque.Agent.Authentication

/-!
# Requests that go through

A fresh session, a password of an admissible length and a tape that yields
scalars: each request of the client succeeds, and the draws determine the
message and the session it leaves.
-/

namespace AuraOpaque.Agent

open AuraOpaque.Foundation AuraOpaque.Core

variable (P : Primitives)

/-- A password that a session can hold, with a point to blind. -/
structure Admissible (password : List UInt8) : Prop where
  nonempty : password.isEmpty = false
  fits : password.length ≤ maxSecureKeyLength
  point : Oprf.inputPoint P password ≠ 0

theorem Admissible.inRange {password : List UInt8} (h : Admissible P password) :
    ¬ (password.isEmpty ∨ maxSecureKeyLength < password.length) := by
  rw [h.nonempty]
  have := h.fits
  simp only [Bool.false_eq_true, false_or, not_lt]
  exact this

/-! ## The registration request -/

structure RegistrationDraws where
  privateKey : P.group.Scalar
  privateKey_ne_zero : privateKey ≠ 0
  blind : P.group.Scalar
  blind_ne_zero : blind ≠ 0

namespace RegistrationDraws

variable {P} (d : RegistrationDraws P)

def publicKey : P.group.Point := d.privateKey • P.group.basepoint

def request (password : List UInt8) : RegistrationRequest where
  data := P.group.compress (d.blind • Oprf.inputPoint P password)

structure Awaits (password : List UInt8) (s : InitiatorState) : Prop where
  phase : s.phase = .registrationRequested
  holds : s.HoldsPassword password
  blindScalar : s.obliviousPrfBlindScalar = P.group.asBytes d.blind
  initiatorPrivateKey : s.initiatorPrivateKey = P.group.asBytes d.privateKey
  initiatorPublicKey : s.initiatorPublicKey = P.group.compress d.publicKey

end RegistrationDraws

variable {P}

theorem registrationRequestChecks_run {password : List UInt8}
    {f : Frame RegistrationRequest InitiatorState} (hpassword : Admissible P password)
    (hphase : f.state.phase = .created) :
    (registrationRequestChecks password).run f = (.ok (), f) := by
  rw [registrationRequestChecks,
    Cmd.run_bind_ok (by rw [Cmd.run_failIf, Outcome.failIf_neg _ hpassword.inRange]),
    Cmd.run_bind_ok (Op.run_getState f),
    Cmd.run_bind_ok (by rw [Cmd.run_failIf, Outcome.failIf_neg _ (not_not.mpr hphase)]),
    rejectExpired_run_of_timeless (.inl hphase)]

theorem createRegistrationRequest_run {password : List UInt8}
    {f : Frame RegistrationRequest InitiatorState} (hpassword : Admissible P password)
    (hphase : f.state.phase = .created) (hw : World.NeverExhausted P f.world) :
    ∃ (d : RegistrationDraws P) (s : InitiatorState) (w : World),
      d.Awaits password s ∧ s.createdAt = f.world.clock 0 ∧ w.clock = f.world.clock ∧
      World.NeverExhausted P w ∧
      (createRegistrationRequest P password).run f = (.ok (), ⟨d.request password, s, w.tick⟩) := by
  obtain ⟨a, w₁, ha, hclock₁, hnever₁, hdraw⟩ := randomNonzeroScalar_run P hw
  obtain ⟨buffer, hbuffer, hstore⟩ :=
    @storeSecureKey_run RegistrationRequest password hpassword.fits
    { f with
      state := { f.state with
        initiatorPrivateKey := P.group.asBytes a
        initiatorPublicKey := P.group.compress (a • P.group.basepoint) }
      world := w₁ }
  obtain ⟨r, w₂, hr, hclock₂, hnever₂, hblind⟩ := @Oprf.blind_run P password hpassword.nonempty
    hpassword.point ⟨f.out.data, f.state.obliviousPrfBlindScalar, w₁⟩ hnever₁
  have hclock : w₂.clock = f.world.clock := hclock₂.trans hclock₁
  refine ⟨⟨a, ha, r, hr⟩,
    { f.state with
      phase := .registrationRequested
      createdAt := w₂.clock 0
      initiatorPrivateKey := P.group.asBytes a
      initiatorPublicKey := P.group.compress (a • P.group.basepoint)
      secureKey := buffer
      secureKeyLen := password.length
      obliviousPrfBlindScalar := P.group.asBytes r },
    w₂, ⟨rfl, ⟨rfl, hbuffer⟩, rfl, rfl, rfl⟩, by rw [hclock], hclock, hnever₂, ?_⟩
  have hdrawn : (Op.onWorld (randomNonzeroScalar P)).run f =
      (.ok (P.group.asBytes a), { f with world := w₁ }) := by
    rw [Op.run_onWorld, hdraw]
  rw [createRegistrationRequest, Cmd.run_bind_ok (registrationRequestChecks_run hpassword hphase),
    registrationRequestBody, Cmd.bind_assoc, Cmd.run_bind_ok hdrawn]
  simp only [Cmd.run_bind, Op.run_modifyState, Cmd.run_liftM, scalarmultBase_asBytes P ha, hstore,
    blindRequest, Cmd.run_zoom, hblind, refreshDeadline_run]
  rfl

/-! ## The record -/

/-- A response with the configured key, for an unexpired session. -/
structure Answered (P : Primitives) (initiator : OpaqueInitiator)
    (evaluated : Bytes publicKeyLength) (data : List UInt8)
    (f : Frame RegistrationRecord InitiatorState) : Prop where
  phase : f.state.phase = .registrationRequested
  unexpired : lifetimeOver f.state.createdAt (f.world.clock 0) = false
  configured : ∃ p, p ≠ 0 ∧ initiator.responderPublicKey = P.group.compress p
  data : data = Protocol.encode [evaluated.toList, initiator.responderPublicKey.toList]

theorem finalizeChecks_run {initiator : OpaqueInitiator} {evaluated : Bytes publicKeyLength}
    {data : List UInt8} {f : Frame RegistrationRecord InitiatorState}
    (h : Answered P initiator evaluated data f) :
    (finalizeChecks P initiator data).run f =
      (.ok ⟨evaluated.toList, initiator.responderPublicKey.toList⟩,
        { f with world := f.world.tick }) := by
  obtain ⟨p, hp, hkey⟩ := h.configured
  have hsized : Protocol.Sized Protocol.registrationResponseFieldLengths
      [evaluated.toList, initiator.responderPublicKey.toList] := by simp [Protocol.Sized]
  have hlen : data.length = registrationResponseWireLength := by
    rw [h.data, hsized.encode_length]
    rfl
  have hparse : Protocol.parseRegistrationResponse data =
      .ok ⟨evaluated.toList, initiator.responderPublicKey.toList⟩ :=
    Protocol.parseRegistrationResponse_reads.eq_ok_iff.mpr ⟨hsized, h.data⟩
  have hvalid : validatePublicKey P initiator.responderPublicKey.toList = .ok () :=
    (validatePublicKey_eq_ok_iff P).mpr ⟨p, hp, by rw [hkey]⟩
  have hexpired : (rejectExpired : Op RegistrationRecord InitiatorState Unit).run f =
      (.ok (), { f with world := f.world.tick }) := by
    rw [rejectExpired_run (by simp [InitiatorState.Timeless, h.phase]), h.unexpired,
      if_neg Bool.false_ne_true]
  rw [finalizeChecks,
    Cmd.run_bind_ok (by rw [Cmd.run_failIf, Outcome.failIf_neg _ (not_not.mpr hlen)]),
    Cmd.run_bind_ok (Op.run_getState f),
    Cmd.run_bind_ok (by rw [Cmd.run_failIf, Outcome.failIf_neg _ (not_not.mpr h.phase)]),
    Cmd.run_bind_ok hexpired, Cmd.run_bind_ok (by rw [Cmd.run_liftM, hparse]),
    Cmd.run_bind_ok (by rw [Cmd.run_liftM, hvalid]),
    Cmd.run_bind_ok (by rw [Cmd.run_abortIf, constantTimeEq_self, if_neg (by simp)])]
  rfl

theorem sealEnvelope_run (hP : P.Correct) (randomizedPwd : Bytes hashLength)
    (keys : Envelope.Opened) (w : World) :
    ∃ ciphertext authTag,
      Envelope.Contains P randomizedPwd.toList keys (World.window w.tape nonceLength) ciphertext
        authTag ∧
      ∀ out s, (sealEnvelope P randomizedPwd.toList keys.responderPublicKey
          keys.initiatorPrivateKey keys.initiatorPublicKey).run ⟨out, s, w⟩ =
        (.ok ⟨(World.window w.tape nonceLength).toList, ciphertext.toList, authTag.toList⟩,
          ⟨out, s, w.advance nonceLength⟩) := by
  obtain ⟨ciphertext, authTag, hseal, hcontains⟩ := Envelope.seal_run P
    hP.aead_correct (isEmpty_toList (by decide) randomizedPwd) keys Envelope.new_nonce_length w
  refine ⟨ciphertext, authTag, hcontains, fun out s => ?_⟩
  rw [sealEnvelope, Cmd.run_zoom, Cmd.run_bind_ok hseal]
  rfl

/-- The record holds the masking key and an envelope with the two key pairs' halves. -/
theorem finalizeRegistration_run (hP : P.Correct) {initiator : OpaqueInitiator}
    {password data : List UInt8} {d : RegistrationDraws P} {evaluated : Bytes publicKeyLength}
    {f : Frame RegistrationRecord InitiatorState} {oprfOutput randomizedPwd : Bytes hashLength}
    (hs : d.Awaits password f.state) (hanswered : Answered P initiator evaluated data f)
    (hfinalize : Oprf.finalize P password (P.group.asBytes d.blind) evaluated = .ok oprfOutput)
    (hstretch : deriveRandomizedPassword P oprfOutput.toList password hashLength =
      .ok randomizedPwd) :
    ∃ (nonce : Bytes nonceLength) (ciphertext : Bytes Envelope.plaintextLen)
      (authTag : Bytes secretboxMacLength) (s : InitiatorState),
      Envelope.Contains P randomizedPwd.toList
        ⟨initiator.responderPublicKey, P.group.asBytes d.privateKey,
          P.group.compress d.publicKey⟩ nonce ciphertext authTag ∧
      (finalizeRegistration P initiator data).run f =
        (.ok (),
          { out :=
              { envelope := (maskingKeyOf P randomizedPwd).toList ++ nonce.toList ++
                  ciphertext.toList ++ authTag.toList
                initiatorPublicKey := P.group.compress d.publicKey }
            state := s
            world := f.world.tick.advance nonceLength }) := by
  obtain ⟨ciphertext, authTag, hcontains, hseal⟩ := sealEnvelope_run hP randomizedPwd
    ⟨initiator.responderPublicKey, P.group.asBytes d.privateKey, P.group.compress d.publicKey⟩
    f.world.tick
  refine ⟨World.window f.world.tape nonceLength, ciphertext, authTag,
    { f.state with
      phase := .registrationFinalized
      secureKey := zeros _
      secureKeyLen := 0
      obliviousPrfBlindScalar := zeros _
      initiatorPrivateKey := zeros _
      responderPublicKey := initiator.responderPublicKey }, hcontains, ?_⟩
  have hread := @readSecureKey_run RegistrationRecord { f with world := f.world.tick } password
    hs.holds
  rw [← hs.blindScalar] at hfinalize
  rw [finalizeRegistration, Cmd.run_bind_ok (finalizeChecks_run hanswered), finalizeBody,
    Cmd.bind_assoc, Cmd.run_bind_ok (Op.run_getState _), Cmd.bind_assoc, Cmd.run_bind_ok hread]
  simp only [Cmd.run_bind, Cmd.run_okOr, tryInto_toList, Outcome.okOr_some, Cmd.run_liftM,
    hfinalize, hstretch, eraseSecureKey, Op.run_modifyState, hs.initiatorPrivateKey,
    hs.initiatorPublicKey, hseal, deriveMaskingKey_of P, Op.run_modifyOut]
  rfl

/-! ## The first message -/

structure LoginDraws (P : Primitives) where
  ephemeral : P.group.Scalar
  ephemeral_ne_zero : ephemeral ≠ 0
  kemSeed : Bytes 64
  nonce : Bytes nonceLength
  blind : P.group.Scalar
  blind_ne_zero : blind ≠ 0

namespace LoginDraws

variable (d : LoginDraws P)

def ephemeralPublicKey : P.group.Point := d.ephemeral • P.group.basepoint

def decapsulationKey : P.kem.DecapsulationKey := (P.kem.generateKeypair d.kemSeed).1

def encapsulationKey : P.kem.EncapsulationKey := (P.kem.generateKeypair d.kemSeed).2

def ke1 (password : List UInt8) : Ke1Message where
  initiatorNonce := d.nonce
  initiatorPublicKey := P.group.compress d.ephemeralPublicKey
  credentialRequest := P.group.compress (d.blind • Oprf.inputPoint P password)
  pqEphemeralPublicKey := P.kem.ekToBytes d.encapsulationKey

structure Awaits (password accountId : List UInt8) (s : InitiatorState) : Prop where
  phase : s.phase = .ke1Generated
  holds : s.HoldsPassword password
  blindScalar : s.obliviousPrfBlindScalar = P.group.asBytes d.blind
  accountContextHash :
    s.accountContextHash = sha512Multi P [Labels.accountContextBinding, accountId]
  ephemeralPrivateKey : s.initiatorEphemeralPrivateKey = P.group.asBytes d.ephemeral
  ephemeralPublicKey : s.initiatorEphemeralPublicKey = P.group.compress d.ephemeralPublicKey
  nonce : s.initiatorNonce = d.nonce
  pqPublicKey : s.pqEphemeralPublicKey = P.kem.ekToBytes d.encapsulationKey
  pqSecretKey : s.pqEphemeralSecretKey = P.kem.dkToExpandedBytes d.decapsulationKey

end LoginDraws

theorem ke1Checks_run {password accountId : List UInt8} {f : Frame Ke1Message InitiatorState}
    (hpassword : Admissible P password) (haccount : accountId.isEmpty = false)
    (hphase : f.state.phase = .created) :
    (ke1Checks password accountId).run f = (.ok (), f) := by
  rw [ke1Checks, Cmd.run_bind_ok (by rw [Cmd.run_failIf, Outcome.failIf_neg _ hpassword.inRange]),
    Cmd.run_bind_ok (by rw [Cmd.run_failIf, Outcome.failIf_neg _ (by simp [haccount])]),
    Cmd.run_bind_ok (Op.run_getState f),
    Cmd.run_bind_ok (by rw [Cmd.run_failIf, Outcome.failIf_neg _ (not_not.mpr hphase)]),
    rejectExpired_run_of_timeless (.inl hphase)]

theorem generateKe1_run {password accountId : List UInt8} {f : Frame Ke1Message InitiatorState}
    (hpassword : Admissible P password) (haccount : accountId.isEmpty = false)
    (hphase : f.state.phase = .created) (hw : World.NeverExhausted P f.world) :
    ∃ (d : LoginDraws P) (s : InitiatorState) (w : World),
      d.Awaits password accountId s ∧ s.createdAt = f.world.clock 0 ∧
      w.clock = f.world.clock ∧ World.NeverExhausted P w ∧
      (generateKe1 P password accountId).run f = (.ok (), ⟨d.ke1 password, s, w.tick⟩) := by
  obtain ⟨x, w₁, hx, hclock₁, hnever₁, hdraw⟩ := randomNonzeroScalar_run P hw
  obtain ⟨buffer, hbuffer, hstore⟩ := @storeSecureKey_run Ke1Message password hpassword.fits f
  -- after the ephemeral scalar come the KEM seed, the nonce and the blind
  obtain ⟨kemSeed, hkemSeed⟩ : ∃ b, b = World.window w₁.tape 64 := ⟨_, rfl⟩
  obtain ⟨nonce, hnonce⟩ : ∃ b, b = World.window (w₁.advance 64).tape nonceLength := ⟨_, rfl⟩
  obtain ⟨r, w₂, hr, hclock₂, hnever₂, hblind⟩ := @Oprf.blind_run P password hpassword.nonempty
    hpassword.point ⟨f.out.credentialRequest, f.state.obliviousPrfBlindScalar,
      (w₁.advance 64).advance nonceLength⟩ ((hnever₁.advance 64).advance nonceLength)
  have hclock : w₂.clock = f.world.clock := hclock₂.trans hclock₁
  refine ⟨⟨x, hx, kemSeed, nonce, r, hr⟩,
    { f.state with
      phase := .ke1Generated
      createdAt := w₂.clock 0
      secureKey := buffer
      secureKeyLen := password.length
      accountContextHash := sha512Multi P [Labels.accountContextBinding, accountId]
      initiatorEphemeralPrivateKey := P.group.asBytes x
      initiatorEphemeralPublicKey := P.group.compress (x • P.group.basepoint)
      pqEphemeralPublicKey := P.kem.ekToBytes (P.kem.generateKeypair kemSeed).2
      pqEphemeralSecretKey := P.kem.dkToExpandedBytes (P.kem.generateKeypair kemSeed).1
      initiatorNonce := nonce
      obliviousPrfBlindScalar := P.group.asBytes r },
    w₂, ⟨rfl, ⟨rfl, hbuffer⟩, rfl, rfl, rfl, rfl, rfl, rfl, rfl⟩, by rw [hclock], hclock, hnever₂,
    ?_⟩
  have hkeypair : (PqKem.keypairGenerate P).run w₁ =
      (.ok (P.kem.ekToBytes (P.kem.generateKeypair kemSeed).2,
        P.kem.dkToExpandedBytes (P.kem.generateKeypair kemSeed).1), w₁.advance 64) := by
    rw [hkemSeed]
    rfl
  rw [generateKe1, Cmd.run_bind_ok (ke1Checks_run hpassword haccount hphase), ke1Body,
    Cmd.bind_assoc, Cmd.run_bind_ok hstore]
  simp only [Cmd.run_bind, Op.run_modifyState, Op.run_onWorld, hdraw, Cmd.run_liftM,
    scalarmultBase_asBytes P hx, hkeypair, randomBytes_run (show nonceLength ≠ 0 by decide),
    Op.run_modifyOut, blindKe1, Cmd.run_zoom, hblind, refreshDeadline_run, ← hnonce]
  rfl

end AuraOpaque.Agent
