import AuraOpaque.Agent.Requests
import AuraOpaque.Relay.Credentials

/-!
# Registration over the wire

An honest client and an honest relay exchange the encoded request, response and
record.  The record that comes out opens under the password it was made from.
-/

namespace AuraOpaque.Handshake

open AuraOpaque.Foundation AuraOpaque.Core
open Agent (OpaqueInitiator InitiatorState)
open Relay (OpaqueResponder ResponderKeyPair ResponderCredentials)

variable (P : Primitives)

/-- A client registers a password; what comes out is the encoded record. -/
def register (responder : OpaqueResponder) (password accountId : List UInt8) :
    Cmd OpaqueError World (Bytes registrationRecordLength) := do
  let initiator ← OpaqueInitiator.new P responder.keypair.publicKey.toList
  let state ← InitiatorState.new
  let (req, state) ← Op.call .new state (Agent.createRegistrationRequest P password)
  let reqWire ← Cmd.fill (zeros registrationRequestWireLength)
    (Protocol.writeRegistrationRequest req.data.toList)
  let resp ← Cmd.fill .new
    (Relay.createRegistrationResponse P responder reqWire.toList accountId)
  let evaluated ← Cmd.lift (slice resp.data.toList 0 publicKeyLength)
  let responderKey ← Cmd.lift (slice resp.data.toList publicKeyLength registrationResponseLength)
  let respWire ← Cmd.fill (zeros registrationResponseWireLength)
    (Protocol.writeRegistrationResponse evaluated responderKey)
  let (record, _) ← Op.call .new state (Agent.finalizeRegistration P initiator respWire.toList)
  Cmd.fill (zeros registrationRecordLength)
    (Protocol.writeRegistrationRecord record.envelope record.initiatorPublicKey.toList)

/-! ## Honest parties in a world without surprises -/

/-- A tape that keeps yielding scalars, and a clock on which nothing ever expires. -/
structure Calm (w : World) : Prop where
  neverExhausted : World.NeverExhausted P w
  timely : ∀ i j, i ≤ j → lifetimeOver (w.clock i) (w.clock j) = false

namespace Calm

variable {P} {w w' : World}

theorem of_clock (h : Calm P w) (hclock : w'.clock = w.clock)
    (hnever : World.NeverExhausted P w') : Calm P w' where
  neverExhausted := hnever
  timely := by
    rw [hclock]
    exact h.timely

theorem tick (h : Calm P w) : Calm P w.tick where
  neverExhausted := h.neverExhausted
  timely i j hij := h.timely (i + 1) (j + 1) (by omega)

theorem advance (h : Calm P w) (n : ℕ) : Calm P (w.advance n) :=
  h.of_clock rfl (h.neverExhausted.advance n)

end Calm

/-- A relay's key and seed, a user's password, and what is derived from them. -/
structure Honest where
  relay : P.group.Scalar
  relay_ne_zero : relay ≠ 0
  oprfSeed : Bytes oprfSeedLength
  oprfSeed_ne_zero : oprfSeed ≠ zeros _
  password : List UInt8
  admissible : Agent.Admissible P password
  accountId : List UInt8
  accountId_nonempty : accountId.isEmpty = false
  oprfKey : P.group.Scalar
  oprfKey_ne_zero : oprfKey ≠ 0
  oprfKey_eq : deriveOprfKey P oprfSeed.toList accountId = .ok (P.group.asBytes oprfKey)
  randomizedPwd : Bytes hashLength
  stretch : deriveRandomizedPassword P (Oprf.output P oprfKey password).toList password
    hashLength = .ok randomizedPwd
  maskingKey_ne_zero : maskingKeyOf P randomizedPwd ≠ zeros _
  accountContextHash_ne_zero :
    sha512Multi P [Labels.accountContextBinding, accountId] ≠ zeros _
  fakeScalar : P.group.Scalar
  fakeScalar_ne_zero : fakeScalar ≠ 0
  fakeScalar_eq : P.group.fromBytesModOrderWide (sha512Multi P [Labels.deriveKeypairContext,
    (sha512Multi P [Labels.fakeCredentialsContext, oprfSeed.toList, accountId]).toList]) =
      fakeScalar

namespace Honest

variable {P} (h : Honest P)

def responderKey : P.group.Point := h.relay • P.group.basepoint

theorem responderKey_ne_zero : h.responderKey ≠ 0 :=
  smul_ne_zero h.relay_ne_zero P.group.basepoint_ne_zero

def keypair : ResponderKeyPair where
  privateKey := P.group.asBytes h.relay
  publicKey := P.group.compress h.responderKey

def responder : OpaqueResponder where
  keypair := h.keypair
  evaluator := InMemoryEvaluator.toOprfEvaluator P { oprfSeed := h.oprfSeed }

def initiator : OpaqueInitiator where
  responderPublicKey := P.group.compress h.responderKey

theorem fromKeys_eq : ResponderKeyPair.fromKeys P h.keypair.privateKey.toList
    h.keypair.publicKey.toList = .ok h.keypair := by
  have hvalid : validatePublicKey P (P.group.compress h.responderKey).toList = .ok () :=
    (validatePublicKey_eq_ok_iff P).mpr ⟨_, h.responderKey_ne_zero, rfl⟩
  simp only [ResponderKeyPair.fromKeys, keypair, hvalid, tryInto_toList, Outcome.okOr_some,
    scalarmultBase_asBytes P h.relay_ne_zero, copyFromSlice_toList, Outcome.ok_bind,
    List.Vector.toList_length]
  simp [responderKey]

theorem responder_eq : OpaqueResponder.new P h.keypair h.oprfSeed = .ok h.responder := by
  have hvalid : validatePublicKey P h.keypair.publicKey.toList = .ok () :=
    (validatePublicKey_eq_ok_iff P).mpr ⟨_, h.responderKey_ne_zero, rfl⟩
  have hseed : isAllZero h.oprfSeed.toList = false :=
    isAllZero_toList_eq_false_iff.mpr h.oprfSeed_ne_zero
  rw [OpaqueResponder.new, hvalid, Outcome.ok_bind, InMemoryEvaluator.new,
    Outcome.failIf_neg _ (by simp [hseed])]
  rfl

theorem initiator_eq : OpaqueInitiator.new P h.responder.keypair.publicKey.toList =
    .ok h.initiator := by
  have hvalid : validatePublicKey P h.responder.keypair.publicKey.toList = .ok () :=
    (validatePublicKey_eq_ok_iff P).mpr ⟨_, h.responderKey_ne_zero, rfl⟩
  rw [OpaqueInitiator.new, hvalid, Outcome.ok_bind, copyFromSlice_toList]
  rfl

theorem evaluate_eq {p : P.group.Point} (hp : p ≠ 0) :
    h.responder.evaluator.evaluateOprf (P.group.compress p) h.accountId =
      .ok (P.group.compress (h.oprfKey • p)) := by
  change (deriveOprfKey P h.oprfSeed.toList h.accountId >>= fun oprfKey =>
    Oprf.evaluate P (P.group.compress p) oprfKey) = _
  rw [h.oprfKey_eq, Outcome.ok_bind, Oprf.evaluate_eq P h.oprfKey_ne_zero hp]

theorem finalize_eq {blind : P.group.Scalar} (hblind : blind ≠ 0) :
    Oprf.finalize P h.password (P.group.asBytes blind)
      (P.group.compress (h.oprfKey • blind • Oprf.inputPoint P h.password)) =
        .ok (Oprf.output P h.oprfKey h.password) :=
  Oprf.finalize_blinded P h.admissible.nonempty hblind h.oprfKey_ne_zero h.admissible.point

end Honest

/-! ## The relay's answer -/

section Response

variable {P} (h : Honest P)

theorem createRegistrationResponse_run {p : P.group.Point} (hp : p ≠ 0) {data : List UInt8}
    (hdata : data = Protocol.encode [(P.group.compress p).toList])
    (fresh : Relay.RegistrationResponse) :
    (Relay.createRegistrationResponse P h.responder data h.accountId).run fresh =
      (.ok (), ⟨ofList ((P.group.compress (h.oprfKey • p)).toList ++
        (P.group.compress h.responderKey).toList) (by simp)⟩) := by
  have hparse : Protocol.parseRegistrationRequest data = .ok (P.group.compress p).toList :=
    Protocol.parseRegistrationRequest_reads.eq_ok_iff.mpr ⟨by simp [Protocol.Sized], hdata⟩
  have hvalid : validateRistrettoPoint P (P.group.compress p).toList = .ok () :=
    (validateRistrettoPoint_eq_ok_iff P).mpr ⟨p, hp, rfl⟩
  have hwrites : Writes 0 ((P.group.compress (h.oprfKey • p)).toList ++
      (P.group.compress h.responderKey).toList) (do
        spliceAt 0 publicKeyLength (P.group.compress (h.oprfKey • p)).toList
        spliceAt publicKeyLength registrationResponseLength
          h.responder.keypair.publicKey.toList :
        Cmd OpaqueError (Bytes registrationResponseLength) Unit) := by
    refine .andThen (.spliceAt ?_) (.spliceAt ?_) ?_ <;> simp
  obtain ⟨buffer, hrun, hbuffer⟩ := hwrites (by simp) fresh.data
  rw [List.drop_of_length_le (by simp), List.take_zero, List.nil_append, List.append_nil] at hbuffer
  rw [Relay.createRegistrationResponse, Cmd.run_bind_ok (by rw [Cmd.run_liftM, hparse]),
    Cmd.run_bind_ok (by
      rw [Cmd.run_failIf, Outcome.failIf_neg _ (by simp [h.accountId_nonempty])]),
    Cmd.run_bind_ok (by rw [Cmd.run_liftM, hvalid]),
    Cmd.run_bind_ok (by rw [Cmd.run_okOr, tryInto_toList, Outcome.okOr_some]),
    Cmd.run_bind_ok (by rw [Cmd.run_liftM, h.evaluate_eq hp]), Cmd.run_zoom, hrun]
  congr 2
  exact List.Vector.toList_injective hbuffer

end Response

/-! ## The record -/

structure Enrolled {P : Primitives} (h : Honest P) where
  client : P.group.Scalar
  client_ne_zero : client ≠ 0
  nonce : Bytes nonceLength
  ciphertext : Bytes Envelope.plaintextLen
  authTag : Bytes secretboxMacLength
  contains : Envelope.Contains P h.randomizedPwd.toList
    ⟨P.group.compress h.responderKey, P.group.asBytes client,
      P.group.compress (client • P.group.basepoint)⟩ nonce ciphertext authTag

namespace Enrolled

variable {P} {h : Honest P} (e : Enrolled h)

def clientKey : P.group.Point := e.client • P.group.basepoint

theorem clientKey_ne_zero : e.clientKey ≠ 0 :=
  smul_ne_zero e.client_ne_zero P.group.basepoint_ne_zero

def envelope : Bytes envelopeLength :=
  ofList (e.nonce.toList ++ (e.ciphertext.toList ++ e.authTag.toList)) (by simp)

def record : List UInt8 :=
  Protocol.encode [(maskingKeyOf P h.randomizedPwd).toList, e.envelope.toList,
    (P.group.compress e.clientKey).toList]

def credentials : ResponderCredentials where
  envelope := e.envelope.toList
  maskingKey := maskingKeyOf P h.randomizedPwd
  initiatorPublicKey := P.group.compress e.clientKey
  registered := true

theorem build_run :
    (Relay.buildCredentials P e.record).run .new = (.ok (), e.credentials) := by
  have hparse : Protocol.parseRegistrationRecord e.record =
      .ok ⟨(maskingKeyOf P h.randomizedPwd).toList, e.envelope.toList,
        (P.group.compress e.clientKey).toList⟩ :=
    Protocol.parseRegistrationRecord_reads.eq_ok_iff.mpr ⟨by simp [Protocol.Sized], rfl⟩
  exact Relay.buildCredentials_eq_ok_iff.mpr
    ⟨rfl, _, _, e.clientKey, hparse, rfl, e.clientKey_ne_zero, rfl, rfl⟩

theorem usable : e.credentials.Usable P where
  registered := rfl
  envelope := e.envelope.toList_length
  maskingKey := isAllZero_toList_eq_false_iff.mpr h.maskingKey_ne_zero
  initiatorPublicKey := ⟨e.clientKey, e.clientKey_ne_zero, rfl⟩

end Enrolled

variable {P} in
/-- Honest registration goes through, and its record holds the client's keys. -/
theorem register_run (hP : P.Correct) (h : Honest P) {w : World} (hw : Calm P w) :
    ∃ (e : Enrolled h) (record : Bytes registrationRecordLength) (w' : World),
      record.toList = e.record ∧ Calm P w' ∧
      (register P h.responder h.password h.accountId).run w = (.ok record, w') := by
  obtain ⟨d, s, w₁, hs, hcreated, hclock, hnever, hrequest⟩ :=
    @Agent.createRegistrationRequest_run P h.password ⟨.new, .newAt (w.clock 0), w.tick⟩
      h.admissible rfl hw.tick.neverExhausted
  have hcalm : Calm P w₁ := hw.tick.of_clock hclock hnever
  have hblinded : d.blind • Oprf.inputPoint P h.password ≠ 0 :=
    smul_ne_zero d.blind_ne_zero h.admissible.point
  have hevaluated : h.oprfKey • d.blind • Oprf.inputPoint P h.password ≠ 0 :=
    smul_ne_zero h.oprfKey_ne_zero hblinded
  -- the request and the response on the wire
  obtain ⟨reqWire, hreqWire, hreqFill⟩ := @Protocol.exists_wire _ _ [registrationRequestLength] _
    (@Protocol.writeRegistrationRequest_writes registrationRequestWireLength
      (d.request h.password).data.toList (by simp [Protocol.Sized]) le_rfl)
    (by simp [Protocol.Sized]) rfl
  have hresponse := createRegistrationResponse_run h hblinded hreqWire .new
  obtain ⟨respWire, hrespWire, hrespFill⟩ := @Protocol.exists_wire _ _
    Protocol.registrationResponseFieldLengths _
    (@Protocol.writeRegistrationResponse_writes registrationResponseWireLength
      (P.group.compress (h.oprfKey • d.blind • Oprf.inputPoint P h.password)).toList
      (P.group.compress h.responderKey).toList (by simp [Protocol.Sized]) le_rfl)
    (by simp [Protocol.Sized]) rfl
  -- the client's answer
  have hanswered : Agent.Answered P h.initiator
      (P.group.compress (h.oprfKey • d.blind • Oprf.inputPoint P h.password)) respWire.toList
      ⟨.new, s, w₁.tick⟩ :=
    ⟨hs.phase, by
      rw [hcreated]
      change lifetimeOver (w.clock 1) (w₁.clock 1) = false
      rw [hclock]
      exact hw.timely 1 2 (by omega), ⟨_, h.responderKey_ne_zero, rfl⟩, hrespWire⟩
  obtain ⟨nonce, ciphertext, authTag, s', hcontains, hfinalize⟩ :=
    Agent.finalizeRegistration_run hP hs hanswered (h.finalize_eq d.blind_ne_zero) h.stretch
  let e : Enrolled h := ⟨d.privateKey, d.privateKey_ne_zero, nonce, ciphertext, authTag, hcontains⟩
  obtain ⟨record, hrecord, hrecordFill⟩ := @Protocol.exists_wire _ _
    [registrationCredentialLength, publicKeyLength] _
    (@Protocol.writeRegistrationRecord_writes registrationRecordLength
      ((maskingKeyOf P h.randomizedPwd).toList ++ nonce.toList ++ ciphertext.toList ++
        authTag.toList) (P.group.compress e.clientKey).toList (by simp [Protocol.Sized]) le_rfl)
    (by simp [Protocol.Sized]) rfl
  refine ⟨e, record, w₁.tick.tick.advance nonceLength, ?_, hcalm.tick.tick.advance _, ?_⟩
  · rw [hrecord]
    simp [Enrolled.record, Enrolled.envelope, Protocol.encode, e]
  · rw [register, Cmd.run_bind_ok (by rw [Cmd.run_liftM, h.initiator_eq]),
      Cmd.run_bind_ok (show InitiatorState.new.run w = (.ok (.newAt (w.clock 0)), w.tick) from rfl),
      Cmd.run_bind_ok (Op.call_run hrequest)]
    dsimp only
    rw [Cmd.run_bind_ok (by rw [Cmd.run_liftM, hreqFill]),
      Cmd.run_bind_ok (by rw [Cmd.run_liftM, Cmd.fill_eq_ok_iff.mpr hresponse]),
      Cmd.run_bind_ok (by rw [Cmd.run_lift, toList_ofList, slice_left _ _ (by simp)]),
      Cmd.run_bind_ok (by rw [Cmd.run_lift, toList_ofList, slice_right _ _ (by simp) (by simp)]),
      Cmd.run_bind_ok (by rw [Cmd.run_liftM, hrespFill]), Cmd.run_bind_ok (Op.call_run hfinalize)]
    dsimp only
    rw [Cmd.run_liftM]
    exact congrArg (·, _) hrecordFill

end AuraOpaque.Handshake
