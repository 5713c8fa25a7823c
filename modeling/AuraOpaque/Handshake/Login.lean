import AuraOpaque.Handshake.EndToEnd
import AuraOpaque.Handshake.RelayBinding
import AuraOpaque.Agent.Sent
import AuraOpaque.Agent.PanicFreedom

/-!
# Registrations and logins that went through

What a completed registration or exchange says about its messages, whatever was
drawn for them.  The blind cancels: all that reaches the password hash is the
password and the key that the relay's seed gives to the account.
-/

namespace AuraOpaque.Handshake

open AuraOpaque.Foundation AuraOpaque.Core
open Agent (Blinded InitiatorState Ke3Values OpaqueInitiator)
open Relay (OpaqueResponder ResponderCredentials ResponderKeyPair ResponderState)

variable (P : Primitives)

/-! ## The stretched password -/

/-- A password under the key of its account, stretched. -/
structure Stretched (oprfSeed : Bytes oprfSeedLength) (accountId password : List UInt8) where
  admissible : Agent.Admissible P password
  key : P.group.Scalar
  key_eq : deriveOprfKey P oprfSeed.toList accountId = .ok (P.group.asBytes key)
  randomizedPwd : Bytes hashLength
  stretch : deriveRandomizedPassword P (Oprf.output P key password).toList password
    hashLength = .ok randomizedPwd

def Honest.stretched {P : Primitives} (h : Honest P) :
    Stretched P h.oprfSeed h.accountId h.password where
  admissible := h.admissible
  key := h.oprfKey
  key_eq := h.oprfKey_eq
  randomizedPwd := h.randomizedPwd
  stretch := h.stretch

section Stretching

variable {P} {oprfSeed : Bytes oprfSeedLength} {accountId password : List UInt8}

theorem Stretched.randomizedPwd_eq (d d' : Stretched P oprfSeed accountId password) :
    d.randomizedPwd = d'.randomizedPwd := by
  have hkey : d.key = d'.key :=
    P.group.asBytes_injective (Outcome.ok.inj (d.key_eq.symm.trans d'.key_eq))
  have hstretch := d.stretch
  rw [hkey, d'.stretch] at hstretch
  exact (Outcome.ok.inj hstretch).symm

/-- Unblinding the answer of a relay with the seed takes the blind out again. -/
theorem exists_stretched {request evaluated : Bytes publicKeyLength} {s : InitiatorState}
    {oprfOutput randomizedPwd : Bytes hashLength} (b : Blinded P password request s)
    (hevaluate : InMemoryEvaluator.evaluateOprf P ⟨oprfSeed⟩ request accountId = .ok evaluated)
    (hfinalize : Oprf.finalize P password s.obliviousPrfBlindScalar evaluated = .ok oprfOutput)
    (hstretch : deriveRandomizedPassword P oprfOutput.toList password hashLength =
      .ok randomizedPwd) :
    ∃ d : Stretched P oprfSeed accountId password, d.randomizedPwd = randomizedPwd := by
  obtain ⟨keyBytes, hkeyBytes, hevaluate⟩ := Outcome.bind_eq_ok_iff.mp hevaluate
  obtain ⟨key, hkey, rfl⟩ := deriveOprfKey_ok P hkeyBytes
  have hrequest : b.blind • Oprf.inputPoint P password ≠ 0 :=
    smul_ne_zero b.blind_ne_zero b.admissible.point
  rw [b.request_eq, Oprf.evaluate_eq P hkey hrequest] at hevaluate
  obtain rfl := Outcome.ok.inj hevaluate
  rw [b.blindScalar, Oprf.finalize_blinded P b.admissible.nonempty b.blind_ne_zero hkey
    b.admissible.point] at hfinalize
  obtain rfl := Outcome.ok.inj hfinalize
  exact ⟨⟨b.admissible, key, hkeyBytes, randomizedPwd, hstretch⟩, rfl⟩

end Stretching

/-! ## The opened envelope -/

/-- What a client derives from a KE2 before it calls the cipher. -/
structure Opening (initiator : OpaqueInitiator) (client : InitiatorState)
    (ke2Data : List UInt8) where
  ke2 : Protocol.Ke2Ref
  parse : Protocol.parseKe2 ke2Data = .ok ke2
  evaluated : Bytes publicKeyLength
  masked : Bytes envelopeLength
  credentialResponse_eq : ke2.credentialResponse = evaluated.toList ++ masked.toList
  password : List UInt8
  holdsPassword : client.HoldsPassword password
  oprfOutput : Bytes hashLength
  finalize : Oprf.finalize P password client.obliviousPrfBlindScalar evaluated = .ok oprfOutput
  randomizedPwd : Bytes hashLength
  stretch : deriveRandomizedPassword P oprfOutput.toList password hashLength = .ok randomizedPwd

namespace Opening

variable {P} {initiator : OpaqueInitiator} {client : InitiatorState} {ke2Data : List UInt8}
  (o : Opening P initiator client ke2Data)

def key : Bytes secretboxKeyLength :=
  Envelope.envelopeKey P initiator.responderPublicKey o.randomizedPwd.toList

def envelope : Bytes envelopeLength :=
  xorBytes o.masked (credentialPad P (maskingKeyOf P o.randomizedPwd) o.ke2.responderNonce
    o.evaluated.toList client.accountContextHash)

theorem of_values (v : Ke3Values P initiator ke2Data client) :
    ∃ o : Opening P initiator client ke2Data,
      o.randomizedPwd = v.randomizedPwd ∧ Envelope.Decrypts P o.key o.envelope := by
  obtain ⟨masked, hmasked, hdecrypts⟩ := Agent.recoverKeys_ok v.recover
  exact ⟨
    { ke2 := v.ke2
      parse := (Agent.readKe2_ok P v.read).1
      evaluated := v.evaluated
      masked := masked
      credentialResponse_eq := by rw [v.credentialResponse_eq, hmasked]
      password := v.password
      holdsPassword := v.holdsPassword
      oprfOutput := v.oprfOutput
      finalize := v.finalize
      randomizedPwd := v.randomizedPwd
      stretch := v.stretch }, rfl, hdecrypts⟩

end Opening

/-! ## The exchange -/

/-- A client that waits for a KE2, and the KE2 that the relay made for its KE1. -/
structure Reached (responder : OpaqueResponder) (password accountId : List UInt8)
    (x : Exchanged) where
  request : Bytes publicKeyLength
  blinded : Blinded P password request x.client
  phase : x.client.phase = .ke1Generated
  fits : x.client.Fits
  accountContextHash :
    x.client.accountContextHash = sha512Multi P [Labels.accountContextBinding, accountId]
  accountContextHash_ne_zero : x.client.accountContextHash ≠ zeros _
  ke2 : Protocol.Ke2Ref
  sized : Protocol.Sized Protocol.ke2FieldLengths ke2.fields
  wire : x.ke2Wire.toList = Protocol.encode ke2.fields
  evaluated : Bytes publicKeyLength
  evaluate : responder.evaluator.evaluateOprf request accountId = .ok evaluated
  masked : Bytes envelopeLength
  credentialResponse : ke2.credentialResponse = evaluated.toList ++ masked.toList

section Exchange

variable {P} {responder : OpaqueResponder} {credentials : ResponderCredentials}
  {password accountId : List UInt8} {x : Exchanged} {w w' : World}

theorem exists_reached
    (h : (exchange P responder credentials password accountId).run w = (.ok x, w')) :
    Nonempty (Reached P responder password accountId x) := by
  obtain ⟨s₀, w₀, hnew, h⟩ := Cmd.run_bind_eq_ok_iff.mp h
  cases hnew
  obtain ⟨⟨ke1, client⟩, w₁, hke1, h⟩ := Cmd.run_bind_eq_ok_iff.mp h
  rw [Op.call_eq_ok_iff] at hke1
  obtain ⟨ke1Wire, w₂, hke1Wire, h⟩ := Cmd.run_bind_eq_ok_iff.mp h
  obtain ⟨s₁, w₃, hnew, h⟩ := Cmd.run_bind_eq_ok_iff.mp h
  cases hnew
  obtain ⟨⟨ke2, relay⟩, w₄, hke2, h⟩ := Cmd.run_bind_eq_ok_iff.mp h
  rw [Op.call_eq_ok_iff] at hke2
  obtain ⟨ke2Wire, w₅, hke2Wire, h⟩ := Cmd.run_bind_eq_ok_iff.mp h
  cases h
  rw [Cmd.run_liftM, Prod.mk.injEq] at hke1Wire hke2Wire
  obtain ⟨hke1Wire, rfl⟩ := hke1Wire
  obtain ⟨hke2Wire, rfl⟩ := hke2Wire
  -- the client's side
  obtain ⟨⟨b⟩, -⟩ := Agent.generateKe1_returns P _ _ _ trivial hke1
  have haccount := Agent.generateKe1_account hke1
  have hphase : client.phase = .ke1Generated := by
    rcases Agent.generateKe1_ends P _ _ _ _ _ hke1 with ⟨-, -, hphase, -⟩ | ⟨herr, -⟩
    · exact hphase
    · cases herr
  have hfits : client.Fits := by
    have hsafe := Agent.generateKe1_safe P password accountId
      ⟨.new, .newAt (w.clock 0), w.tick⟩ (Nat.zero_le _)
    rw [hke1] at hsafe
    exact hsafe.2
  -- the relay's side
  obtain ⟨r, htraced⟩ := Relay.generateKe2_eq_ok_iff.mp hke2
  obtain ⟨-, -, inputs, hinputs, v, -, hframe⟩ := Relay.generateKe2Traced_eq_ok_iff.mp htraced
  cases hframe
  obtain ⟨-, hparse, -, hhash⟩ := Relay.ke2Inputs_ok P hinputs
  have hsized : Protocol.Sized Protocol.ke1FieldLengths [ke1.credentialRequest.toList,
      ke1.initiatorPublicKey.toList, ke1.initiatorNonce.toList,
      ke1.pqEphemeralPublicKey.toList] := by simp [Protocol.Sized]
  have hwire := Protocol.wire_of_fill hke1Wire (Protocol.writeKe1_writes hsized le_rfl) hsized rfl
  have hke1Ref : inputs.ke1 = ⟨ke1.credentialRequest.toList, ke1.initiatorPublicKey.toList,
      ke1.initiatorNonce.toList, ke1.pqEphemeralPublicKey.toList⟩ :=
    Protocol.parseKe1_reads.eq_of_encode hparse hsized hwire
  have hrequest : v.credReq = ke1.credentialRequest := by
    apply List.Vector.toList_injective
    rw [← v.credReq_eq, hke1Ref]
  have hevaluate := v.evaluate
  rw [hrequest] at hevaluate
  have hne := v.accountContextHash_ne_zero
  rw [hhash, ← haccount, isAllZero_toList_eq_false_iff] at hne
  have hsized' : Protocol.Sized Protocol.ke2FieldLengths [v.message.responderNonce.toList,
      v.message.responderPublicKey.toList, v.message.credentialResponse.toList,
      v.message.responderMac.toList, v.message.kemCiphertext.toList] := by simp [Protocol.Sized]
  exact ⟨
    { request := ke1.credentialRequest
      blinded := b
      phase := hphase
      fits := hfits
      accountContextHash := haccount
      accountContextHash_ne_zero := hne
      ke2 := ⟨v.message.responderNonce.toList, v.message.responderPublicKey.toList,
        v.message.credentialResponse.toList, v.message.responderMac.toList,
        v.message.kemCiphertext.toList⟩
      sized := hsized'
      wire := Protocol.wire_of_fill hke2Wire (Protocol.writeKe2_writes hsized' le_rfl) hsized' rfl
      evaluated := v.evaluated
      evaluate := hevaluate
      masked := v.maskedEnvelope
      credentialResponse := rfl }⟩

/-- The password that the client recovers is stretched under the relay's seed. -/
theorem Reached.exists_stretched {oprfSeed : Bytes oprfSeedLength} {initiator : OpaqueInitiator}
    (hevaluator : responder.evaluator = InMemoryEvaluator.toOprfEvaluator P ⟨oprfSeed⟩)
    (r : Reached P responder password accountId x)
    (o : Opening P initiator x.client x.ke2Wire.toList) :
    o.ke2 = r.ke2 ∧ o.evaluated = r.evaluated ∧ o.masked = r.masked ∧
    ∃ d : Stretched P oprfSeed accountId password, d.randomizedPwd = o.randomizedPwd := by
  have hke2 : o.ke2 = r.ke2 :=
    Protocol.parseKe2_reads.eq_of_encode o.parse r.sized r.wire
  have hresponse : o.evaluated.toList ++ o.masked.toList =
      r.evaluated.toList ++ r.masked.toList := by
    rw [← o.credentialResponse_eq, ← r.credentialResponse, hke2]
  obtain ⟨hevaluated, hmasked⟩ := toList_append_inj hresponse
  have hpassword : o.password = password := o.holdsPassword.2.symm.trans r.blinded.holds.2
  have hevaluate := r.evaluate
  rw [hevaluator] at hevaluate
  have hfinalize := o.finalize
  have hstretch := o.stretch
  rw [hpassword, hevaluated] at hfinalize
  rw [hpassword] at hstretch
  exact ⟨hke2, hevaluated, List.Vector.toList_injective hmasked,
    Handshake.exists_stretched r.blinded hevaluate hfinalize hstretch⟩

end Exchange

/-! ## The record -/

section Registration

variable {P} {responder : OpaqueResponder}

theorem createRegistrationResponse_ok {data accountId : List UInt8} {u : Unit}
    {fresh resp : Relay.RegistrationResponse}
    (h : (Relay.createRegistrationResponse P responder data accountId).run fresh = (.ok u, resp)) :
    ∃ request evaluated : Bytes publicKeyLength,
      Protocol.parseRegistrationRequest data = .ok request.toList ∧
      responder.evaluator.evaluateOprf request accountId = .ok evaluated ∧
      resp.data.toList = evaluated.toList ++ responder.keypair.publicKey.toList := by
  simp only [Relay.createRegistrationResponse, Cmd.run_bind_eq_ok_iff, Cmd.run_failIf,
    Cmd.run_liftM, Cmd.run_okOr, Prod.mk.injEq, Outcome.okOr_eq_ok_iff] at h
  obtain ⟨payload, _, ⟨hparse, rfl⟩, _, _, ⟨-, rfl⟩, _, _, ⟨-, rfl⟩, request, _, ⟨hrequest, rfl⟩,
    evaluated, _, ⟨hevaluate, rfl⟩, hfill⟩ := h
  rw [tryInto_eq_some_iff] at hrequest
  refine ⟨request, evaluated, hrequest ▸ hparse, hevaluate, ?_⟩
  have hwrites : Writes 0 (evaluated.toList ++ responder.keypair.publicKey.toList) (do
      spliceAt 0 publicKeyLength evaluated.toList
      spliceAt publicKeyLength registrationResponseLength responder.keypair.publicKey.toList :
        Cmd OpaqueError (Bytes registrationResponseLength) Unit) := by
    refine .andThen (.spliceAt ?_) (.spliceAt ?_) ?_ <;> simp
  obtain ⟨buffer, hrun, hbuffer⟩ := hwrites (by simp) fresh.data
  rw [Cmd.run_zoom, hrun] at hfill
  cases hfill
  rw [hbuffer, List.drop_of_length_le (by simp), List.take_zero, List.nil_append, List.append_nil]

variable (P) in
/-- What a registration seals, and where the record has it. -/
structure Sealing (responder : OpaqueResponder) (oprfSeed : Bytes oprfSeedLength)
    (accountId password record : List UInt8) where
  stretched : Stretched P oprfSeed accountId password
  envelope : Bytes envelopeLength
  encrypts : Envelope.Encrypts P
    (Envelope.envelopeKey P responder.keypair.publicKey stretched.randomizedPwd.toList) envelope
  publicKey : Bytes publicKeyLength
  record_eq : record = Protocol.encode
    [(maskingKeyOf P stretched.randomizedPwd).toList, envelope.toList, publicKey.toList]

theorem exists_sealing {oprfSeed : Bytes oprfSeedLength} {accountId password : List UInt8}
    {record : Bytes registrationRecordLength} {w w' : World}
    (hevaluator : responder.evaluator = InMemoryEvaluator.toOprfEvaluator P ⟨oprfSeed⟩)
    (h : (register P responder password accountId).run w = (.ok record, w')) :
    Nonempty (Sealing P responder oprfSeed accountId password record.toList) := by
  obtain ⟨initiator, w₀, hinitiator, h⟩ := Cmd.run_bind_eq_ok_iff.mp h
  rw [Cmd.run_liftM, Prod.mk.injEq] at hinitiator
  obtain ⟨hinitiator, rfl⟩ := hinitiator
  obtain ⟨s₀, w₁, hnew, h⟩ := Cmd.run_bind_eq_ok_iff.mp h
  cases hnew
  obtain ⟨⟨req, state⟩, w₂, hreq, h⟩ := Cmd.run_bind_eq_ok_iff.mp h
  obtain ⟨reqWire, w₃, hreqWire, h⟩ := Cmd.run_bind_eq_ok_iff.mp h
  obtain ⟨resp, w₄, hresp, h⟩ := Cmd.run_bind_eq_ok_iff.mp h
  obtain ⟨evaluatedPart, w₅, hpart, h⟩ := Cmd.run_bind_eq_ok_iff.mp h
  obtain ⟨keyPart, w₆, hkeyPart, h⟩ := Cmd.run_bind_eq_ok_iff.mp h
  obtain ⟨respWire, w₇, hrespWire, h⟩ := Cmd.run_bind_eq_ok_iff.mp h
  obtain ⟨⟨rec, s₁⟩, w₈, hrec, hrecord⟩ := Cmd.run_bind_eq_ok_iff.mp h
  rw [Op.call_eq_ok_iff] at hreq hrec
  rw [Cmd.run_liftM, Prod.mk.injEq] at hreqWire hresp hrespWire hrecord
  rw [Cmd.run_lift, Prod.mk.injEq] at hpart hkeyPart
  rw [Cmd.fill_eq_ok_iff] at hresp
  -- the request and the relay's answer to it
  obtain ⟨b⟩ := Agent.createRegistrationRequest_returns P _ _ _ trivial hreq
  have hreqSized : Protocol.Sized [registrationRequestLength] [req.data.toList] := by
    simp [Protocol.Sized]
  have hreqData := Protocol.wire_of_fill hreqWire.1
    (Protocol.writeRegistrationRequest_writes hreqSized le_rfl) hreqSized rfl
  obtain ⟨request, evaluated, hparse, hevaluate, hresponse⟩ := createRegistrationResponse_ok hresp.1
  obtain rfl : req.data = request :=
    List.Vector.toList_injective
      (Protocol.parseRegistrationRequest_reads.eq_of_encode hparse hreqSized hreqData).symm
  rw [hresponse, slice_left _ _ (by simp)] at hpart
  rw [hresponse, slice_right _ _ (by simp) (by simp)] at hkeyPart
  obtain rfl := Outcome.ok.inj hpart.1
  obtain rfl := Outcome.ok.inj hkeyPart.1
  have hrespSized : Protocol.Sized Protocol.registrationResponseFieldLengths
      [evaluated.toList, responder.keypair.publicKey.toList] := by simp [Protocol.Sized]
  have hrespData := Protocol.wire_of_fill hrespWire.1
    (Protocol.writeRegistrationResponse_writes hrespSized le_rfl) hrespSized rfl
  -- the client's record
  obtain ⟨evaluated', oprfOutput, randomizedPwd, envelope, hparse', hfinalize, hstretch, hout,
    hencrypts⟩ := Agent.finalizeRegistration_ok b.holds hrec
  have hview : _ = (⟨evaluated.toList, responder.keypair.publicKey.toList⟩ :
      Protocol.RegistrationResponseRef) :=
    Protocol.parseRegistrationResponse_reads.eq_of_encode hparse' hrespSized hrespData
  obtain rfl : evaluated' = evaluated := List.Vector.toList_injective
    (congrArg Protocol.RegistrationResponseRef.evaluatedElement hview)
  have hkey : initiator.responderPublicKey = responder.keypair.publicKey :=
    List.Vector.toList_injective
      (congrArg Protocol.RegistrationResponseRef.responderPublicKey hview)
  rw [hevaluator] at hevaluate
  obtain ⟨d, rfl⟩ := exists_stretched b hevaluate hfinalize hstretch
  rw [hkey] at hencrypts
  replace hout : rec.envelope = (maskingKeyOf P d.randomizedPwd).toList ++ envelope.toList := hout
  have hrecSized : Protocol.Sized [registrationCredentialLength, publicKeyLength]
      [rec.envelope, rec.initiatorPublicKey.toList] := by
    simp [Protocol.Sized, hout]
  refine ⟨⟨d, envelope, hencrypts, rec.initiatorPublicKey, ?_⟩⟩
  rw [Protocol.wire_of_fill hrecord.1 (Protocol.writeRegistrationRecord_writes hrecSized le_rfl)
    hrecSized rfl, hout]
  simp [Protocol.encode]

end Registration

end AuraOpaque.Handshake
