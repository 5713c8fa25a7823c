import AuraOpaque.Handshake.KeyConfirmation

/-!
# What the relay's transcript says about KE1

The blinded element is not in the transcript.  Its image under the account's
key is, and that key is fixed by the account that the transcript hashes.
-/

namespace AuraOpaque.Handshake

open AuraOpaque.Foundation AuraOpaque.Core
open Relay (OpaqueResponder ResponderCredentials ResponderState Ke2Message ResponderKeyPair
  sampleResponder sampleKe1)

variable {P : Primitives}

theorem evaluateOprf_injective {evaluator : InMemoryEvaluator} {accountId : List UInt8}
    {blinded blinded' evaluated : Bytes publicKeyLength}
    (h : evaluator.evaluateOprf P blinded accountId = .ok evaluated)
    (h' : evaluator.evaluateOprf P blinded' accountId = .ok evaluated) : blinded = blinded' := by
  obtain ⟨key, hkey, h⟩ := Outcome.bind_eq_ok_iff.mp h
  obtain ⟨key', hkey', h'⟩ := Outcome.bind_eq_ok_iff.mp h'
  obtain rfl := Outcome.ok.inj (hkey.symm.trans hkey')
  obtain ⟨s, p, hs, -, hscalar, rfl, rfl⟩ := (scalarMult_eq_ok_iff P).mp h
  obtain ⟨s', p', -, -, hscalar', rfl, himage⟩ := (scalarMult_eq_ok_iff P).mp h'
  obtain rfl := P.group.asBytes_injective (hscalar.symm.trans hscalar')
  -- a non-zero scalar can be cancelled
  rw [smul_right_injective P.group.Point hs (P.group.compress_injective himage)]

theorem responder_evaluator {keypair : ResponderKeyPair} {oprfSeed : Bytes oprfSeedLength}
    {responder : OpaqueResponder} (h : OpaqueResponder.new P keypair oprfSeed = .ok responder) :
    responder.evaluator = InMemoryEvaluator.toOprfEvaluator P ⟨oprfSeed⟩ := by
  obtain ⟨_, -, h⟩ := Outcome.bind_eq_ok_iff.mp h
  obtain ⟨evaluator, hevaluator, h⟩ := Outcome.bind_eq_ok_iff.mp h
  obtain ⟨_, -, hevaluator⟩ := Outcome.bind_eq_ok_iff.mp hevaluator
  cases hevaluator
  cases h
  rfl

structure Ke2Run (P : Primitives) (responder : OpaqueResponder) (ke1Data accountId : List UInt8)
    (t : Transcript) where
  ke1 : Protocol.Ke1Ref
  parse : Protocol.parseKe1 ke1Data = .ok ke1
  sized : t.Sized
  credReq : Bytes publicKeyLength
  credReq_eq : ke1.credentialRequest = credReq.toList
  evaluated : Bytes publicKeyLength
  evaluate : responder.evaluator.evaluateOprf credReq accountId = .ok evaluated
  response : ∃ masked : Bytes envelopeLength,
    t.credentialResponse = evaluated.toList ++ masked.toList
  initiatorPublicKey : t.initiatorEphemeralPublicKey = ke1.initiatorPublicKey
  initiatorNonce : t.initiatorNonce = ke1.initiatorNonce
  pqEphemeralPublicKey : t.pqEphemeralPublicKey = ke1.pqEphemeralPublicKey
  account : t.accountContextHash = (accountContextHash P accountId).toList

theorem exists_ke2Run {responder : OpaqueResponder} {ke1Data accountId : List UInt8}
    {credentials : ResponderCredentials} {f f' : Frame Ke2Message ResponderState}
    {s : SharedSecrets} {t : Transcript}
    (h : (Relay.generateKe2Traced P responder ke1Data accountId credentials).run f =
      (.ok (s, t), f')) : Nonempty (Ke2Run P responder ke1Data accountId t) := by
  obtain ⟨-, -, inputs, hinputs, v, heq, -⟩ := Relay.generateKe2Traced_eq_ok_iff.mp h
  obtain ⟨hvalid, hparse, -, hhash⟩ := Relay.ke2Inputs_ok P hinputs
  obtain ⟨-, rfl⟩ := Prod.mk.inj heq
  exact ⟨
    { ke1 := inputs.ke1
      parse := hparse
      sized := v.transcript_sized hvalid
      credReq := v.credReq
      credReq_eq := v.credReq_eq
      evaluated := v.evaluated
      evaluate := v.evaluate
      response := ⟨v.maskedEnvelope, rfl⟩
      initiatorPublicKey := hvalid.initEphPk_eq.symm
      initiatorNonce := rfl
      pqEphemeralPublicKey := rfl
      account := by rw [← sha512Multi_account, ← hhash]; rfl }⟩

/-- Runs for one account with one transcript were given one message. -/
theorem Ke2Run.ke1Data_eq {keypair : ResponderKeyPair} {oprfSeed : Bytes oprfSeedLength}
    {responder : OpaqueResponder} {ke1Data ke1Data' accountId : List UInt8} {t : Transcript}
    (hresponder : OpaqueResponder.new P keypair oprfSeed = .ok responder)
    (r : Ke2Run P responder ke1Data accountId t) (r' : Ke2Run P responder ke1Data' accountId t) :
    ke1Data = ke1Data' := by
  obtain ⟨masked, hresponse⟩ := r.response
  obtain ⟨masked', hresponse'⟩ := r'.response
  obtain ⟨hevaluated, -⟩ := toList_append_inj (hresponse.symm.trans hresponse')
  have hevaluate := r.evaluate
  have hevaluate' := r'.evaluate
  rw [responder_evaluator hresponder] at hevaluate hevaluate'
  rw [← hevaluated] at hevaluate'
  have hrequest : r.ke1.credentialRequest = r'.ke1.credentialRequest := by
    rw [r.credReq_eq, r'.credReq_eq, evaluateOprf_injective hevaluate hevaluate']
  obtain ⟨-, hdata⟩ := Protocol.parseKe1_reads.eq_ok_iff.mp r.parse
  obtain ⟨-, hdata'⟩ := Protocol.parseKe1_reads.eq_ok_iff.mp r'.parse
  rw [hdata, hdata', Protocol.Ke1Ref.fields, Protocol.Ke1Ref.fields, hrequest,
    ← r.initiatorPublicKey, ← r.initiatorNonce, ← r.pqEphemeralPublicKey,
    r'.initiatorPublicKey, r'.initiatorNonce, r'.pqEphemeralPublicKey]

/--
Two answers of one relay with equal MAC inputs were given to the same account
for the same message, or two accounts have the same hash.
-/
theorem transcript_determines_ke1 {keypair : ResponderKeyPair} {oprfSeed : Bytes oprfSeedLength}
    {responder : OpaqueResponder}
    (hresponder : OpaqueResponder.new P keypair oprfSeed = .ok responder)
    {ke1Data ke1Data' accountId accountId' : List UInt8}
    {credentials credentials' : ResponderCredentials}
    {f f' g g' : Frame Ke2Message ResponderState} {s s' : SharedSecrets} {t t' : Transcript}
    (h : (Relay.generateKe2Traced P responder ke1Data accountId credentials).run f =
      (.ok (s, t), g))
    (h' : (Relay.generateKe2Traced P responder ke1Data' accountId' credentials').run f' =
      (.ok (s', t'), g'))
    (hmac : t.encode = t'.encode) :
    (accountId = accountId' ∧ ke1Data = ke1Data') ∨
      Collides P.sha512
        [Labels.accountContextBinding ++ accountId,
         Labels.accountContextBinding ++ accountId'] := by
  obtain ⟨r⟩ := exists_ke2Run h
  obtain ⟨r'⟩ := exists_ke2Run h'
  obtain rfl := Transcript.encode_injective r.sized r'.sized hmac
  have hhash : P.sha512 (Labels.accountContextBinding ++ accountId) =
      P.sha512 (Labels.accountContextBinding ++ accountId') :=
    List.Vector.toList_injective (r.account.symm.trans r'.account)
  refine (eq_or_collides ?_ ?_ hhash).imp (fun haccount => ?_) id
  · simp
  · simp
  · obtain rfl := List.append_cancel_left haccount
    exact ⟨rfl, r.ke1Data_eq hresponder r'⟩

/-! ## On the small instance -/

/-- A relay knows an account by its hash, its key and its made-up record. -/
theorem generateKe2Traced_congr {responder : OpaqueResponder}
    {ke1Data accountId accountId' : List UInt8} {credentials : ResponderCredentials}
    (hempty : accountId.isEmpty = accountId'.isEmpty)
    (hhash : sha512Multi P [Labels.accountContextBinding, accountId] =
      sha512Multi P [Labels.accountContextBinding, accountId'])
    (hfake : responder.evaluator.deriveFakeMaterial accountId =
      responder.evaluator.deriveFakeMaterial accountId')
    (hevaluate : ∀ element, responder.evaluator.evaluateOprf element accountId =
      responder.evaluator.evaluateOprf element accountId') :
    Relay.generateKe2Traced P responder ke1Data accountId credentials =
      Relay.generateKe2Traced P responder ke1Data accountId' credentials := by
  simp only [Relay.generateKe2Traced, Relay.ke2Checks, Relay.ke2Inputs, Relay.selectCredentials,
    Relay.fakeCredentials, Relay.ke2Body, Relay.ke2Derive, Relay.ke2CredentialResponse, hempty,
    hhash, hfake, hevaluate]

theorem sampleResponder_new : OpaqueResponder.new Sample.primitives sampleResponder.keypair
    (List.Vector.replicate oprfSeedLength 1) = .ok sampleResponder := by
  have hvalid : validatePublicKey Sample.primitives sampleResponder.keypair.publicKey.toList =
      .ok () :=
    (validatePublicKey_eq_ok_iff Sample.primitives).mpr
      ⟨(1 : ZMod 5), (by decide : (1 : ZMod 5) ≠ 0), rfl⟩
  rw [OpaqueResponder.new, hvalid]
  rfl

/-- The checksum of the small instance does not see a leading byte of zero. -/
theorem sha512Multi_alike (parts : List (List UInt8)) :
    sha512Multi Sample.primitives (parts ++ [[1]]) =
      sha512Multi Sample.primitives (parts ++ [[0, 1]]) := by
  have hsum : (parts ++ [[1]]).flatten.sum = (parts ++ [[0, 1]]).flatten.sum := by simp
  exact congrArg (Sample.marked 62) hsum

theorem sample_accounts_alike (ke1Data : List UInt8) :
    Relay.generateKe2Traced Sample.primitives sampleResponder ke1Data [1] .new =
      Relay.generateKe2Traced Sample.primitives sampleResponder ke1Data [0, 1] .new := by
  refine generateKe2Traced_congr rfl (sha512Multi_alike [_])
    (congrArg Outcome.ok (sha512Multi_alike [_, _])) fun element => ?_
  have hkeys : ∀ accountId : List UInt8, accountId.isEmpty = false →
      sampleResponder.evaluator.evaluateOprf element accountId =
        Oprf.evaluate Sample.primitives element (Sample.encode 31 1) := by
    intro accountId haccount
    change (deriveOprfKey Sample.primitives _ accountId >>= _) = _
    rw [Sample.deriveOprfKey_eq rfl haccount]
    rfl
  rw [hkeys _ rfl, hkeys _ rfl]

/-- Two accounts with one checksum are answered with one transcript. -/
theorem transcript_determines_ke1_sample : ∃ s t g s' t' g',
    let ke1Data := sampleKe1 (Sample.encapsulationKey 7).val
    (Relay.generateKe2Traced Sample.primitives sampleResponder ke1Data [1] .new).run
      ⟨.new, .newAt 0, Sample.world 0⟩ = (.ok (s, t), g) ∧
    (Relay.generateKe2Traced Sample.primitives sampleResponder ke1Data [0, 1] .new).run
      ⟨.new, .newAt 0, Sample.world 0⟩ = (.ok (s', t'), g') ∧
    t.encode = t'.encode ∧
    Collides Sample.primitives.sha512
      [Labels.accountContextBinding ++ [1], Labels.accountContextBinding ++ [0, 1]] := by
  obtain ⟨f', hanswers, -⟩ := Relay.sample_answers 0 0
  obtain ⟨⟨s, t⟩, hrun⟩ := Relay.generateKe2_eq_ok_iff.mp hanswers
  have hrun' := hrun
  rw [sample_accounts_alike] at hrun'
  refine ⟨_, _, _, _, _, _, hrun, hrun', rfl, ?_⟩
  rcases transcript_determines_ke1 sampleResponder_new hrun hrun' rfl with
    ⟨haccount, -⟩ | hcollides
  · cases haccount
  · exact hcollides

end AuraOpaque.Handshake
