import AuraOpaque.Relay.Authentication

/-!
# What `generate_ke2` computes

`Ke2Values` collects what a successful run draws and decodes.  With such values
the body succeeds and its results are explicit; without them it fails.
-/

namespace AuraOpaque.Relay

open AuraOpaque.Foundation AuraOpaque.Core
open Handshake (SharedSecrets Transcript)

variable (P : Primitives)

/-! ## Checked inputs -/

/-- What the checks on a KE1 and on the selected credentials establish. -/
structure Ke2Inputs.Valid (inputs : Ke2Inputs) : Prop where
  sized : Protocol.Sized Protocol.ke1FieldLengths inputs.ke1.fields
  initEphPk_eq : inputs.ke1.initiatorPublicKey = inputs.initEphPk.toList
  credentialRequest : ∃ p, p ≠ 0 ∧ inputs.ke1.credentialRequest = (P.group.compress p).toList
  initEphPk : ∃ p, p ≠ 0 ∧ inputs.initEphPk = P.group.compress p
  selected : ∃ p, p ≠ 0 ∧ inputs.selected.publicKey = P.group.compress p

theorem ke2Inputs_ok {responder : OpaqueResponder} {ke1Data accountId : List UInt8}
    {credentials : ResponderCredentials} {inputs : Ke2Inputs}
    (h : ke2Inputs P responder ke1Data accountId credentials = .ok inputs) :
    inputs.Valid P ∧ Protocol.parseKe1 ke1Data = .ok inputs.ke1 ∧
      selectCredentials P responder accountId credentials = .ok inputs.selected ∧
      inputs.accountContextHash = sha512Multi P [Labels.accountContextBinding, accountId] := by
  simp only [ke2Inputs, Outcome.bind_eq_ok_iff, Outcome.okOr_eq_ok_iff] at h
  obtain ⟨ke1, hparse, initEphPk, hinit, selected, hselect, _, hrequest, _, hkey, _, hselected,
    heq⟩ := h
  cases heq
  obtain ⟨x, hx, hrequest⟩ := (validateRistrettoPoint_eq_ok_iff P).mp hrequest
  obtain ⟨y, hy, hkey⟩ := (validatePublicKey_eq_ok_iff P).mp hkey
  obtain ⟨z, hz, hselected⟩ := (validatePublicKey_eq_ok_iff P).mp hselected
  refine ⟨⟨(Protocol.parseKe1_reads.eq_ok_iff.mp hparse).1, tryInto_eq_some_iff.mp hinit,
    ⟨x, hx, hrequest⟩, ⟨y, hy, List.Vector.toList_injective hkey⟩,
    ⟨z, hz, List.Vector.toList_injective hselected⟩⟩, hparse, hselect, rfl⟩

/-- The inputs of a message whose points are all valid. -/
theorem ke2Inputs_eq {responder : OpaqueResponder} {ke1Data accountId : List UInt8}
    {credentials : ResponderCredentials} {ke1 : Protocol.Ke1Ref}
    {selected : CredentialMaterial} {request initiator client : P.group.Point}
    (hparse : Protocol.parseKe1 ke1Data = .ok ke1)
    (hselect : selectCredentials P responder accountId credentials = .ok selected)
    (hrequest : request ≠ 0) (hinitiator : initiator ≠ 0) (hclient : client ≠ 0)
    (hrequestBytes : ke1.credentialRequest = (P.group.compress request).toList)
    (hinitiatorBytes : ke1.initiatorPublicKey = (P.group.compress initiator).toList)
    (hclientBytes : selected.publicKey = P.group.compress client) :
    ke2Inputs P responder ke1Data accountId credentials =
      .ok
        { ke1
          initEphPk := P.group.compress initiator
          selected
          accountContextHash := sha512Multi P [Labels.accountContextBinding, accountId] } := by
  have hvalidRequest : validateRistrettoPoint P ke1.credentialRequest = .ok () :=
    (validateRistrettoPoint_eq_ok_iff P).mpr ⟨request, hrequest, hrequestBytes⟩
  have hvalidInitiator : validatePublicKey P (P.group.compress initiator).toList = .ok () :=
    (validatePublicKey_eq_ok_iff P).mpr ⟨initiator, hinitiator, rfl⟩
  have hvalidClient : validatePublicKey P selected.publicKey.toList = .ok () :=
    (validatePublicKey_eq_ok_iff P).mpr ⟨client, hclient, by rw [hclientBytes]⟩
  simp only [ke2Inputs, hparse, hinitiatorBytes, tryInto_toList, Outcome.okOr_some, hselect,
    hvalidRequest, hvalidInitiator, hvalidClient, Outcome.ok_bind, Outcome.pure_eq]

/-! ## The values of a successful run -/

/-- What a run draws, decodes and is handed by the evaluator. -/
structure Ke2Values (responder : OpaqueResponder) (accountId : List UInt8) (inputs : Ke2Inputs)
    (world : World) where
  ephemeral : P.group.Scalar
  ephemeral_ne_zero : ephemeral ≠ 0
  drawn : World
  draw : (randomNonzeroScalar P).run world = (.ok (P.group.asBytes ephemeral), drawn)
  credReq : Bytes publicKeyLength
  credReq_eq : inputs.ke1.credentialRequest = credReq.toList
  evaluated : Bytes publicKeyLength
  evaluate : responder.evaluator.evaluateOprf credReq accountId = .ok evaluated
  maskingKey_ne_zero : isAllZero inputs.selected.maskingKey.toList = false
  accountContextHash_ne_zero : isAllZero inputs.accountContextHash.toList = false
  relay : P.group.Scalar
  relay_ne_zero : relay ≠ 0
  relay_eq : responder.keypair.privateKey = P.group.asBytes relay
  initiator : P.group.Point
  initiator_ne_zero : initiator ≠ 0
  initiator_eq : inputs.initEphPk = P.group.compress initiator
  client : P.group.Point
  client_ne_zero : client ≠ 0
  client_eq : inputs.selected.publicKey = P.group.compress client
  kemKeyBytes : Bytes kemPublicKeyLength
  kemKeyBytes_eq : inputs.ke1.pqEphemeralPublicKey = kemKeyBytes.toList
  kemKey : P.kem.EncapsulationKey
  kemKey_new : P.kem.ekNew kemKeyBytes = some kemKey
  kemKey_bytes : P.kem.ekToBytes kemKey = kemKeyBytes

/-- The state once the long-term keys are in it. -/
def ResponderState.adopt (s : ResponderState) (kp : ResponderKeyPair)
    (initEphPk : Bytes publicKeyLength) : ResponderState :=
  { s with
    initiatorPublicKey := initEphPk
    responderPrivateKey := kp.privateKey
    responderPublicKey := kp.publicKey
    handshakeComplete := false }

/-- The evaluated element followed by the masked envelope. -/
def joinResponse (evaluated : Bytes publicKeyLength) (masked : Bytes envelopeLength) :
    Bytes credentialResponseLength :=
  ofList (evaluated.toList ++ masked.toList) (by simp)

/-- The transcript that the locals of the derivation make up. -/
def localTranscript (responder : OpaqueResponder) (inputs : Ke2Inputs) (state : ResponderState)
    (ke2 : Ke2Message) : Transcript where
  initiatorEphemeralPublicKey := inputs.initEphPk.toList
  responderEphemeralPublicKey := state.responderEphemeralPublicKey.toList
  initiatorNonce := inputs.ke1.initiatorNonce
  responderNonce := ke2.responderNonce.toList
  initiatorPublicKey := inputs.selected.publicKey.toList
  responderPublicKey := responder.keypair.publicKey.toList
  credentialResponse := ke2.credentialResponse.toList
  pqEphemeralPublicKey := inputs.ke1.pqEphemeralPublicKey
  kemCiphertext := ke2.kemCiphertext.toList
  accountContextHash := inputs.accountContextHash.toList

theorem localTranscript_sized {P : Primitives} {responder : OpaqueResponder} {inputs : Ke2Inputs}
    (hvalid : inputs.Valid P) (state : ResponderState) (ke2 : Ke2Message) :
    (localTranscript responder inputs state ke2).Sized := by
  have hsized := hvalid.sized
  simp only [Protocol.Sized, List.map_cons, List.map_nil, List.cons.injEq, and_true] at hsized
  simp [Transcript.Sized, Transcript.fields, localTranscript, hsized.2.2.1, hsized.2.2.2]

namespace Ke2Values

variable {P} {responder : OpaqueResponder} {accountId : List UInt8} {inputs : Ke2Inputs}
  {world : World} (v : Ke2Values P responder accountId inputs world)

def nonce : Bytes nonceLength := World.window v.drawn.tape nonceLength

def ephemeralPublicKey : Bytes publicKeyLength :=
  P.group.compress (v.ephemeral • P.group.basepoint)

def maskedEnvelope : Bytes envelopeLength :=
  xorBytes inputs.selected.envelope
    (credentialPad P inputs.selected.maskingKey v.nonce.toList v.evaluated.toList
      inputs.accountContextHash)

def credentialResponse : Bytes credentialResponseLength :=
  joinResponse v.evaluated v.maskedEnvelope

def nonceDrawn : World := v.drawn.advance nonceLength

def encapsulation : Bytes kemCiphertextLength × Bytes kemSharedSecretLength :=
  P.kem.encapsulate v.kemKey (World.window v.nonceDrawn.tape 32)

def secrets : SharedSecrets where
  dh1 := P.group.compress (v.relay • v.client)
  dh2 := P.group.compress (v.relay • v.initiator)
  dh3 := P.group.compress (v.ephemeral • v.client)
  dh4 := P.group.compress (v.ephemeral • v.initiator)
  kemSs := v.encapsulation.2

def transcript : Transcript where
  initiatorEphemeralPublicKey := inputs.initEphPk.toList
  responderEphemeralPublicKey := v.ephemeralPublicKey.toList
  initiatorNonce := inputs.ke1.initiatorNonce
  responderNonce := v.nonce.toList
  initiatorPublicKey := inputs.selected.publicKey.toList
  responderPublicKey := responder.keypair.publicKey.toList
  credentialResponse := v.credentialResponse.toList
  pqEphemeralPublicKey := inputs.ke1.pqEphemeralPublicKey
  kemCiphertext := v.encapsulation.1.toList
  accountContextHash := inputs.accountContextHash.toList

def message : Ke2Message where
  responderNonce := v.nonce
  responderPublicKey := v.ephemeralPublicKey
  credentialResponse := v.credentialResponse
  responderMac := Handshake.responderMac P v.secrets v.transcript
  kemCiphertext := v.encapsulation.1

def worldAfter : World := (v.nonceDrawn.advance 32).tick

def stateAfter : ResponderState where
  phase := .ke2Generated
  createdAt := v.nonceDrawn.clock 0
  responderPrivateKey := responder.keypair.privateKey
  responderPublicKey := responder.keypair.publicKey
  responderEphemeralPrivateKey := P.group.asBytes v.ephemeral
  responderEphemeralPublicKey := v.ephemeralPublicKey
  initiatorPublicKey := inputs.initEphPk
  sessionKey := Handshake.sessionKey P v.secrets v.transcript
  expectedInitiatorMac := Handshake.initiatorMac P v.secrets v.transcript
  handshakeComplete := false
  pqSharedSecret := v.secrets.kemSs

def ephemeralFrame (f : Frame Ke2Message ResponderState) : Frame Ke2Message ResponderState where
  out := { f.out with responderNonce := v.nonce, responderPublicKey := v.ephemeralPublicKey }
  state := { f.state.adopt responder.keypair inputs.initEphPk with
    responderEphemeralPrivateKey := P.group.asBytes v.ephemeral
    responderEphemeralPublicKey := v.ephemeralPublicKey }
  world := v.nonceDrawn

def responseFrame (f : Frame Ke2Message ResponderState) : Frame Ke2Message ResponderState where
  out := { (v.ephemeralFrame f).out with credentialResponse := v.credentialResponse }
  state := (v.ephemeralFrame f).state
  world := v.nonceDrawn

def secretsFrame (f : Frame Ke2Message ResponderState) : Frame Ke2Message ResponderState where
  out := { (v.responseFrame f).out with kemCiphertext := v.encapsulation.1 }
  state := { (v.ephemeralFrame f).state with pqSharedSecret := v.encapsulation.2 }
  world := v.nonceDrawn.advance 32

theorem transcript_sized (hvalid : inputs.Valid P) : v.transcript.Sized :=
  localTranscript_sized hvalid v.stateAfter v.message

end Ke2Values

/-! ## Block by block -/

section Blocks

variable {P} {responder : OpaqueResponder} {accountId : List UInt8} {inputs : Ke2Inputs}
  {f : Frame Ke2Message ResponderState}

theorem ke2Ephemeral_run {e : P.group.Scalar} {w : World} (he : e ≠ 0)
    (hdraw : (randomNonzeroScalar P).run f.world = (.ok (P.group.asBytes e), w)) :
    (ke2Ephemeral P responder inputs).run f =
      (.ok (),
        { out := { f.out with
            responderNonce := World.window w.tape nonceLength
            responderPublicKey := P.group.compress (e • P.group.basepoint) }
          state := { f.state.adopt responder.keypair inputs.initEphPk with
            responderEphemeralPrivateKey := P.group.asBytes e
            responderEphemeralPublicKey := P.group.compress (e • P.group.basepoint) }
          world := w.advance nonceLength }) := by
  simp only [ke2Ephemeral, Cmd.run_bind, Op.run_modifyState, Op.run_onWorld, hdraw,
    Cmd.run_liftM, scalarmultBase_asBytes P he,
    randomBytes_run (show nonceLength ≠ 0 by decide), Op.run_modifyOut]
  rfl

theorem ke2Ephemeral_run_of_err {w : World}
    (hdraw : (randomNonzeroScalar P).run f.world = (.err .cryptoError, w)) :
    (ke2Ephemeral P responder inputs).run f =
      (.err .cryptoError,
        { f with state := f.state.adopt responder.keypair inputs.initEphPk, world := w }) := by
  simp only [ke2Ephemeral, Cmd.run_bind, Op.run_modifyState, Op.run_onWorld, hdraw]
  rfl

theorem writeCredentialResponse_run {lo hi : ℕ} {source written rest : List UInt8}
    (hresponse : f.out.credentialResponse.toList = written ++ rest) (hlo : lo = written.length)
    (hhi : hi = lo + source.length) (hfits : source.length ≤ rest.length) :
    ∃ response : Bytes credentialResponseLength,
      (writeCredentialResponse lo hi source).run f =
        (.ok (), { f with out := { f.out with credentialResponse := response } }) ∧
      response.toList = (written ++ source) ++ rest.drop source.length := by
  obtain ⟨response, hsplice, hlist⟩ :=
    @splice_toList OpaqueError _ _ _ _ _ source lo hi hresponse hlo hhi hfits
  exact ⟨response, by simp [writeCredentialResponse, spliceAt, hsplice], hlist⟩

theorem ke2CredentialResponse_run {credReq evaluated : Bytes publicKeyLength}
    (hcred : inputs.ke1.credentialRequest = credReq.toList)
    (hevaluate : responder.evaluator.evaluateOprf credReq accountId = .ok evaluated)
    (hkey : isAllZero inputs.selected.maskingKey.toList = false)
    (hhash : isAllZero inputs.accountContextHash.toList = false) :
    (ke2CredentialResponse P responder accountId inputs).run f =
      (.ok (), { f with out := { f.out with
        credentialResponse := joinResponse evaluated (xorBytes inputs.selected.envelope
          (credentialPad P inputs.selected.maskingKey f.out.responderNonce.toList
            evaluated.toList inputs.accountContextHash)) } }) := by
  obtain ⟨r₁, hwrite₁, hr₁⟩ := @writeCredentialResponse_run f 0 publicKeyLength evaluated.toList []
    f.out.credentialResponse.toList rfl rfl (by simp) (by simp)
  rw [List.nil_append] at hr₁
  have hmask := maskCredentialEnvelope_eq P inputs.selected.envelope hkey
    (List.Vector.toList_length f.out.responderNonce) (List.Vector.toList_length evaluated) hhash
  generalize xorBytes inputs.selected.envelope _ = masked at hmask ⊢
  obtain ⟨r₂, hwrite₂, hr₂⟩ := @writeCredentialResponse_run
    { f with out := { f.out with credentialResponse := r₁ } } publicKeyLength
    credentialResponseLength masked.toList _ _ hr₁ (by simp) (by simp) (by simp)
  have hlast : r₂ = joinResponse evaluated masked := by
    apply List.Vector.toList_injective
    rw [hr₂, List.drop_of_length_le (by simp), List.append_nil]
    rfl
  rw [ke2CredentialResponse, hcred, tryInto_toList]
  simp only [Cmd.run_bind, Cmd.run_okOr, Outcome.okOr_some, Cmd.run_liftM, hevaluate, hwrite₁,
    Op.run_getOut, hmask, hwrite₂, hlast]

theorem ke2Secrets_run {e s : P.group.Scalar} {x a : P.group.Point} (he : e ≠ 0) (hs : s ≠ 0)
    (hx : x ≠ 0) (ha : a ≠ 0)
    (hephemeral : f.state.responderEphemeralPrivateKey = P.group.asBytes e)
    (hrelay : responder.keypair.privateKey = P.group.asBytes s)
    (hinitiator : inputs.initEphPk = P.group.compress x)
    (hclient : inputs.selected.publicKey = P.group.compress a)
    {bytes : Bytes kemPublicKeyLength} {ek : P.kem.EncapsulationKey}
    (hbytes : inputs.ke1.pqEphemeralPublicKey = bytes.toList)
    (hek : P.kem.ekNew bytes = some ek) (hcanonical : P.kem.ekToBytes ek = bytes) :
    (ke2Secrets P responder inputs).run f =
      (.ok
        { dh1 := P.group.compress (s • a)
          dh2 := P.group.compress (s • x)
          dh3 := P.group.compress (e • a)
          dh4 := P.group.compress (e • x)
          kemSs := (P.kem.encapsulate ek (World.window f.world.tape 32)).2 },
        { out := { f.out with
            kemCiphertext := (P.kem.encapsulate ek (World.window f.world.tape 32)).1 }
          state := { f.state with
            pqSharedSecret := (P.kem.encapsulate ek (World.window f.world.tape 32)).2 }
          world := f.world.advance 32 }) := by
  have hproducts : ke2Products P responder.keypair f.state.responderEphemeralPrivateKey inputs =
      .ok (P.group.compress (s • a), P.group.compress (s • x), P.group.compress (e • a),
        P.group.compress (e • x)) := by
    simp only [ke2Products, hephemeral, hrelay, hinitiator, hclient,
      scalarMult_encoded P hs ha, scalarMult_encoded P hs hx, scalarMult_encoded P he ha,
      scalarMult_encoded P he hx, Outcome.ok_bind, Outcome.pure_eq]
  simp only [ke2Secrets, Cmd.run_bind, Op.run_getState, Cmd.run_liftM, hproducts,
    Op.run_onWorld, hbytes, PqKem.encapsulate_run P hek hcanonical, Op.run_modifyOut,
    Op.run_modifyState, Cmd.run_pure]

theorem ke2ClassicalIkm_eq (secrets : SharedSecrets) :
    ke2ClassicalIkm secrets = .ok (ofList secrets.classicalIkm secrets.classicalIkm_length) := by
  refine Writes.fill (.spliceThen ?_ (.spliceThen ?_ (.spliceThen ?_ (.spliceAt ?_)))) _ _ <;> simp

theorem ke2MacInput_eq {kp : ResponderKeyPair} {state : ResponderState} {ke2 : Ke2Message}
    {t : Transcript} (hsized : t.Sized)
    (hfields : t.fields =
      [inputs.initEphPk.toList, state.responderEphemeralPublicKey.toList,
        inputs.ke1.initiatorNonce, ke2.responderNonce.toList, inputs.selected.publicKey.toList,
        kp.publicKey.toList, ke2.credentialResponse.toList, inputs.ke1.pqEphemeralPublicKey,
        ke2.kemCiphertext.toList, inputs.accountContextHash.toList]) :
    ke2MacInput kp state ke2 inputs = .ok t.encode := by
  have happends : Appends t.encode (ke2AppendFields kp state ke2 inputs) := by
    simp only [Transcript.encode, hfields, List.flatten_cons, List.flatten_nil, List.append_nil]
    exact .appendThen (.appendThen (.appendThen (.appendThen (.appendThen (.appendThen (.appendThen
      (.appendThen (.appendThen (.append _)))))))))
  obtain ⟨cursor, hfill, hread⟩ := happends.fill (by rw [hsized.encode_length]; decide)
    (zeros transcriptInputLength)
  rw [ke2MacInput, hfill, Outcome.ok_bind, hread]

theorem ke2KeySchedule_run {classicalIkm : Bytes classicalIkmLength} {secrets : SharedSecrets}
    {t : Transcript} (hikm : classicalIkm.toList = secrets.classicalIkm) (hsized : t.Sized) :
    (ke2KeySchedule P classicalIkm secrets.kemSs t.encode).run f =
      (.ok (),
        { f with
          out := { f.out with responderMac := Handshake.responderMac P secrets t }
          state := { f.state with
            sessionKey := Handshake.sessionKey P secrets t
            expectedInitiatorMac := Handshake.initiatorMac P secrets t } }) := by
  have hsession := Cmd.fill_eq_ok_iff.mp
    (Handshake.expand_schedule P secrets t Labels.pqSessionKeyInfo)
  simp only [ke2KeySchedule, Cmd.run_bind, Cmd.run_liftM, Handshake.sha512Multi_transcript, hikm,
    Handshake.combineKeyMaterial_schedule, Op.run_modifyState, Cmd.run_zoom, hsession,
    Handshake.expand_schedule, Handshake.hmacSha512_schedule P hsized, Op.run_modifyOut]
  rfl

end Blocks

/-! ## The whole body -/

section Body

variable {P} {responder : OpaqueResponder} {accountId : List UInt8} {inputs : Ke2Inputs}
  {f : Frame Ke2Message ResponderState}

theorem ke2Derive_run (hvalid : inputs.Valid P)
    (v : Ke2Values P responder accountId inputs f.world) :
    (ke2Derive P responder accountId inputs).run f =
      (.ok (v.secrets, v.transcript),
        { out := v.message
          state := { v.stateAfter with phase := f.state.phase, createdAt := f.state.createdAt }
          world := v.nonceDrawn.advance 32 }) := by
  have hsized := v.transcript_sized hvalid
  have hephemeral : (ke2Ephemeral P responder inputs).run f = (.ok (), v.ephemeralFrame f) :=
    ke2Ephemeral_run v.ephemeral_ne_zero v.draw
  have hresponse : (ke2CredentialResponse P responder accountId inputs).run
      (v.ephemeralFrame f) = (.ok (), v.responseFrame f) :=
    ke2CredentialResponse_run v.credReq_eq v.evaluate v.maskingKey_ne_zero
      v.accountContextHash_ne_zero
  have hsecrets : (ke2Secrets P responder inputs).run (v.responseFrame f) =
      (.ok v.secrets, v.secretsFrame f) :=
    ke2Secrets_run v.ephemeral_ne_zero v.relay_ne_zero v.initiator_ne_zero v.client_ne_zero rfl
      v.relay_eq v.initiator_eq v.client_eq v.kemKeyBytes_eq v.kemKey_new v.kemKey_bytes
  have hmac : ke2MacInput responder.keypair (v.secretsFrame f).state (v.secretsFrame f).out inputs =
      .ok v.transcript.encode := ke2MacInput_eq hsized rfl
  have hschedule := @ke2KeySchedule_run P (v.secretsFrame f) _ v.secrets v.transcript
    (toList_ofList _ v.secrets.classicalIkm_length) hsized
  rw [ke2Derive, Cmd.run_bind_ok hephemeral, Cmd.run_bind_ok hresponse, Cmd.run_bind_ok hsecrets,
    Cmd.run_bind_ok (by rw [Cmd.run_liftM, ke2ClassicalIkm_eq]),
    Cmd.run_bind_ok (Op.run_getState _), Cmd.run_bind_ok (Op.run_getOut _),
    Cmd.run_bind_ok (by rw [Cmd.run_liftM, hmac]), Cmd.run_bind_ok hschedule]
  rfl

theorem ke2Body_run (hvalid : inputs.Valid P)
    (v : Ke2Values P responder accountId inputs f.world) :
    (ke2Body P responder accountId inputs).run f =
      (.ok (v.secrets, v.transcript),
        { out := v.message, state := v.stateAfter, world := v.worldAfter }) := by
  rw [ke2Body, Cmd.run_bind_ok (ke2Derive_run hvalid v)]
  rfl

theorem ke2CredentialResponse_ok {u : Unit} {f' : Frame Ke2Message ResponderState}
    (h : (ke2CredentialResponse P responder accountId inputs).run f = (.ok u, f')) :
    ∃ credReq evaluated, inputs.ke1.credentialRequest = credReq.toList ∧
      responder.evaluator.evaluateOprf credReq accountId = .ok evaluated ∧
      isAllZero inputs.selected.maskingKey.toList = false ∧
      isAllZero inputs.accountContextHash.toList = false := by
  simp only [ke2CredentialResponse, Cmd.run_bind_eq_ok_iff, Cmd.run_okOr, Cmd.run_liftM,
    Prod.mk.injEq, Outcome.okOr_eq_ok_iff] at h
  obtain ⟨credReq, _, ⟨hcred, -⟩, evaluated, _, ⟨hevaluate, -⟩, _, _, -, ke2, _, -, masked, _,
    ⟨hmask, -⟩, -⟩ := h
  refine ⟨credReq, evaluated, tryInto_eq_some_iff.mp hcred, hevaluate, ?_⟩
  rcases maskCredentialEnvelope_cases P inputs.selected.maskingKey ke2.responderNonce.toList
    evaluated.toList inputs.accountContextHash inputs.selected.envelope with
    ⟨hkey, -, -, hhash⟩ | herr
  · exact ⟨hkey, hhash⟩
  · rw [hmask] at herr
    cases herr

theorem ke2Secrets_ok {r : SharedSecrets} {f' : Frame Ke2Message ResponderState}
    (h : (ke2Secrets P responder inputs).run f = (.ok r, f')) :
    (∃ s, s ≠ 0 ∧ responder.keypair.privateKey = P.group.asBytes s) ∧
      PqKem.WellFormed P inputs.ke1.pqEphemeralPublicKey := by
  simp only [ke2Secrets, Cmd.run_bind_eq_ok_iff, Cmd.run_liftM, Prod.mk.injEq] at h
  obtain ⟨_, _, -, _, _, ⟨hproducts, -⟩, _, _, hencapsulate, -⟩ := h
  constructor
  · simp only [ke2Products, Outcome.bind_eq_ok_iff] at hproducts
    obtain ⟨_, hdh1, -⟩ := hproducts
    obtain ⟨s, _, hs, -, hrelay, -⟩ := (scalarMult_eq_ok_iff P).mp hdh1
    exact ⟨s, hs, hrelay⟩
  · by_contra hmalformed
    rw [Op.run_onWorld, PqKem.encapsulate_run_of_not_wellFormed P hmalformed] at hencapsulate
    cases hencapsulate

theorem ke2Derive_ok (hvalid : inputs.Valid P) {r : SharedSecrets × Transcript}
    {f' : Frame Ke2Message ResponderState}
    (h : (ke2Derive P responder accountId inputs).run f = (.ok r, f')) :
    Nonempty (Ke2Values P responder accountId inputs f.world) := by
  rcases randomNonzeroScalar_cases P f.world with ⟨e, w, he, -, hdraw⟩ | ⟨w, -, hdraw⟩
  · rw [ke2Derive, Cmd.run_bind_ok (ke2Ephemeral_run he hdraw)] at h
    obtain ⟨_, _, hresponse, h⟩ := Cmd.run_bind_eq_ok_iff.mp h
    obtain ⟨_, _, hsecrets, -⟩ := Cmd.run_bind_eq_ok_iff.mp h
    obtain ⟨credReq, evaluated, hcred, hevaluate, hkey, hhash⟩ := ke2CredentialResponse_ok hresponse
    obtain ⟨⟨s, hs, hrelay⟩, ek, bytes, hbytes, hek, hcanonical⟩ := ke2Secrets_ok hsecrets
    obtain ⟨x, hx, hinitiator⟩ := hvalid.initEphPk
    obtain ⟨a, ha, hclient⟩ := hvalid.selected
    exact ⟨⟨e, he, w, hdraw, credReq, hcred, evaluated, hevaluate, hkey, hhash, s, hs, hrelay,
      x, hx, hinitiator, a, ha, hclient, bytes, hbytes, ek, hek, hcanonical⟩⟩
  · rw [ke2Derive, Cmd.run_bind_err (ke2Ephemeral_run_of_err hdraw)] at h
    cases h

theorem ke2Body_ok (hvalid : inputs.Valid P) {r : SharedSecrets × Transcript}
    {f' : Frame Ke2Message ResponderState}
    (h : (ke2Body P responder accountId inputs).run f = (.ok r, f')) :
    Nonempty (Ke2Values P responder accountId inputs f.world) := by
  obtain ⟨_, _, hderive, -⟩ := Cmd.run_bind_eq_ok_iff.mp h
  exact ke2Derive_ok hvalid hderive

/-! ## The whole operation -/

/-- The checks let a call through exactly in phase `Created`, and touch nothing. -/
theorem ke2Checks_run {ke1Data accountId : List UInt8} (hphase : f.state.phase = .created)
    (hlen : ke1Data.length = ke1Length) (haccount : accountId.isEmpty = false) :
    (ke2Checks ke1Data accountId).run f = (.ok (), f) := by
  rw [ke2Checks,
    Cmd.run_bind_ok (by rw [Cmd.run_failIf, Outcome.failIf_neg _ (by simpa using hlen)]),
    Cmd.run_bind_ok (Op.run_getState f),
    Cmd.run_bind_ok (by rw [Cmd.run_failIf, Outcome.failIf_neg _ (by simpa using hphase)]),
    Cmd.run_bind_ok (rejectExpired_run_of_created hphase), Cmd.run_failIf,
    Outcome.failIf_neg _ (by simp [haccount])]

theorem ke2Checks_cases (ke1Data accountId : List UInt8)
    (f : Frame Ke2Message ResponderState) :
    (f.state.phase = .created ∧ ke1Data.length = ke1Length ∧ accountId.isEmpty = false ∧
      (ke2Checks ke1Data accountId).run f = (.ok (), f)) ∨
    ∃ e, (ke2Checks ke1Data accountId).run f = (.err e, f) := by
  by_cases hlen : ke1Data.length = ke1Length
  · by_cases hphase : f.state.phase = .created
    · cases haccount : accountId.isEmpty with
      | false => exact .inl ⟨hphase, hlen, rfl, ke2Checks_run hphase hlen haccount⟩
      | true =>
          refine .inr ⟨.invalidInput, ?_⟩
          rw [ke2Checks, Cmd.run_bind_ok (by
              rw [Cmd.run_failIf, Outcome.failIf_neg _ (by simpa using hlen)]),
            Cmd.run_bind_ok (Op.run_getState f),
            Cmd.run_bind_ok (by rw [Cmd.run_failIf, Outcome.failIf_neg _ (by simpa using hphase)]),
            Cmd.run_bind_ok (rejectExpired_run_of_created hphase), Cmd.run_failIf,
            Outcome.failIf_pos _ (by simp [haccount])]
    · refine .inr ⟨.validationError, ?_⟩
      rw [ke2Checks, Cmd.run_bind_ok (by
          rw [Cmd.run_failIf, Outcome.failIf_neg _ (by simpa using hlen)]),
        Cmd.run_bind_ok (Op.run_getState f),
        Cmd.run_bind_err (by rw [Cmd.run_failIf, Outcome.failIf_pos _ hphase])]
  · exact .inr ⟨.invalidProtocolMessage, Cmd.run_bind_err (by
      rw [Cmd.run_failIf, Outcome.failIf_pos _ hlen])⟩

variable {ke1Data : List UInt8} {credentials : ResponderCredentials}

/-- Success takes the checks, checked inputs and values, and then everything is explicit. -/
theorem generateKe2Traced_eq_ok_iff {r : SharedSecrets × Transcript}
    {f' : Frame Ke2Message ResponderState} :
    (generateKe2Traced P responder ke1Data accountId credentials).run f = (.ok r, f') ↔
      f.state.phase = .created ∧ accountId.isEmpty = false ∧
      ∃ inputs, ke2Inputs P responder ke1Data accountId credentials = .ok inputs ∧
      ∃ v : Ke2Values P responder accountId inputs f.world,
        r = (v.secrets, v.transcript) ∧
        f' = { out := v.message, state := v.stateAfter, world := v.worldAfter } := by
  rw [generateKe2Traced]
  constructor
  · intro h
    rcases ke2Checks_cases ke1Data accountId f with ⟨hphase, -, haccount, hrun⟩ | ⟨e, hrun⟩
    · rw [Cmd.run_bind_ok hrun] at h
      obtain ⟨inputs, t, hinputs, h⟩ := Cmd.run_bind_eq_ok_iff.mp h
      rw [Cmd.run_liftM, Prod.mk.injEq] at hinputs
      obtain ⟨hinputs, rfl⟩ := hinputs
      obtain ⟨hvalid, -⟩ := ke2Inputs_ok P hinputs
      obtain ⟨v⟩ := ke2Body_ok hvalid h
      rw [ke2Body_run hvalid v] at h
      cases h
      exact ⟨hphase, haccount, inputs, hinputs, v, rfl, rfl⟩
    · rw [Cmd.run_bind_err hrun] at h
      cases h
  · rintro ⟨hphase, haccount, inputs, hinputs, v, rfl, rfl⟩
    obtain ⟨hvalid, hparse, -⟩ := ke2Inputs_ok P hinputs
    have hlen : ke1Data.length = ke1Length := by
      obtain ⟨hsized, hdata⟩ := Protocol.parseKe1_reads.eq_ok_iff.mp hparse
      rw [hdata, hsized.encode_length]
      rfl
    rw [Cmd.run_bind_ok (ke2Checks_run hphase hlen haccount),
      Cmd.run_bind_ok (by rw [Cmd.run_liftM, hinputs]), ke2Body_run hvalid v]

theorem generateKe2_eq_ok_iff {u : Unit} {f' : Frame Ke2Message ResponderState} :
    (generateKe2 P responder ke1Data accountId credentials).run f = (.ok u, f') ↔
      ∃ r, (generateKe2Traced P responder ke1Data accountId credentials).run f = (.ok r, f') := by
  rw [generateKe2]
  exact Cmd.run_discard_eq_ok_iff

end Body

end AuraOpaque.Relay
