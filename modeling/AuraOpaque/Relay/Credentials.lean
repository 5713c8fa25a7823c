import AuraOpaque.Relay.Ke2
import AuraOpaque.Relay.Registration
import AuraOpaque.Core.Sample

/-!
# Which credentials a KE2 is made from

The made-up credentials are derived first, whether they are needed or not; the
stored ones are checked, and the choice between the two cannot fail.
-/

namespace AuraOpaque.Relay

open AuraOpaque.Foundation AuraOpaque.Core
open Outcome (failIf okOr)

variable (P : Primitives)

/-- Stored credentials that stand up to the checks made when they are used. -/
structure ResponderCredentials.Usable (credentials : ResponderCredentials) : Prop where
  registered : credentials.registered = true
  envelope : credentials.envelope.length = envelopeLength
  maskingKey : isAllZero credentials.maskingKey.toList = false
  initiatorPublicKey : ∃ p, p ≠ 0 ∧ credentials.initiatorPublicKey = P.group.compress p

section Selection

variable {P} {responder : OpaqueResponder} {accountId : List UInt8}
  {credentials : ResponderCredentials} {fake : CredentialMaterial}

theorem selectCredentials_eq :
    selectCredentials P responder accountId credentials = (do
      let fake ← fakeCredentials P responder accountId
      let real ← realCredentials P credentials
      pure (if credentials.registered then real else fake)) := by
  simp only [selectCredentials, ctSelectBytes_toList, Outcome.ok_bind]
  cases credentials.registered <;> rfl

theorem selectCredentials_of_unregistered (h : credentials.registered = false) :
    selectCredentials P responder accountId credentials =
      fakeCredentials P responder accountId := by
  rw [selectCredentials_eq, realCredentials, h]
  cases fakeCredentials P responder accountId <;> rfl

/-- What usable credentials are selected as. -/
def ResponderCredentials.material (credentials : ResponderCredentials)
    (h : credentials.envelope.length = envelopeLength) : CredentialMaterial where
  publicKey := credentials.initiatorPublicKey
  envelope := ofList credentials.envelope h
  maskingKey := credentials.maskingKey

theorem realCredentials_of_usable (h : credentials.Usable P) :
    realCredentials P credentials = .ok (credentials.material h.envelope) := by
  obtain ⟨p, hp, hkey⟩ := h.initiatorPublicKey
  have hvalid : validatePublicKey P credentials.initiatorPublicKey.toList = .ok () :=
    (validatePublicKey_eq_ok_iff P).mpr ⟨p, hp, by rw [hkey]⟩
  rw [realCredentials, if_pos h.registered,
    Outcome.failIf_neg _ (by simp [h.envelope, h.maskingKey]), Outcome.ok_bind, hvalid,
    Outcome.ok_bind, tryInto_eq_some h.envelope]
  rfl

theorem selectCredentials_of_usable (h : credentials.Usable P)
    (hfake : fakeCredentials P responder accountId = .ok fake) :
    selectCredentials P responder accountId credentials =
      .ok (credentials.material h.envelope) := by
  rw [selectCredentials_eq, hfake, realCredentials_of_usable h, h.registered]
  rfl

theorem selectCredentials_of_zero_maskingKey (hregistered : credentials.registered = true)
    (hzero : isAllZero credentials.maskingKey.toList = true)
    (hfake : fakeCredentials P responder accountId = .ok fake) :
    selectCredentials P responder accountId credentials = .err .validationError := by
  rw [selectCredentials_eq, hfake, Outcome.ok_bind, realCredentials, if_pos hregistered,
    Outcome.failIf_pos _ (by simp [hzero])]
  rfl

/-- The made-up credentials, unless their key pair is degenerate. -/
theorem fakeCredentials_eq {material : Bytes hashLength}
    (hmaterial : responder.evaluator.deriveFakeMaterial accountId = .ok material)
    {scalar : P.group.Scalar} (hne : scalar ≠ 0)
    (hscalar : P.group.fromBytesModOrderWide
      (sha512Multi P [Labels.deriveKeypairContext, material.toList]) = scalar) :
    fakeCredentials P responder accountId =
      .ok
        { publicKey := P.group.compress (scalar • P.group.basepoint)
          envelope := hkdfExpand P material Labels.fakeCredentialsContext envelopeLength
          maskingKey := hkdfExpand P (P.hmac Labels.maskingKeyInfo material.toList)
            Labels.maskingKeyInfo maskingKeyLength } := by
  have hmaterialNonempty : material.toList.isEmpty = false := isEmpty_toList (by decide) material
  have hpair : deriveKeyPair P material.toList =
      .ok (P.group.asBytes scalar, P.group.compress (scalar • P.group.basepoint)) := by
    simp [deriveKeyPair, hmaterialNonempty, hscalar, Outcome.failIf_neg, hne]
  rw [fakeCredentials, hmaterial, Outcome.ok_bind, hpair, Outcome.ok_bind]
  simp only [expand_eq P _ _ (show 0 < envelopeLength by decide) (by decide),
    deriveMaskingKey_eq P hmaterialNonempty, Outcome.ok_bind]
  rfl

theorem fakeCredentials_ok (h : fakeCredentials P responder accountId = .ok fake) :
    ∃ p, p ≠ 0 ∧ fake.publicKey = P.group.compress p := by
  simp only [fakeCredentials, deriveKeyPair, Outcome.bind_eq_ok_iff, Outcome.failIf_eq_ok_iff,
    Prod.exists] at h
  obtain ⟨material, -, privateKey, publicKey, ⟨_, -, _, hscalar, heq⟩, envelope, -, maskingKey, -,
    hfake⟩ := h
  cases heq
  cases hfake
  rw [P.group.isAllZero_asBytes] at hscalar
  exact ⟨_, smul_ne_zero hscalar P.group.basepoint_ne_zero, rfl⟩

end Selection

/-! ## Records and their use -/

section Records

variable {P} {data : List UInt8} {credentials : ResponderCredentials}

/-- A record is stored when it is a record and its public key is valid; no field is lost. -/
theorem buildCredentials_eq_ok_iff {fresh : ResponderCredentials} {u : Unit} :
    (buildCredentials P data).run fresh = (.ok u, credentials) ↔
      fresh.registered = false ∧ ∃ view maskingKey p,
        Protocol.parseRegistrationRecord data = .ok view ∧ view.maskingKey = maskingKey.toList ∧
        p ≠ 0 ∧ view.initiatorPublicKey = (P.group.compress p).toList ∧
        credentials =
          { envelope := view.envelope
            maskingKey
            initiatorPublicKey := P.group.compress p
            registered := true } := by
  constructor
  · intro h
    simp only [buildCredentials, Cmd.run_bind_eq_ok_iff, Cmd.run_get, Cmd.run_failIf,
      Cmd.run_liftM, Cmd.run_lift, Cmd.run_modify, Prod.mk.injEq] at h
    obtain ⟨_, _, ⟨hget, rfl⟩, _, _, ⟨hregistered, rfl⟩, view, _, ⟨hparse, rfl⟩, _, _,
      ⟨hvalid, rfl⟩, _, _, ⟨-, rfl⟩, maskingKey, _, ⟨hmaskingKey, rfl⟩, _, _, ⟨-, rfl⟩,
      publicKey, _, ⟨hpublicKey, rfl⟩, _, _, ⟨-, rfl⟩, -, rfl⟩ := h
    cases hget
    obtain ⟨p, hp, hkey⟩ := (validatePublicKey_eq_ok_iff P).mp hvalid
    obtain rfl : publicKey = P.group.compress p :=
      List.Vector.toList_injective ((copyFromSlice_eq_ok_iff.mp hpublicKey).symm.trans hkey)
    exact ⟨by simpa using hregistered, view, maskingKey, p, hparse,
      copyFromSlice_eq_ok_iff.mp hmaskingKey, hp, hkey, rfl⟩
  · rintro ⟨hregistered, view, maskingKey, p, hparse, hmaskingKey, hp, hkey, rfl⟩
    have hvalid : validatePublicKey P (P.group.compress p).toList = .ok () :=
      (validatePublicKey_eq_ok_iff P).mpr ⟨p, hp, rfl⟩
    simp [buildCredentials, Cmd.run_bind, hregistered, hparse, hvalid, hmaskingKey, hkey]

theorem maskingKey_of_record {view : Protocol.RegistrationRecordRef}
    (h : Protocol.parseRegistrationRecord data = .ok view) :
    view.maskingKey =
      (data.drop Protocol.regRecordMaskingKeyOffset).take maskingKeyLength := by
  obtain ⟨hsized, hdata⟩ := Protocol.parseRegistrationRecord_reads.eq_ok_iff.mp h
  simp only [Protocol.Sized, List.map_cons, List.map_nil, List.cons.injEq, and_true] at hsized
  rw [hdata, ← hsized.1]
  simp [Protocol.encode]

/-- What the use of stored credentials in a KE2 asks for. -/
structure UsedAsStored (P : Primitives) (responder : OpaqueResponder) (accountId : List UInt8)
    (credentials : ResponderCredentials) (selected : CredentialMaterial) : Prop where
  selects : selectCredentials P responder accountId credentials = .ok selected
  publicKey : selected.publicKey = credentials.initiatorPublicKey
  envelope : selected.envelope.toList = credentials.envelope
  maskingKey : selected.maskingKey = credentials.maskingKey
  masks : ∀ responderNonce evaluatedElement accountContextHash input,
    responderNonce.length = nonceLength → evaluatedElement.length = publicKeyLength →
    isAllZero accountContextHash.toList = false →
    ∃ masked, maskCredentialEnvelope P selected.maskingKey responderNonce evaluatedElement
      accountContextHash input = .ok masked

/--
A record that was stored is used as it was stored exactly when its masking key
is not all zeros.  The made-up credentials are derived in any case, so their
derivation is asked to succeed.
-/
theorem record_used_as_stored_iff {fresh : ResponderCredentials} {responder : OpaqueResponder}
    {accountId : List UInt8} {fake : CredentialMaterial}
    (hbuild : (buildCredentials P data).run fresh = (.ok (), credentials))
    (hfake : selectCredentials P responder accountId fresh = .ok fake) :
    (∃ selected, UsedAsStored P responder accountId credentials selected) ↔
      isAllZero ((data.drop Protocol.regRecordMaskingKeyOffset).take maskingKeyLength) = false := by
  obtain ⟨hfresh, view, maskingKey, p, hparse, hmaskingKey, hp, hkey, rfl⟩ :=
    buildCredentials_eq_ok_iff.mp hbuild
  rw [selectCredentials_of_unregistered hfresh] at hfake
  rw [← maskingKey_of_record hparse, hmaskingKey]
  have henvelope : view.envelope.length = envelopeLength := by
    have hsized := (Protocol.parseRegistrationRecord_reads.eq_ok_iff.mp hparse).1
    simp only [Protocol.Sized, List.map_cons, List.map_nil, List.cons.injEq, and_true] at hsized
    exact hsized.2.1
  constructor
  · rintro ⟨selected, hused⟩
    by_contra hzero
    rw [Bool.not_eq_false] at hzero
    have hselects := hused.selects
    rw [selectCredentials_of_zero_maskingKey rfl hzero hfake] at hselects
    cases hselects
  · intro hne
    refine ⟨_, selectCredentials_of_usable ⟨rfl, henvelope, hne, p, hp, rfl⟩ hfake, rfl, rfl, rfl,
      ?_⟩
    intro responderNonce evaluatedElement accountContextHash input hnonce helement hhash
    exact ⟨_, maskCredentialEnvelope_eq P input hne hnonce helement hhash⟩

end Records

/-! ## On the small instance -/

def sampleResponder : OpaqueResponder where
  keypair := { privateKey := Sample.encode 31 1, publicKey := Sample.encode 31 1 }
  evaluator := InMemoryEvaluator.toOprfEvaluator Sample.primitives
    { oprfSeed := List.Vector.replicate oprfSeedLength 1 }

def sampleRecord (maskingKey : Bytes maskingKeyLength) : List UInt8 :=
  Protocol.encode
    [maskingKey.toList, List.replicate envelopeLength 0, (Sample.encode 31 1).toList]

theorem sample_selects (accountId : List UInt8) :
    ∃ fake, selectCredentials Sample.primitives sampleResponder accountId .new = .ok fake ∧
      fake.maskingKey ≠ zeros _ := by
  rw [selectCredentials_of_unregistered rfl]
  exact ⟨_, @fakeCredentials_eq Sample.primitives sampleResponder accountId _ rfl (1 : ZMod 5)
    (by decide : (1 : ZMod 5) ≠ 0) rfl, Sample.hkdfExpand_ne_zero _ _ _⟩

theorem sample_evaluates {accountId : List UInt8} (haccount : accountId.isEmpty = false)
    {p : ZMod 5} (hp : p ≠ 0) :
    sampleResponder.evaluator.evaluateOprf (Sample.encode 31 p) accountId =
      .ok (Sample.encode 31 ((1 : ZMod 5) • p)) := by
  have hkey : deriveOprfKey Sample.primitives
      (List.Vector.replicate oprfSeedLength (1 : UInt8)).toList accountId =
        .ok (Sample.encode 31 1) := Sample.deriveOprfKey_eq rfl haccount
  change (deriveOprfKey Sample.primitives _ accountId >>= fun oprfKey =>
    Oprf.evaluate Sample.primitives (Sample.encode 31 p) oprfKey) = _
  rw [hkey, Outcome.ok_bind]
  exact @Oprf.evaluate_eq Sample.primitives (1 : ZMod 5) p (by decide : (1 : ZMod 5) ≠ 0) hp

def sampleCredentials (maskingKey : Bytes maskingKeyLength) : ResponderCredentials where
  envelope := List.replicate envelopeLength 0
  maskingKey := maskingKey
  initiatorPublicKey := Sample.encode 31 1
  registered := true

theorem sample_builds (maskingKey : Bytes maskingKeyLength) :
    (buildCredentials Sample.primitives (sampleRecord maskingKey)).run .new =
      (.ok (), sampleCredentials maskingKey) := by
  have hparse : Protocol.parseRegistrationRecord (sampleRecord maskingKey) =
      .ok ⟨maskingKey.toList, List.replicate envelopeLength 0, (Sample.encode 31 1).toList⟩ :=
    Protocol.parseRegistrationRecord_reads.eq_ok_iff.mpr ⟨by simp [Protocol.Sized], rfl⟩
  exact buildCredentials_eq_ok_iff.mpr ⟨rfl, _, maskingKey, (1 : ZMod 5), hparse, rfl,
    (by decide : (1 : ZMod 5) ≠ 0), rfl, rfl⟩

def sampleKe1 (kemKey : Bytes kemPublicKeyLength) : List UInt8 :=
  Protocol.encode
    [(Sample.encode 31 1).toList, (Sample.encode 31 1).toList, List.replicate nonceLength 0,
      kemKey.toList]

def sampleInputs (kemKey : Bytes kemPublicKeyLength) (selected : CredentialMaterial) :
    Ke2Inputs where
  ke1 :=
    { credentialRequest := (Sample.encode 31 1).toList
      initiatorPublicKey := (Sample.encode 31 1).toList
      initiatorNonce := List.replicate nonceLength 0
      pqEphemeralPublicKey := kemKey.toList }
  initEphPk := Sample.encode 31 1
  selected := selected
  accountContextHash := sha512Multi Sample.primitives [Labels.accountContextBinding, [1]]

theorem sample_inputs (kemKey : Bytes kemPublicKeyLength) : ∃ fake,
    ke2Inputs Sample.primitives sampleResponder (sampleKe1 kemKey) [1] .new =
      .ok (sampleInputs kemKey fake) ∧ fake.maskingKey ≠ zeros _ := by
  have hone : (1 : ZMod 5) ≠ 0 := by decide
  obtain ⟨fake, hselect, hmaskingKey⟩ := sample_selects [1]
  obtain ⟨client, hclient, hclientBytes⟩ :=
    fakeCredentials_ok (by rwa [selectCredentials_of_unregistered rfl] at hselect)
  have hparse : Protocol.parseKe1 (sampleKe1 kemKey) = .ok (sampleInputs kemKey fake).ke1 :=
    Protocol.parseKe1_reads.eq_ok_iff.mpr
      ⟨by simp [Protocol.Sized, sampleInputs, -List.reduceReplicate], rfl⟩
  exact ⟨fake, @ke2Inputs_eq Sample.primitives sampleResponder (sampleKe1 kemKey) [1] .new _ fake
    (1 : ZMod 5) (1 : ZMod 5) client hparse hselect hone hone hclient rfl rfl hclientBytes,
    hmaskingKey⟩

theorem sample_answers (reading : ℕ) (createdAt : ℕ) : ∃ f',
    (generateKe2 Sample.primitives sampleResponder (sampleKe1 (Sample.encapsulationKey 7).val) [1]
      .new).run ⟨.new, .newAt createdAt, Sample.world reading⟩ = (.ok (), f') ∧
    f'.state.phase = .ke2Generated ∧ f'.state.createdAt = reading ∧
    f'.state.sessionKey ≠ zeros _ := by
  have hone : (1 : ZMod 5) ≠ 0 := by decide
  obtain ⟨fake, hinputs, hmaskingKey⟩ := sample_inputs (Sample.encapsulationKey 7).val
  obtain ⟨e, w, he, hclock, -, hdraw⟩ :=
    randomNonzeroScalar_run _ (Sample.world_neverExhausted reading)
  obtain ⟨client, hclient, hclientBytes⟩ := (ke2Inputs_ok _ hinputs).1.selected
  let v : Ke2Values Sample.primitives sampleResponder [1]
      (sampleInputs (Sample.encapsulationKey 7).val fake) (Sample.world reading) :=
    { ephemeral := e
      ephemeral_ne_zero := he
      drawn := w
      draw := hdraw
      credReq := Sample.encode 31 1
      credReq_eq := rfl
      evaluated := _
      evaluate := sample_evaluates rfl hone
      maskingKey_ne_zero := isAllZero_toList_eq_false_iff.mpr hmaskingKey
      accountContextHash_ne_zero :=
        isAllZero_toList_eq_false_iff.mpr (Sample.digest_ne_zero _)
      relay := (1 : ZMod 5)
      relay_ne_zero := hone
      relay_eq := rfl
      initiator := (1 : ZMod 5)
      initiator_ne_zero := hone
      initiator_eq := rfl
      client := client
      client_ne_zero := hclient
      client_eq := hclientBytes
      kemKeyBytes := (Sample.encapsulationKey 7).val
      kemKeyBytes_eq := rfl
      kemKey := Sample.encapsulationKey 7
      kemKey_new := Sample.ekNew_encapsulationKey 7
      kemKey_bytes := rfl }
  refine ⟨_, generateKe2_eq_ok_iff.mpr ⟨_, generateKe2Traced_eq_ok_iff.mpr
    ⟨rfl, rfl, _, hinputs, v, rfl, rfl⟩⟩, rfl, ?_, ?_⟩
  · change w.clock 0 = reading
    rw [hclock]
    rfl
  · exact Sample.digest_ne_zero _

theorem record_used_as_stored_sample :
    ∃ selected, UsedAsStored Sample.primitives sampleResponder [1]
      (sampleCredentials (List.Vector.replicate maskingKeyLength 1)) selected := by
  obtain ⟨fake, hfake, -⟩ := sample_selects [1]
  exact (record_used_as_stored_iff (sample_builds _) hfake).mpr rfl

/-- A record with a masking key of zeros is stored, and then no KE2 comes back for the account. -/
theorem zero_masking_key_stored :
    ∃ credentials fake,
      (buildCredentials Sample.primitives (sampleRecord (zeros _))).run .new =
        (.ok (), credentials) ∧
      selectCredentials Sample.primitives sampleResponder [1] .new = .ok fake ∧
      selectCredentials Sample.primitives sampleResponder [1] credentials =
        .err .validationError ∧
      ∀ ke1Data f, ((generateKe2 Sample.primitives sampleResponder ke1Data [1]
        credentials).run f).1.isOk = false := by
  obtain ⟨fake, hfake, -⟩ := sample_selects [1]
  have hrefused := @selectCredentials_of_zero_maskingKey Sample.primitives sampleResponder [1]
    (sampleCredentials (zeros _)) fake rfl rfl
    (by rwa [selectCredentials_of_unregistered rfl] at hfake)
  refine ⟨_, fake, sample_builds _, hfake, hrefused, fun ke1Data f => ?_⟩
  rcases hrun : (generateKe2 Sample.primitives sampleResponder ke1Data [1] _).run f with
    ⟨u | e | _, f'⟩
  · obtain ⟨r, htraced⟩ := generateKe2_eq_ok_iff.mp hrun
    obtain ⟨-, -, inputs, hinputs, -⟩ := generateKe2Traced_eq_ok_iff.mp htraced
    rw [(ke2Inputs_ok _ hinputs).2.2.1] at hrefused
    cases hrefused
  · rfl
  · rfl

end AuraOpaque.Relay
