import AuraOpaque.Core.Types

/-!
# Wire messages

Every message is the version byte followed by fields of fixed lengths.  The
parsers and the writers keep the offsets of the source; both are shown to agree
with the plain concatenation `encode`.
-/

namespace AuraOpaque.Core

open AuraOpaque.Foundation
open Outcome (failIf)

namespace Protocol

/-! ## Offsets -/

@[simp] abbrev V : ℕ := versionPrefixLength

@[simp] abbrev regReqPayloadOffset : ℕ := V
@[simp] abbrev regRespEvaluatedOffset : ℕ := V
@[simp] abbrev regRespResponderKeyOffset : ℕ := V + registrationRequestLength
@[simp] abbrev regRecordMaskingKeyOffset : ℕ := V
@[simp] abbrev regRecordEnvelopeOffset : ℕ := V + maskingKeyLength
@[simp] abbrev regRecordInitiatorKeyOffset : ℕ := V + registrationCredentialLength
@[simp] abbrev ke1CredReqOffset : ℕ := V
@[simp] abbrev ke1InitiatorPkOffset : ℕ := V + registrationRequestLength
@[simp] abbrev ke1InitiatorNonceOffset : ℕ := V + registrationRequestLength + publicKeyLength
@[simp] abbrev ke1PqPkOffset : ℕ := V + ke1BaseLength
@[simp] abbrev ke2RespNonceOffset : ℕ := V
@[simp] abbrev ke2RespPkOffset : ℕ := V + nonceLength
@[simp] abbrev ke2CredRespOffset : ℕ := V + nonceLength + publicKeyLength
@[simp] abbrev ke2RespMacOffset : ℕ :=
  V + nonceLength + publicKeyLength + credentialResponseLength
@[simp] abbrev ke2KemCtOffset : ℕ := V + ke2BaseLength
@[simp] abbrev ke3MacOffset : ℕ := V

/-! ## Views -/

structure RegistrationResponseRef where
  evaluatedElement : List UInt8
  responderPublicKey : List UInt8

structure RegistrationRecordRef where
  maskingKey : List UInt8
  envelope : List UInt8
  initiatorPublicKey : List UInt8

structure Ke1Ref where
  credentialRequest : List UInt8
  initiatorPublicKey : List UInt8
  initiatorNonce : List UInt8
  pqEphemeralPublicKey : List UInt8

structure Ke2Ref where
  responderNonce : List UInt8
  responderPublicKey : List UInt8
  credentialResponse : List UInt8
  responderMac : List UInt8
  kemCiphertext : List UInt8

structure Ke3Ref where
  initiatorMac : List UInt8

/-! ## Parsers -/

def checkVersion (data : List UInt8) : OpaqueResult Unit :=
  match data with
  | [] => .err .invalidProtocolMessage
  | version :: _ => if version = protocolVersion2 then .ok () else .err .unsupportedVersion

def parseRegistrationRequest (data : List UInt8) : OpaqueResult (List UInt8) := do
  failIf (data.length ≠ registrationRequestWireLength) .invalidProtocolMessage
  checkVersion data
  slice data regReqPayloadOffset data.length

def parseRegistrationResponse (data : List UInt8) : OpaqueResult RegistrationResponseRef := do
  failIf (data.length ≠ registrationResponseWireLength) .invalidProtocolMessage
  checkVersion data
  let evaluatedElement ← slice data regRespEvaluatedOffset regRespResponderKeyOffset
  let responderPublicKey ← slice data regRespResponderKeyOffset data.length
  pure { evaluatedElement, responderPublicKey }

def parseRegistrationRecord (data : List UInt8) : OpaqueResult RegistrationRecordRef := do
  failIf (data.length ≠ registrationRecordLength) .invalidProtocolMessage
  checkVersion data
  let maskingKey ← slice data regRecordMaskingKeyOffset regRecordEnvelopeOffset
  let envelope ← slice data regRecordEnvelopeOffset regRecordInitiatorKeyOffset
  let initiatorPublicKey ← slice data regRecordInitiatorKeyOffset data.length
  pure { maskingKey, envelope, initiatorPublicKey }

def parseKe1 (data : List UInt8) : OpaqueResult Ke1Ref := do
  failIf (data.length ≠ ke1Length) .invalidProtocolMessage
  checkVersion data
  let credentialRequest ← slice data ke1CredReqOffset ke1InitiatorPkOffset
  let initiatorPublicKey ← slice data ke1InitiatorPkOffset ke1InitiatorNonceOffset
  let initiatorNonce ← slice data ke1InitiatorNonceOffset ke1PqPkOffset
  let pqEphemeralPublicKey ← slice data ke1PqPkOffset data.length
  pure { credentialRequest, initiatorPublicKey, initiatorNonce, pqEphemeralPublicKey }

def parseKe2 (data : List UInt8) : OpaqueResult Ke2Ref := do
  failIf (data.length ≠ ke2Length) .invalidProtocolMessage
  checkVersion data
  let responderNonce ← slice data ke2RespNonceOffset ke2RespPkOffset
  let responderPublicKey ← slice data ke2RespPkOffset ke2CredRespOffset
  let credentialResponse ← slice data ke2CredRespOffset ke2RespMacOffset
  let responderMac ← slice data ke2RespMacOffset ke2KemCtOffset
  let kemCiphertext ← slice data ke2KemCtOffset data.length
  pure { responderNonce, responderPublicKey, credentialResponse, responderMac, kemCiphertext }

def parseKe3 (data : List UInt8) : OpaqueResult Ke3Ref := do
  failIf (data.length ≠ ke3Length) .invalidProtocolMessage
  checkVersion data
  let initiatorMac ← slice data ke3MacOffset data.length
  pure { initiatorMac }

/-! ## Writers -/

section Writers

variable {n : ℕ}

def writeRegistrationRecord (credentialStorage initiatorPublicKey : List UInt8) :
    Cmd OpaqueError (Bytes n) Unit := do
  Cmd.failIf
    (credentialStorage.length ≠ registrationCredentialLength ∨
      initiatorPublicKey.length ≠ publicKeyLength ∨ n < registrationRecordLength)
    .invalidProtocolMessage
  spliceAt 0 1 [protocolVersion]
  spliceAt regRecordMaskingKeyOffset regRecordInitiatorKeyOffset credentialStorage
  spliceAt regRecordInitiatorKeyOffset registrationRecordLength initiatorPublicKey

def writeKe1
    (credentialRequest initiatorPublicKey initiatorNonce pqEphemeralPublicKey : List UInt8) :
    Cmd OpaqueError (Bytes n) Unit := do
  Cmd.failIf
    (credentialRequest.length ≠ registrationRequestLength ∨
      initiatorPublicKey.length ≠ publicKeyLength ∨ initiatorNonce.length ≠ nonceLength ∨
      pqEphemeralPublicKey.length ≠ kemPublicKeyLength ∨ n < ke1Length)
    .invalidProtocolMessage
  spliceAt 0 1 [protocolVersion]
  spliceAt ke1CredReqOffset ke1InitiatorPkOffset credentialRequest
  spliceAt ke1InitiatorPkOffset ke1InitiatorNonceOffset initiatorPublicKey
  spliceAt ke1InitiatorNonceOffset ke1PqPkOffset initiatorNonce
  spliceAt ke1PqPkOffset ke1Length pqEphemeralPublicKey

def writeKe2
    (responderNonce responderPublicKey credentialResponse responderMac kemCiphertext :
      List UInt8) : Cmd OpaqueError (Bytes n) Unit := do
  Cmd.failIf
    (responderNonce.length ≠ nonceLength ∨ responderPublicKey.length ≠ publicKeyLength ∨
      credentialResponse.length ≠ credentialResponseLength ∨
      responderMac.length ≠ macLength ∨ kemCiphertext.length ≠ kemCiphertextLength ∨
      n < ke2Length)
    .invalidProtocolMessage
  spliceAt 0 1 [protocolVersion]
  spliceAt ke2RespNonceOffset ke2RespPkOffset responderNonce
  spliceAt ke2RespPkOffset ke2CredRespOffset responderPublicKey
  spliceAt ke2CredRespOffset ke2RespMacOffset credentialResponse
  spliceAt ke2RespMacOffset ke2KemCtOffset responderMac
  spliceAt ke2KemCtOffset ke2Length kemCiphertext

def writeKe3 (initiatorMac : List UInt8) : Cmd OpaqueError (Bytes n) Unit := do
  Cmd.failIf (initiatorMac.length ≠ macLength ∨ n < ke3Length) .invalidProtocolMessage
  spliceAt 0 1 [protocolVersion]
  spliceAt ke3MacOffset ke3Length initiatorMac

def writeRegistrationRequest (payload : List UInt8) : Cmd OpaqueError (Bytes n) Unit := do
  Cmd.failIf
    (payload.length ≠ registrationRequestLength ∨ n < registrationRequestWireLength)
    .invalidProtocolMessage
  spliceAt 0 1 [protocolVersion]
  spliceAt regReqPayloadOffset registrationRequestWireLength payload

def writeRegistrationResponse (evaluatedElement responderPublicKey : List UInt8) :
    Cmd OpaqueError (Bytes n) Unit := do
  Cmd.failIf
    (evaluatedElement.length ≠ registrationRequestLength ∨
      responderPublicKey.length ≠ publicKeyLength ∨ n < registrationResponseWireLength)
    .invalidProtocolMessage
  spliceAt 0 1 [protocolVersion]
  spliceAt regRespEvaluatedOffset regRespResponderKeyOffset evaluatedElement
  spliceAt regRespResponderKeyOffset registrationResponseWireLength responderPublicKey

end Writers

/-! ## The format -/

/-- The version byte and the fields, one after the other. -/
def encode (fields : List (List UInt8)) : List UInt8 := ([protocolVersion] :: fields).flatten

def Sized (lengths : List ℕ) (fields : List (List UInt8)) : Prop :=
  fields.map List.length = lengths

abbrev RegistrationResponseRef.fields (r : RegistrationResponseRef) : List (List UInt8) :=
  [r.evaluatedElement, r.responderPublicKey]

abbrev RegistrationRecordRef.fields (r : RegistrationRecordRef) : List (List UInt8) :=
  [r.maskingKey, r.envelope, r.initiatorPublicKey]

abbrev Ke1Ref.fields (r : Ke1Ref) : List (List UInt8) :=
  [r.credentialRequest, r.initiatorPublicKey, r.initiatorNonce, r.pqEphemeralPublicKey]

abbrev Ke2Ref.fields (r : Ke2Ref) : List (List UInt8) :=
  [r.responderNonce, r.responderPublicKey, r.credentialResponse, r.responderMac, r.kemCiphertext]

abbrev Ke3Ref.fields (r : Ke3Ref) : List (List UInt8) := [r.initiatorMac]

abbrev registrationResponseFieldLengths : List ℕ := [registrationRequestLength, publicKeyLength]

abbrev registrationRecordFieldLengths : List ℕ :=
  [maskingKeyLength, envelopeLength, publicKeyLength]

abbrev ke1FieldLengths : List ℕ :=
  [registrationRequestLength, publicKeyLength, nonceLength, kemPublicKeyLength]

abbrev ke2FieldLengths : List ℕ :=
  [nonceLength, publicKeyLength, credentialResponseLength, macLength, kemCiphertextLength]

theorem Sized.flatten_length {lengths : List ℕ} {fields : List (List UInt8)}
    (h : Sized lengths fields) : fields.flatten.length = lengths.sum := by
  rw [List.length_flatten, h]

theorem Sized.encode_length {lengths : List ℕ} {fields : List (List UInt8)}
    (h : Sized lengths fields) : (encode fields).length = 1 + lengths.sum := by
  rw [encode, List.flatten_cons, List.length_append, h.flatten_length]
  rfl

@[simp] theorem checkVersion_encode (fields : List (List UInt8)) :
    checkVersion (encode fields) = .ok () := rfl

theorem checkVersion_cases (data : List UInt8) :
    checkVersion data = .ok () ∨ checkVersion data = .err .invalidProtocolMessage ∨
      checkVersion data = .err .unsupportedVersion := by
  cases data with
  | nil => exact .inr (.inl rfl)
  | cons version rest =>
      by_cases h : version = protocolVersion2
      · exact .inl (if_pos h)
      · exact .inr (.inr (if_neg h))

theorem checkVersion_of_head {data : List UInt8} (h : data.head? = some protocolVersion) :
    checkVersion data = .ok () := by
  cases data with
  | nil => cases h
  | cons version rest =>
      obtain rfl : version = protocolVersion := Option.some.inj h
      rfl

theorem exists_encode {data : List UInt8} {lengths : List ℕ}
    (hlen : data.length = 1 + lengths.sum) (hversion : checkVersion data = .ok ()) :
    ∃ fields, Sized lengths fields ∧ data = encode fields := by
  cases data with
  | nil => cases hversion
  | cons version rest =>
      have hv : version = protocolVersion := by
        by_contra h
        rw [checkVersion, if_neg h] at hversion
        cases hversion
      rw [List.length_cons] at hlen
      obtain ⟨fields, hsized, hrest⟩ := exists_parts rest lengths (by omega)
      refine ⟨fields, hsized, ?_⟩
      rw [hv, hrest]
      rfl

/-- Two encodings with fields of the same lengths agree only field by field. -/
theorem encode_injective {lengths : List ℕ} {fields fields' : List (List UInt8)}
    (h : Sized lengths fields) (h' : Sized lengths fields') (heq : encode fields = encode fields') :
    fields = fields' :=
  flatten_injective_of_lengths (h.trans h'.symm) (List.cons.inj heq).2

/-- A parser of messages with the given fields. -/
structure Reads {α : Type} (parse : List UInt8 → OpaqueResult α)
    (fields : α → List (List UInt8)) (lengths : List ℕ) : Prop where
  guard : ∀ data r, parse data = .ok r →
    data.length = 1 + lengths.sum ∧ checkVersion data = .ok ()
  refuses : ∀ data, ¬ (data.length = 1 + lengths.sum ∧ checkVersion data = .ok ()) →
    ∃ e, parse data = .err e
  encode : ∀ fs, Sized lengths fs → ∃ r, fields r = fs ∧ parse (encode fs) = .ok r
  injective : Function.Injective fields

theorem Reads.eq_ok_iff {α : Type} {parse : List UInt8 → OpaqueResult α}
    {fields : α → List (List UInt8)} {lengths : List ℕ} (h : Reads parse fields lengths)
    {data : List UInt8} {r : α} :
    parse data = .ok r ↔ Sized lengths (fields r) ∧ data = Protocol.encode (fields r) := by
  constructor
  · intro hparse
    obtain ⟨hlen, hversion⟩ := h.guard data r hparse
    obtain ⟨fs, hsized, rfl⟩ := exists_encode hlen hversion
    obtain ⟨r', hr', hparse'⟩ := h.encode fs hsized
    rw [hparse] at hparse'
    cases hparse'
    exact ⟨hr' ▸ hsized, by rw [hr']⟩
  · rintro ⟨hsized, rfl⟩
    obtain ⟨r', hr', hparse⟩ := h.encode _ hsized
    rw [hparse, h.injective hr']

/-- What is parsed from an encoded message is that message. -/
theorem Reads.eq_of_encode {α : Type} {parse : List UInt8 → OpaqueResult α}
    {fields : α → List (List UInt8)} {lengths : List ℕ} (h : Reads parse fields lengths)
    {data : List UInt8} {r r' : α} (hparse : parse data = .ok r)
    (hsized : Sized lengths (fields r')) (hdata : data = Protocol.encode (fields r')) : r = r' :=
  Outcome.ok.inj (hparse.symm.trans (h.eq_ok_iff.mpr ⟨hsized, hdata⟩))

theorem Reads.exists_ok {α : Type} {parse : List UInt8 → OpaqueResult α}
    {fields : α → List (List UInt8)} {lengths : List ℕ} (h : Reads parse fields lengths)
    {data : List UInt8} (hlen : data.length = 1 + lengths.sum)
    (hversion : checkVersion data = .ok ()) : ∃ r, parse data = .ok r := by
  obtain ⟨fs, hsized, rfl⟩ := exists_encode hlen hversion
  obtain ⟨r, -, hparse⟩ := h.encode fs hsized
  exact ⟨r, hparse⟩

theorem Reads.ok_or_err {α : Type} {parse : List UInt8 → OpaqueResult α}
    {fields : α → List (List UInt8)} {lengths : List ℕ} (h : Reads parse fields lengths)
    (data : List UInt8) : (∃ r, parse data = .ok r) ∨ ∃ e, parse data = .err e := by
  by_cases hguard : data.length = 1 + lengths.sum ∧ checkVersion data = .ok ()
  · exact .inl (h.exists_ok hguard.1 hguard.2)
  · exact .inr (h.refuses data hguard)

/-- The two checks that every parser makes first. -/
theorem guard_of_ok {α : Type} {data : List UInt8} {total : ℕ} {e : OpaqueError}
    {k : Unit → OpaqueResult α} {r : α}
    (h : (failIf (data.length ≠ total) e >>= fun _ => checkVersion data >>= k) = .ok r) :
    data.length = total ∧ checkVersion data = .ok () := by
  obtain ⟨_, hlen, h⟩ := Outcome.bind_eq_ok_iff.mp h
  obtain ⟨_, hversion, -⟩ := Outcome.bind_eq_ok_iff.mp h
  exact ⟨not_not.mp (Outcome.failIf_eq_ok_iff.mp hlen), hversion⟩

theorem refuses_of_guard {α : Type} {data : List UInt8} {total : ℕ} {e : OpaqueError}
    {k : Unit → OpaqueResult α} (h : ¬ (data.length = total ∧ checkVersion data = .ok ())) :
    ∃ e', (failIf (data.length ≠ total) e >>= fun _ => checkVersion data >>= k) = .err e' := by
  by_cases hlen : data.length = total
  · rw [Outcome.failIf_neg _ (not_not.mpr hlen), Outcome.ok_bind]
    rcases checkVersion_cases data with hok | herr | herr
    · exact absurd ⟨hlen, hok⟩ h
    · exact ⟨_, by rw [herr, Outcome.err_bind]⟩
    · exact ⟨_, by rw [herr, Outcome.err_bind]⟩
  · exact ⟨e, by rw [Outcome.failIf_pos _ hlen, Outcome.err_bind]⟩

theorem parseRegistrationRequest_reads :
    Reads parseRegistrationRequest (fun payload => [payload]) [registrationRequestLength] where
  guard _ _ := guard_of_ok
  refuses _ := refuses_of_guard
  encode := by
    intro fs hsized
    have hlen := hsized.encode_length
    simp only [Sized, List.map_eq_cons_iff, List.map_eq_nil_iff] at hsized
    obtain ⟨a, _, rfl, ha, rfl⟩ := hsized
    have hguard : failIf ((encode [a]).length ≠ registrationRequestWireLength)
        OpaqueError.invalidProtocolMessage = .ok () := Outcome.failIf_neg _ (by simp [hlen])
    have h₁ : (slice (encode [a]) regReqPayloadOffset (encode [a]).length :
        OpaqueResult _) = .ok a :=
      slice_flatten [[protocolVersion]] a [] rfl (by simp [hlen, ha])
    exact ⟨a, rfl, by
      simp only [parseRegistrationRequest, hguard, checkVersion_encode, Outcome.ok_bind, h₁]⟩
  injective _ _ h := List.singleton_injective h

theorem parseRegistrationResponse_reads :
    Reads parseRegistrationResponse RegistrationResponseRef.fields
      registrationResponseFieldLengths where
  guard _ _ := guard_of_ok
  refuses _ := refuses_of_guard
  encode := by
    intro fs hsized
    have hlen := hsized.encode_length
    simp only [Sized, List.map_eq_cons_iff, List.map_eq_nil_iff] at hsized
    obtain ⟨a, _, rfl, ha, b, _, rfl, hb, rfl⟩ := hsized
    have hguard : failIf ((encode [a, b]).length ≠ registrationResponseWireLength)
        OpaqueError.invalidProtocolMessage = .ok () := Outcome.failIf_neg _ (by simp [hlen])
    have h₁ : (slice (encode [a, b]) regRespEvaluatedOffset regRespResponderKeyOffset :
        OpaqueResult _) = .ok a :=
      slice_flatten [[protocolVersion]] a [b] rfl (by simp [ha])
    have h₂ : (slice (encode [a, b]) regRespResponderKeyOffset (encode [a, b]).length :
        OpaqueResult _) = .ok b :=
      slice_flatten [[protocolVersion], a] b [] (by simp [ha]) (by simp [hlen, hb])
    exact ⟨⟨a, b⟩, rfl, by
      simp only [parseRegistrationResponse, hguard, checkVersion_encode, Outcome.ok_bind, h₁, h₂,
        Outcome.pure_eq]⟩
  injective := by
    rintro ⟨a, b⟩ ⟨a', b'⟩ h
    simpa using h

theorem parseRegistrationRecord_reads :
    Reads parseRegistrationRecord RegistrationRecordRef.fields registrationRecordFieldLengths where
  guard _ _ := guard_of_ok
  refuses _ := refuses_of_guard
  encode := by
    intro fs hsized
    have hlen := hsized.encode_length
    simp only [Sized, List.map_eq_cons_iff, List.map_eq_nil_iff] at hsized
    obtain ⟨a, _, rfl, ha, b, _, rfl, hb, c, _, rfl, hc, rfl⟩ := hsized
    have hguard : failIf ((encode [a, b, c]).length ≠ registrationRecordLength)
        OpaqueError.invalidProtocolMessage = .ok () := Outcome.failIf_neg _ (by simp [hlen])
    have h₁ : (slice (encode [a, b, c]) regRecordMaskingKeyOffset regRecordEnvelopeOffset :
        OpaqueResult _) = .ok a :=
      slice_flatten [[protocolVersion]] a [b, c] rfl (by simp [ha])
    have h₂ : (slice (encode [a, b, c]) regRecordEnvelopeOffset regRecordInitiatorKeyOffset :
        OpaqueResult _) = .ok b :=
      slice_flatten [[protocolVersion], a] b [c] (by simp [ha]) (by simp [hb])
    have h₃ : (slice (encode [a, b, c]) regRecordInitiatorKeyOffset (encode [a, b, c]).length :
        OpaqueResult _) = .ok c :=
      slice_flatten [[protocolVersion], a, b] c [] (by simp [ha, hb]) (by simp [hlen, hc])
    exact ⟨⟨a, b, c⟩, rfl, by
      simp only [parseRegistrationRecord, hguard, checkVersion_encode, Outcome.ok_bind, h₁, h₂, h₃,
        Outcome.pure_eq]⟩
  injective := by
    rintro ⟨a, b, c⟩ ⟨a', b', c'⟩ h
    simpa using h

theorem parseKe1_reads :
    Reads parseKe1 Ke1Ref.fields ke1FieldLengths where
  guard _ _ := guard_of_ok
  refuses _ := refuses_of_guard
  encode := by
    intro fs hsized
    have hlen := hsized.encode_length
    simp only [Sized, List.map_eq_cons_iff, List.map_eq_nil_iff] at hsized
    obtain ⟨a, _, rfl, ha, b, _, rfl, hb, c, _, rfl, hc, d, _, rfl, hd, rfl⟩ := hsized
    have hguard : failIf ((encode [a, b, c, d]).length ≠ ke1Length)
        OpaqueError.invalidProtocolMessage = .ok () := Outcome.failIf_neg _ (by simp [hlen])
    have h₁ : (slice (encode [a, b, c, d]) ke1CredReqOffset ke1InitiatorPkOffset :
        OpaqueResult _) = .ok a :=
      slice_flatten [[protocolVersion]] a [b, c, d] rfl (by simp [ha])
    have h₂ : (slice (encode [a, b, c, d]) ke1InitiatorPkOffset ke1InitiatorNonceOffset :
        OpaqueResult _) = .ok b :=
      slice_flatten [[protocolVersion], a] b [c, d] (by simp [ha]) (by simp [hb])
    have h₃ : (slice (encode [a, b, c, d]) ke1InitiatorNonceOffset ke1PqPkOffset :
        OpaqueResult _) = .ok c :=
      slice_flatten [[protocolVersion], a, b] c [d] (by simp [ha, hb]) (by simp [hc])
    have h₄ : (slice (encode [a, b, c, d]) ke1PqPkOffset (encode [a, b, c, d]).length :
        OpaqueResult _) = .ok d :=
      slice_flatten [[protocolVersion], a, b, c] d [] (by simp [ha, hb, hc]) (by simp [hlen, hd])
    exact ⟨⟨a, b, c, d⟩, rfl, by
      simp only [parseKe1, hguard, checkVersion_encode, Outcome.ok_bind, h₁, h₂, h₃, h₄,
        Outcome.pure_eq]⟩
  injective := by
    rintro ⟨a, b, c, d⟩ ⟨a', b', c', d'⟩ h
    simpa using h

theorem parseKe2_reads :
    Reads parseKe2 Ke2Ref.fields ke2FieldLengths where
  guard _ _ := guard_of_ok
  refuses _ := refuses_of_guard
  encode := by
    intro fs hsized
    have hlen := hsized.encode_length
    simp only [Sized, List.map_eq_cons_iff, List.map_eq_nil_iff] at hsized
    obtain ⟨a, _, rfl, ha, b, _, rfl, hb, c, _, rfl, hc, d, _, rfl, hd, e, _, rfl, he, rfl⟩ :=
      hsized
    have hguard : failIf ((encode [a, b, c, d, e]).length ≠ ke2Length)
        OpaqueError.invalidProtocolMessage = .ok () := Outcome.failIf_neg _ (by simp [hlen])
    have h₁ : (slice (encode [a, b, c, d, e]) ke2RespNonceOffset ke2RespPkOffset :
        OpaqueResult _) = .ok a :=
      slice_flatten [[protocolVersion]] a [b, c, d, e] rfl (by simp [ha])
    have h₂ : (slice (encode [a, b, c, d, e]) ke2RespPkOffset ke2CredRespOffset :
        OpaqueResult _) = .ok b :=
      slice_flatten [[protocolVersion], a] b [c, d, e] (by simp [ha]) (by simp [hb])
    have h₃ : (slice (encode [a, b, c, d, e]) ke2CredRespOffset ke2RespMacOffset :
        OpaqueResult _) = .ok c :=
      slice_flatten [[protocolVersion], a, b] c [d, e] (by simp [ha, hb]) (by simp [hc])
    have h₄ : (slice (encode [a, b, c, d, e]) ke2RespMacOffset ke2KemCtOffset :
        OpaqueResult _) = .ok d :=
      slice_flatten [[protocolVersion], a, b, c] d [e] (by simp [ha, hb, hc]) (by simp [hd])
    have h₅ : (slice (encode [a, b, c, d, e]) ke2KemCtOffset (encode [a, b, c, d, e]).length :
        OpaqueResult _) = .ok e :=
      slice_flatten [[protocolVersion], a, b, c, d] e [] (by simp [ha, hb, hc, hd])
        (by simp [hlen, he])
    exact ⟨⟨a, b, c, d, e⟩, rfl, by
      simp only [parseKe2, hguard, checkVersion_encode, Outcome.ok_bind, h₁, h₂, h₃, h₄, h₅,
        Outcome.pure_eq]⟩
  injective := by
    rintro ⟨a, b, c, d, e⟩ ⟨a', b', c', d', e'⟩ h
    simpa using h

theorem parseKe3_reads :
    Reads parseKe3 Ke3Ref.fields [macLength] where
  guard _ _ := guard_of_ok
  refuses _ := refuses_of_guard
  encode := by
    intro fs hsized
    have hlen := hsized.encode_length
    simp only [Sized, List.map_eq_cons_iff, List.map_eq_nil_iff] at hsized
    obtain ⟨a, _, rfl, ha, rfl⟩ := hsized
    have hguard : failIf ((encode [a]).length ≠ ke3Length)
        OpaqueError.invalidProtocolMessage = .ok () := Outcome.failIf_neg _ (by simp [hlen])
    have h₁ : (slice (encode [a]) ke3MacOffset (encode [a]).length :
        OpaqueResult _) = .ok a :=
      slice_flatten [[protocolVersion]] a [] rfl (by simp [hlen, ha])
    exact ⟨⟨a⟩, rfl, by
      simp only [parseKe3, hguard, checkVersion_encode, Outcome.ok_bind, h₁,
        Outcome.pure_eq]⟩
  injective := by
    rintro ⟨a⟩ ⟨a'⟩ h
    simpa using h

/-! ## What the writers produce -/

section Written

variable {n : ℕ}

theorem writes_failIf {p : Prop} [Decidable p] {e : OpaqueError} {lo : ℕ} {source : List UInt8}
    {c : Cmd OpaqueError (Bytes n) Unit} (hp : ¬ p) (hc : Writes lo source c) :
    Writes lo source (Cmd.failIf p e >>= fun _ => c) := by
  intro hfits buffer
  rw [Cmd.run_bind_ok (by rw [Cmd.run_failIf, Outcome.failIf_neg e hp])]
  exact hc hfits buffer

theorem exists_wire {fields : List (List UInt8)} {lengths : List ℕ}
    {c : Cmd OpaqueError (Bytes n) Unit} (hc : Writes 0 (encode fields) c)
    (hsized : Sized lengths fields) (hn : 1 + lengths.sum = n) :
    ∃ wire : Bytes n, wire.toList = encode fields ∧ Cmd.fill (zeros n) c = .ok wire :=
  ⟨_, rfl, hc.fill (hsized.encode_length.trans hn) (zeros n)⟩

theorem wire_of_fill {fields : List (List UInt8)} {lengths : List ℕ}
    {c : Cmd OpaqueError (Bytes n) Unit} {wire : Bytes n}
    (h : Cmd.fill (zeros n) c = .ok wire) (hc : Writes 0 (encode fields) c)
    (hsized : Sized lengths fields) (hn : 1 + lengths.sum = n) :
    wire.toList = encode fields := by
  obtain ⟨wire', hwire, hfill⟩ := exists_wire hc hsized hn
  obtain rfl := Outcome.ok.inj (hfill.symm.trans h)
  exact hwire

theorem writeRegistrationRequest_writes {payload : List UInt8}
    (hsized : Sized [registrationRequestLength] [payload])
    (hn : registrationRequestWireLength ≤ n) :
    Writes 0 (encode [payload])
      (writeRegistrationRequest payload : Cmd OpaqueError (Bytes n) Unit) := by
  simp only [Sized, List.map_cons, List.map_nil, List.cons.injEq, and_true] at hsized
  refine writes_failIf (by simp only [not_or, not_not, not_lt]; exact ⟨hsized, hn⟩) ?_
  simp only [encode, List.flatten_cons, List.flatten_nil, List.append_nil]
  refine .spliceThen ?_ (.spliceAt ?_) <;>
    simp [hsized]

theorem writeRegistrationResponse_writes {evaluatedElement responderPublicKey : List UInt8}
    (hsized : Sized registrationResponseFieldLengths [evaluatedElement, responderPublicKey])
    (hn : registrationResponseWireLength ≤ n) :
    Writes 0 (encode [evaluatedElement, responderPublicKey])
      (writeRegistrationResponse evaluatedElement responderPublicKey :
        Cmd OpaqueError (Bytes n) Unit) := by
  simp only [Sized, List.map_cons, List.map_nil, List.cons.injEq, and_true] at hsized
  obtain ⟨h₁, h₂⟩ := hsized
  refine writes_failIf (by simp only [not_or, not_not, not_lt]; exact ⟨h₁, h₂, hn⟩) ?_
  simp only [encode, List.flatten_cons, List.flatten_nil, List.append_nil]
  refine .spliceThen ?_ (.spliceThen ?_ (.spliceAt ?_)) <;>
    simp [h₁, h₂]

theorem writeRegistrationRecord_writes {credentialStorage initiatorPublicKey : List UInt8}
    (hsized : Sized [registrationCredentialLength, publicKeyLength]
      [credentialStorage, initiatorPublicKey])
    (hn : registrationRecordLength ≤ n) :
    Writes 0 (encode [credentialStorage, initiatorPublicKey])
      (writeRegistrationRecord credentialStorage initiatorPublicKey :
        Cmd OpaqueError (Bytes n) Unit) := by
  simp only [Sized, List.map_cons, List.map_nil, List.cons.injEq, and_true] at hsized
  obtain ⟨h₁, h₂⟩ := hsized
  refine writes_failIf (by simp only [not_or, not_not, not_lt]; exact ⟨h₁, h₂, hn⟩) ?_
  simp only [encode, List.flatten_cons, List.flatten_nil, List.append_nil]
  refine .spliceThen ?_ (.spliceThen ?_ (.spliceAt ?_)) <;>
    simp [h₁, h₂]

theorem writeKe1_writes
    {credentialRequest initiatorPublicKey initiatorNonce pqEphemeralPublicKey : List UInt8}
    (hsized : Sized ke1FieldLengths
      [credentialRequest, initiatorPublicKey, initiatorNonce, pqEphemeralPublicKey])
    (hn : ke1Length ≤ n) :
    Writes 0 (encode [credentialRequest, initiatorPublicKey, initiatorNonce, pqEphemeralPublicKey])
      (writeKe1 credentialRequest initiatorPublicKey initiatorNonce pqEphemeralPublicKey :
        Cmd OpaqueError (Bytes n) Unit) := by
  simp only [Sized, List.map_cons, List.map_nil, List.cons.injEq, and_true] at hsized
  obtain ⟨h₁, h₂, h₃, h₄⟩ := hsized
  refine writes_failIf (by simp only [not_or, not_not, not_lt]; exact ⟨h₁, h₂, h₃, h₄, hn⟩) ?_
  simp only [encode, List.flatten_cons, List.flatten_nil, List.append_nil]
  refine .spliceThen ?_ (.spliceThen ?_ (.spliceThen ?_ (.spliceThen ?_ (.spliceAt ?_)))) <;>
    simp [h₁, h₂, h₃, h₄]

theorem writeKe2_writes
    {responderNonce responderPublicKey credentialResponse responderMac kemCiphertext : List UInt8}
    (hsized : Sized ke2FieldLengths
      [responderNonce, responderPublicKey, credentialResponse, responderMac, kemCiphertext])
    (hn : ke2Length ≤ n) :
    Writes 0
      (encode [responderNonce, responderPublicKey, credentialResponse, responderMac, kemCiphertext])
      (writeKe2 responderNonce responderPublicKey credentialResponse responderMac kemCiphertext :
        Cmd OpaqueError (Bytes n) Unit) := by
  simp only [Sized, List.map_cons, List.map_nil, List.cons.injEq, and_true] at hsized
  obtain ⟨h₁, h₂, h₃, h₄, h₅⟩ := hsized
  refine writes_failIf (by simp only [not_or, not_not, not_lt]; exact ⟨h₁, h₂, h₃, h₄, h₅, hn⟩) ?_
  simp only [encode, List.flatten_cons, List.flatten_nil, List.append_nil]
  refine .spliceThen ?_ (.spliceThen ?_ (.spliceThen ?_ (.spliceThen ?_ (.spliceThen ?_
    (.spliceAt ?_))))) <;>
    simp [h₁, h₂, h₃, h₄, h₅]

theorem writeKe3_writes {initiatorMac : List UInt8}
    (hsized : Sized [macLength] [initiatorMac])
    (hn : ke3Length ≤ n) :
    Writes 0 (encode [initiatorMac])
      (writeKe3 initiatorMac : Cmd OpaqueError (Bytes n) Unit) := by
  simp only [Sized, List.map_cons, List.map_nil, List.cons.injEq, and_true] at hsized
  refine writes_failIf (by simp only [not_or, not_not, not_lt]; exact ⟨hsized, hn⟩) ?_
  simp only [encode, List.flatten_cons, List.flatten_nil, List.append_nil]
  refine .spliceThen ?_ (.spliceAt ?_) <;>
    simp [hsized]

end Written

end Protocol

end AuraOpaque.Core
