import AuraOpaque.Core.PqKem
import AuraOpaque.Foundation.Collision

/-!
# The key schedule both parties are meant to compute

Four Diffie-Hellman values, one KEM secret and a transcript of ten fields
determine three keys and two tags.  The definitions here are what the handshake
computes in one piece; the two implementations are compared with them later.
Every derived value fixes all it was derived from, unless the hash functions
collide on inputs of the executions at hand.
-/

namespace AuraOpaque.Handshake

open AuraOpaque.Foundation AuraOpaque.Core

structure SharedSecrets where
  dh1 : Bytes publicKeyLength
  dh2 : Bytes publicKeyLength
  dh3 : Bytes publicKeyLength
  dh4 : Bytes publicKeyLength
  kemSs : Bytes kemSharedSecretLength

structure Transcript where
  initiatorEphemeralPublicKey : List UInt8
  responderEphemeralPublicKey : List UInt8
  initiatorNonce : List UInt8
  responderNonce : List UInt8
  initiatorPublicKey : List UInt8
  responderPublicKey : List UInt8
  credentialResponse : List UInt8
  pqEphemeralPublicKey : List UInt8
  kemCiphertext : List UInt8
  accountContextHash : List UInt8

namespace SharedSecrets

def classicalIkm (s : SharedSecrets) : List UInt8 :=
  s.dh1.toList ++ (s.dh2.toList ++ (s.dh3.toList ++ s.dh4.toList))

def ikm (s : SharedSecrets) : List UInt8 := s.classicalIkm ++ s.kemSs.toList

@[simp] theorem classicalIkm_length (s : SharedSecrets) :
    s.classicalIkm.length = classicalIkmLength := by
  simp [classicalIkm]

theorem ikm_injective : Function.Injective ikm := by
  intro s s' h
  obtain ⟨hikm, hkem⟩ := List.append_inj h (by simp)
  obtain ⟨h1, hikm⟩ := toList_append_inj hikm
  obtain ⟨h2, hikm⟩ := toList_append_inj hikm
  obtain ⟨h3, h4⟩ := toList_append_inj hikm
  obtain ⟨dh1, dh2, dh3, dh4, kemSs⟩ := s
  obtain ⟨dh1', dh2', dh3', dh4', kemSs'⟩ := s'
  cases h1
  cases h2
  cases h3
  obtain rfl := List.Vector.toList_injective h4
  obtain rfl := List.Vector.toList_injective hkem
  rfl

end SharedSecrets

namespace Transcript

def fields (t : Transcript) : List (List UInt8) :=
  [t.initiatorEphemeralPublicKey, t.responderEphemeralPublicKey, t.initiatorNonce,
    t.responderNonce, t.initiatorPublicKey, t.responderPublicKey, t.credentialResponse,
    t.pqEphemeralPublicKey, t.kemCiphertext, t.accountContextHash]

def Sized (t : Transcript) : Prop :=
  t.fields.map List.length =
    [publicKeyLength, publicKeyLength, nonceLength, nonceLength, publicKeyLength,
      publicKeyLength, credentialResponseLength, kemPublicKeyLength, kemCiphertextLength,
      hashLength]

def encode (t : Transcript) : List UInt8 := t.fields.flatten

theorem fields_injective : Function.Injective fields := by
  rintro ⟨⟩ ⟨⟩ h
  simpa [fields] using h

/-- The fixed lengths make the concatenation unambiguous. -/
theorem encode_injective {t t' : Transcript} (ht : t.Sized) (ht' : t'.Sized)
    (h : t.encode = t'.encode) : t = t' :=
  fields_injective (flatten_injective_of_lengths (ht.trans ht'.symm) h)

theorem Sized.encode_length {t : Transcript} (h : t.Sized) : t.encode.length = 2680 := by
  rw [encode, List.length_flatten, h]
  rfl

end Transcript

/-! ## Derived values -/

section Schedule

variable (P : Primitives) (s : SharedSecrets) (t : Transcript)

def transcriptHash : Bytes hashLength := P.sha512 (Labels.transcriptContext ++ t.encode)

def prk : Bytes hashLength :=
  P.hmac (Labels.pqCombinerContext ++ (transcriptHash P t).toList) s.ikm

def derivedKey (info : List UInt8) : Bytes hashLength := P.hmac (prk P s t).toList (info ++ [1])

def sessionKey : Bytes hashLength := derivedKey P s t Labels.pqSessionKeyInfo
def responderMacKey : Bytes macLength := derivedKey P s t Labels.pqResponderMacInfo
def initiatorMacKey : Bytes macLength := derivedKey P s t Labels.pqInitiatorMacInfo
def responderMac : Bytes macLength := P.hmac (responderMacKey P s t).toList t.encode
def initiatorMac : Bytes macLength := P.hmac (initiatorMacKey P s t).toList t.encode

def shaInputs : List (List UInt8) := [Labels.transcriptContext ++ t.encode]

/-- What the schedule authenticates: keys with messages. -/
def hmacInputs : List (List UInt8 × List UInt8) :=
  [(Labels.pqCombinerContext ++ (transcriptHash P t).toList, s.ikm),
    ((prk P s t).toList, Labels.pqSessionKeyInfo ++ [1]),
    ((prk P s t).toList, Labels.pqResponderMacInfo ++ [1]),
    ((prk P s t).toList, Labels.pqInitiatorMacInfo ++ [1]),
    ((responderMacKey P s t).toList, t.encode),
    ((initiatorMacKey P s t).toList, t.encode)]

end Schedule

/-! ## The library calls that compute them -/

section Calls

variable (P : Primitives) (s : SharedSecrets) (t : Transcript)

theorem sha512Multi_transcript :
    sha512Multi P [Labels.transcriptContext, t.encode] = transcriptHash P t := by
  simp [sha512Multi, transcriptHash]

theorem combineKeyMaterial_schedule :
    PqKem.combineKeyMaterial P s.classicalIkm s.kemSs.toList (transcriptHash P t).toList =
      .ok (prk P s t) :=
  PqKem.combineKeyMaterial_eq P (by simp) (by simp) (by simp)

theorem expand_schedule (info : List UInt8) :
    expand P (prk P s t).toList info hashLength = .ok (derivedKey P s t info) := by
  rw [expand_eq P _ _ (by decide) (by decide), hkdfExpand_block]
  rfl

variable {t} in
theorem hmacSha512_schedule (ht : t.Sized) (key : Bytes macLength) :
    hmacSha512 P key.toList t.encode = .ok (P.hmac key.toList t.encode) := by
  have hencode : t.encode.isEmpty = false := by
    rw [List.isEmpty_eq_false_iff, ← List.length_pos_iff, ht.encode_length]
    decide
  rw [hmacSha512, Outcome.failIf_neg _ (by simp [hencode])]
  rfl

end Calls

/-! ## Binding -/

section Binding

variable (P : Primitives)

def hmacOf (P : Primitives) (km : List UInt8 × List UInt8) : Bytes macLength :=
  P.hmac km.1 km.2

/-- A collision of one of the hash functions among the given inputs. -/
def HashCollision (shas : List (List UInt8)) (hmacs : List (List UInt8 × List UInt8)) : Prop :=
  Collides P.sha512 shas ∨ Collides (hmacOf P) hmacs

theorem HashCollision.mono {shas shas' : List (List UInt8)}
    {hmacs hmacs' : List (List UInt8 × List UInt8)} (h : HashCollision P shas hmacs)
    (hshas : shas ⊆ shas') (hhmacs : hmacs ⊆ hmacs') : HashCollision P shas' hmacs' :=
  h.imp (·.mono hshas) (·.mono hhmacs)

variable {P} {s s' : SharedSecrets} {t t' : Transcript}

abbrev BothCollide (P : Primitives) (s : SharedSecrets) (t : Transcript) (s' : SharedSecrets)
    (t' : Transcript) : Prop :=
  HashCollision P (shaInputs t ++ shaInputs t') (hmacInputs P s t ++ hmacInputs P s' t')

/-- Equal tags of the two runs: the same key and message, or a collision. -/
theorem eq_of_hmac_eq {k m k' m' : List UInt8} (hmem : (k, m) ∈ hmacInputs P s t)
    (hmem' : (k', m') ∈ hmacInputs P s' t') (h : P.hmac k m = P.hmac k' m') :
    (k = k' ∧ m = m') ∨ BothCollide P s t s' t' := by
  have hpair : hmacOf P (k, m) = hmacOf P (k', m') := h
  rcases eq_or_collides (List.mem_append_left _ hmem) (List.mem_append_right _ hmem') hpair with
    heq | hcollides
  · exact .inl (Prod.mk.inj heq)
  · exact .inr (.inr hcollides)

theorem prk_binding (ht : t.Sized) (ht' : t'.Sized) (h : prk P s t = prk P s' t') :
    (s = s' ∧ t = t') ∨ BothCollide P s t s' t' := by
  have hmem : ∀ s t, (Labels.pqCombinerContext ++ (transcriptHash P t).toList, s.ikm) ∈
      hmacInputs P s t := by
    simp [hmacInputs]
  have hsha : ∀ t, Labels.transcriptContext ++ t.encode ∈ shaInputs t := by
    simp [shaInputs]
  rcases eq_of_hmac_eq (hmem s t) (hmem s' t') h with ⟨hkey, hikm⟩ | hcollide
  · have hhash : P.sha512 (Labels.transcriptContext ++ t.encode) =
        P.sha512 (Labels.transcriptContext ++ t'.encode) :=
      List.Vector.toList_injective (List.append_cancel_left hkey)
    rcases eq_or_collides (List.mem_append_left _ (hsha t)) (List.mem_append_right _ (hsha t'))
      hhash with hinput | hcollide
    · exact .inl ⟨SharedSecrets.ikm_injective hikm,
        Transcript.encode_injective ht ht' (List.append_cancel_left hinput)⟩
    · exact .inr (.inl hcollide)
  · exact .inr hcollide

/-- A derived key fixes the pseudorandom key, for each of the three labels. -/
theorem derivedKey_binding {info : List UInt8}
    (hinfo : info = Labels.pqSessionKeyInfo ∨ info = Labels.pqResponderMacInfo ∨
      info = Labels.pqInitiatorMacInfo)
    (ht : t.Sized) (ht' : t'.Sized) (h : derivedKey P s t info = derivedKey P s' t' info) :
    (s = s' ∧ t = t') ∨ BothCollide P s t s' t' := by
  have hmem : ∀ s t, ((prk P s t).toList, info ++ [1]) ∈ hmacInputs P s t := by
    intro s t
    rcases hinfo with rfl | rfl | rfl <;> simp [hmacInputs]
  rcases eq_of_hmac_eq (hmem s t) (hmem s' t') h with ⟨hprk, -⟩ | hcollide
  · exact prk_binding ht ht' (List.Vector.toList_injective hprk)
  · exact .inr hcollide

theorem sessionKey_binding (ht : t.Sized) (ht' : t'.Sized)
    (h : sessionKey P s t = sessionKey P s' t') :
    (s = s' ∧ t = t') ∨ BothCollide P s t s' t' :=
  derivedKey_binding (.inl rfl) ht ht' h

theorem responderMac_binding (ht : t.Sized) (ht' : t'.Sized)
    (h : responderMac P s t = responderMac P s' t') :
    (s = s' ∧ t = t') ∨ BothCollide P s t s' t' := by
  have hmem : ∀ s t, ((responderMacKey P s t).toList, t.encode) ∈ hmacInputs P s t := by
    simp [hmacInputs]
  rcases eq_of_hmac_eq (hmem s t) (hmem s' t') h with ⟨hkey, -⟩ | hcollide
  · exact derivedKey_binding (.inr (.inl rfl)) ht ht' (List.Vector.toList_injective hkey)
  · exact .inr hcollide

theorem initiatorMac_binding (ht : t.Sized) (ht' : t'.Sized)
    (h : initiatorMac P s t = initiatorMac P s' t') :
    (s = s' ∧ t = t') ∨ BothCollide P s t s' t' := by
  have hmem : ∀ s t, ((initiatorMacKey P s t).toList, t.encode) ∈ hmacInputs P s t := by
    simp [hmacInputs]
  rcases eq_of_hmac_eq (hmem s t) (hmem s' t') h with ⟨hkey, -⟩ | hcollide
  · exact derivedKey_binding (.inr (.inr rfl)) ht ht' (List.Vector.toList_injective hkey)
  · exact .inr hcollide

end Binding

end AuraOpaque.Handshake
