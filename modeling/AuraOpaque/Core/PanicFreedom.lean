import AuraOpaque.Core.Oprf
import AuraOpaque.Core.PqKem
import AuraOpaque.Core.Envelope
import AuraOpaque.Core.Protocol

/-!
# The primitives return or report, they do not panic

Each partial operation stands behind a length check, or behind a type that fixes
the length.
-/

/-! ## Steps of an operation -/

/-- The operation does not panic and keeps what is said of the session. -/
abbrev AuraOpaque.Core.Op.SafeOn {Out St α : Type} (J : St → Prop)
    (c : AuraOpaque.Core.Op Out St α) : Prop :=
  AuraOpaque.Foundation.Cmd.Safe (fun f => J f.state) c

namespace AuraOpaque.Foundation.Cmd.Safe

open AuraOpaque.Core

variable {Out St α : Type} {J : St → Prop}

theorem getState : Op.SafeOn J (Op.getState : Op Out St St) :=
  fun _ hf => ⟨Outcome.ok_ne_panic, hf⟩

theorem getOut : Op.SafeOn J (Op.getOut : Op Out St Out) :=
  fun _ hf => ⟨Outcome.ok_ne_panic, hf⟩

theorem modifyState {g : St → St} (h : ∀ s, J s → J (g s)) :
    Op.SafeOn J (Op.modifyState g : Op Out St Unit) :=
  .modify fun _ hf => h _ hf

theorem modifyOut {g : Out → Out} : Op.SafeOn J (Op.modifyOut g : Op Out St Unit) :=
  .modify fun _ hf => hf

theorem onWorld {c : Cmd OpaqueError World α} (h : Cmd.Safe (fun _ => True) c) :
    Op.SafeOn J (Op.onWorld c : Op Out St α) :=
  .zoom h fun _ _ hf => hf

end AuraOpaque.Foundation.Cmd.Safe

namespace AuraOpaque.Core

open AuraOpaque.Foundation

variable (P : Primitives)

theorem now_safe : Cmd.Safe (fun _ => True) World.now :=
  fun _ _ => ⟨Outcome.ok_ne_panic, trivial⟩

/-! ## Points and scalars -/

theorem decodeNonIdentityPoint_ne_panic (point : List UInt8) (e : OpaqueError) :
    decodeNonIdentityPoint P point e ≠ .panic := by
  rcases decodeNonIdentityPoint_cases P point e with ⟨_, _, _, h⟩ | ⟨-, h⟩ <;>
    rw [h] <;> simp

theorem scalarMult_ne_panic (scalar : Bytes privateKeyLength) (point : Bytes publicKeyLength) :
    scalarMult P scalar point ≠ .panic := by
  rcases scalarMult_cases P scalar point with ⟨_, _, _, _, _, _, h⟩ | ⟨-, h⟩ <;>
    rw [h] <;> simp

theorem validatePublicKey_ne_panic (key : List UInt8) : validatePublicKey P key ≠ .panic := by
  rcases validatePublicKey_cases P key with h | h <;> rw [h] <;> simp

theorem validateRistrettoPoint_ne_panic (point : List UInt8) :
    validateRistrettoPoint P point ≠ .panic :=
  Outcome.failIf_bind_ne_panic fun _ =>
    Outcome.bind_ne_panic (decodeNonIdentityPoint_ne_panic P _ _)
    fun _ _ => Outcome.ok_ne_panic

theorem scalarmultBase_ne_panic (scalar : Bytes privateKeyLength) :
    scalarmultBase P scalar ≠ .panic :=
  Outcome.okOr_bind_ne_panic fun _ _ => Outcome.failIf_bind_ne_panic fun _ =>
    Outcome.failIf_bind_ne_panic fun _ => Outcome.ok_ne_panic

theorem scalarInvert_ne_panic (scalar : Bytes privateKeyLength) :
    scalarInvert P scalar ≠ .panic :=
  Outcome.okOr_bind_ne_panic fun _ _ => Outcome.failIf_bind_ne_panic fun _ => Outcome.ok_ne_panic

theorem deriveKeyPair_ne_panic (seed : List UInt8) : deriveKeyPair P seed ≠ .panic :=
  Outcome.failIf_bind_ne_panic fun _ => Outcome.failIf_bind_ne_panic fun _ => Outcome.ok_ne_panic

/-! ## Key derivation -/

theorem hmacSha512_ne_panic (key message : List UInt8) : hmacSha512 P key message ≠ .panic :=
  Outcome.failIf_bind_ne_panic fun _ => Outcome.ok_ne_panic

theorem keyDerivationExtract_ne_panic (salt ikm : List UInt8) :
    keyDerivationExtract P salt ikm ≠ .panic :=
  Outcome.failIf_bind_ne_panic fun _ => hmacSha512_ne_panic P _ _

/-- The loop stays inside the buffer, and the checks keep other sizes out. -/
theorem keyDerivationExpand_safe {n : ℕ} (prk info : List UInt8) :
    Cmd.Safe (fun _ : Bytes n => True) (keyDerivationExpand P prk info) := by
  intro okm _
  refine ⟨?_, trivial⟩
  by_cases hguard : prk.isEmpty || n == 0
  · rw [keyDerivationExpand, Cmd.run_bind_err (by rw [Cmd.run_failIf, Outcome.failIf_pos _ hguard])]
    exact Outcome.err_ne_panic
  by_cases hblocks : 255 < (n + hashLength - 1) / hashLength
  · rw [keyDerivationExpand,
      Cmd.run_bind_ok (by rw [Cmd.run_failIf, Outcome.failIf_neg _ hguard]),
      Cmd.run_bind_err (by rw [Cmd.run_failIf, Outcome.failIf_pos _ hblocks])]
    exact Outcome.err_ne_panic
  · simp only [Bool.or_eq_true, List.isEmpty_iff, beq_iff_eq, not_or] at hguard
    simp only [hashLength] at hblocks
    obtain ⟨okm', hrun, -⟩ := @keyDerivationExpand_run P prk info n okm hguard.1 (by omega)
      (by omega)
    rw [hrun]
    exact Outcome.ok_ne_panic

theorem expand_ne_panic (prk info : List UInt8) (n : ℕ) : expand P prk info n ≠ .panic :=
  Cmd.Safe.fill_ne_panic (keyDerivationExpand_safe P prk info) _

theorem deriveOprfKeyLoop_ne_panic (oprfSeed : Bytes oprfSeedLength)
    (accountId counters : List UInt8) :
    deriveOprfKeyLoop P oprfSeed accountId counters ≠ .panic := by
  induction counters with
  | nil => exact Outcome.err_ne_panic
  | cons counter counters ih =>
      rw [deriveOprfKeyLoop]
      split
      · exact Outcome.ok_ne_panic
      · exact ih

theorem deriveOprfKey_ne_panic (relaySecret accountId : List UInt8) :
    deriveOprfKey P relaySecret accountId ≠ .panic := by
  refine Outcome.failIf_bind_ne_panic fun _ => ?_
  refine Outcome.bind_ne_panic (hmacSha512_ne_panic P _ _) fun mac _ => ?_
  refine Outcome.bind_ne_panic (slice_ne_panic (Nat.zero_le _) (by simp)) fun part hpart => ?_
  refine Outcome.bind_ne_panic (copyFromSlice_ne_panic (length_of_slice hpart)) fun seed _ => ?_
  exact deriveOprfKeyLoop_ne_panic P _ _ _

theorem deriveRandomizedPassword_ne_panic (oprfOutput secureKey : List UInt8) (n : ℕ) :
    deriveRandomizedPassword P oprfOutput secureKey n ≠ .panic := by
  refine Outcome.failIf_bind_ne_panic fun _ => ?_
  refine Outcome.bind_ne_panic (slice_ne_panic (Nat.zero_le _) (by simp)) fun part hpart => ?_
  refine Outcome.bind_ne_panic (copyFromSlice_ne_panic (length_of_slice hpart)) fun salt _ => ?_
  exact Outcome.okOr_ne_panic

theorem deriveClientExportKey_ne_panic (randomizedPwd : List UInt8)
    (accountContextHash : Bytes hashLength) (n : ℕ) :
    deriveClientExportKey P randomizedPwd accountContextHash n ≠ .panic :=
  Outcome.failIf_bind_ne_panic fun _ => Outcome.bind_ne_panic (keyDerivationExtract_ne_panic P _ _)
    fun _ _ => expand_ne_panic P _ _ _

theorem deriveMaskingKey_ne_panic (randomizedPwd : List UInt8) :
    deriveMaskingKey P randomizedPwd ≠ .panic :=
  Outcome.failIf_bind_ne_panic fun _ => Outcome.bind_ne_panic (keyDerivationExtract_ne_panic P _ _)
    fun _ _ => expand_ne_panic P _ _ _

theorem maskCredentialEnvelope_ne_panic (maskingKey : Bytes maskingKeyLength)
    (responderNonce evaluatedElement : List UInt8) (accountContextHash : Bytes hashLength)
    (input : Bytes envelopeLength) :
    maskCredentialEnvelope P maskingKey responderNonce evaluatedElement accountContextHash input ≠
      .panic :=
  Outcome.failIf_bind_ne_panic fun _ => Outcome.bind_ne_panic (keyDerivationExtract_ne_panic P _ _)
    fun _ _ => Outcome.bind_ne_panic (expand_ne_panic P _ _ _) fun _ _ => Outcome.ok_ne_panic

/-! ## The cipher -/

theorem encryptEnvelope_ne_panic (key plaintext : List UInt8) (nonce : Bytes nonceLength)
    (ciphertext : List UInt8) : encryptEnvelope P key plaintext nonce ciphertext ≠ .panic := by
  refine Outcome.failIf_bind_ne_panic fun hkey => Outcome.failIf_bind_ne_panic fun hroom => ?_
  simp only [Bool.or_eq_true, decide_eq_true_eq, not_or, not_not] at hkey
  refine Outcome.bind_ne_panic (copyFromSlice_ne_panic hkey.1) fun keyRef _ => ?_
  refine Outcome.okOr_bind_ne_panic fun encrypted _ => Outcome.failIf_bind_ne_panic fun hlen => ?_
  rw [not_not] at hlen
  refine Outcome.bind_ne_panic (slice_ne_panic (Nat.zero_le _) (by omega)) fun tag htag => ?_
  refine Outcome.bind_ne_panic (copyFromSlice_ne_panic (length_of_slice htag)) fun authTag _ => ?_
  refine Outcome.bind_ne_panic (slice_ne_panic (by omega) le_rfl) fun body hbody => ?_
  have hbodyLen := length_of_slice hbody
  refine Outcome.bind_ne_panic (splice_ne_panic (Nat.zero_le _) (by omega) (by omega))
    fun written _ => ?_
  exact Outcome.ok_ne_panic

theorem decryptEnvelope_ne_panic (key ciphertext : List UInt8) (nonce : Bytes nonceLength)
    (authTag : Bytes secretboxMacLength) {n : ℕ} (plaintext : Bytes n) :
    decryptEnvelope P key ciphertext nonce authTag plaintext ≠ .panic := by
  refine Outcome.failIf_bind_ne_panic fun hkey => Outcome.failIf_bind_ne_panic fun hroom => ?_
  simp only [Bool.or_eq_true, decide_eq_true_eq, not_or, not_not] at hkey
  refine Outcome.bind_ne_panic (copyFromSlice_ne_panic hkey.1) fun keyRef _ => ?_
  refine Outcome.bind_ne_panic (splice_ne_panic (Nat.zero_le _) (by omega) (by simp)) fun _ _ => ?_
  refine Outcome.bind_ne_panic (splice_ne_panic (by omega) le_rfl (by omega)) fun _ _ => ?_
  refine Outcome.okOr_bind_ne_panic fun decrypted _ => Outcome.failIf_bind_ne_panic fun hlen => ?_
  exact splice_ne_panic (Nat.zero_le _) (by omega) (by omega)

/-! ## Messages -/

theorem Protocol.Reads.ne_panic {α : Type} {parse : List UInt8 → OpaqueResult α}
    {fields : α → List (List UInt8)} {lengths : List ℕ} (h : Protocol.Reads parse fields lengths)
    (data : List UInt8) : parse data ≠ .panic := by
  rcases h.ok_or_err data with ⟨r, hok⟩ | ⟨e, herr⟩
  · rw [hok]
    exact Outcome.ok_ne_panic
  · rw [herr]
    exact Outcome.err_ne_panic

/-! ## Random values -/

theorem randomBytes_safe (n : ℕ) : Cmd.Safe (fun _ => True) (randomBytes n) :=
  .bind (.failIf _) fun _ _ _ => ⟨Outcome.ok_ne_panic, trivial⟩

theorem randomNonzeroScalar_safe : Cmd.Safe (fun _ => True) (randomNonzeroScalar P) := by
  intro w _
  rcases randomNonzeroScalar_cases P w with ⟨_, _, _, _, h⟩ | ⟨_, _, h⟩ <;> rw [h] <;>
    exact ⟨by simp, trivial⟩

/-! ## The oblivious PRF -/

namespace Oprf

theorem hashToGroup_ne_panic (input : List UInt8) : hashToGroup P input ≠ .panic :=
  Outcome.failIf_bind_ne_panic fun _ => Outcome.ok_ne_panic

theorem blind_safe (input : List UInt8) : Cmd.Safe (fun _ => True) (blind P input) := by
  refine .bind (.failIf _) fun _ => ?_
  refine .bind (.zoom (randomNonzeroScalar_safe P) fun _ _ _ => trivial) fun _ => ?_
  refine .bind (.modify fun _ _ => trivial) fun _ => ?_
  refine .bind (.lift (hashToGroup_ne_panic P _)) fun _ => ?_
  exact .bind (.lift (scalarMult_ne_panic P _ _)) fun _ => .modify fun _ _ => trivial

theorem finalize_ne_panic (input : List UInt8) (blindScalar : Bytes privateKeyLength)
    (evaluatedElement : Bytes publicKeyLength) :
    finalize P input blindScalar evaluatedElement ≠ .panic :=
  Outcome.failIf_bind_ne_panic fun _ => Outcome.bind_ne_panic (scalarInvert_ne_panic P _)
    fun _ _ => Outcome.bind_ne_panic (scalarMult_ne_panic P _ _) fun _ _ => Outcome.ok_ne_panic

end Oprf

/-- An evaluator that returns or reports. -/
structure OprfEvaluator.NeverPanics (evaluator : OprfEvaluator) : Prop where
  evaluateOprf : ∀ blindedElement accountId,
    evaluator.evaluateOprf blindedElement accountId ≠ .panic
  deriveFakeMaterial : ∀ accountId, evaluator.deriveFakeMaterial accountId ≠ .panic

theorem InMemoryEvaluator.neverPanics (self : InMemoryEvaluator) :
    (self.toOprfEvaluator P).NeverPanics where
  evaluateOprf _ _ := Outcome.bind_ne_panic (deriveOprfKey_ne_panic P _ _)
    fun _ _ => scalarMult_ne_panic P _ _
  deriveFakeMaterial _ := Outcome.ok_ne_panic

/-! ## The KEM and the combiner -/

namespace PqKem

theorem keypairGenerate_safe : Cmd.Safe (fun _ => True) (keypairGenerate P) :=
  fun _ _ => ⟨Outcome.ok_ne_panic, trivial⟩

theorem encapsulate_safe (publicKey : List UInt8) :
    Cmd.Safe (fun _ => True) (encapsulate P publicKey) := by
  refine .bind (.failIf _) fun _ => .bind (.okOr _ _) fun _ => .bind (.okOr _ _) fun _ => ?_
  exact .bind (.failIf _) fun _ _ _ => ⟨Outcome.ok_ne_panic, trivial⟩

theorem decapsulate_ne_panic (secretKey ciphertext : List UInt8) :
    decapsulate P secretKey ciphertext ≠ .panic :=
  Outcome.failIf_bind_ne_panic fun _ => Outcome.okOr_bind_ne_panic fun _ _ =>
    Outcome.okOr_bind_ne_panic fun _ _ => Outcome.okOr_bind_ne_panic fun _ _ =>
      Outcome.failIf_bind_ne_panic fun _ => Outcome.ok_ne_panic

theorem combineKeyMaterial_ne_panic (classicalIkm pqSharedSecret transcriptHash : List UInt8) :
    combineKeyMaterial P classicalIkm pqSharedSecret transcriptHash ≠ .panic := by
  by_cases h : classicalIkm.length = classicalIkmLength ∧
      pqSharedSecret.length = kemSharedSecretLength ∧ transcriptHash.length = hashLength
  · rw [combineKeyMaterial_eq P h.1 h.2.1 h.2.2]
    exact Outcome.ok_ne_panic
  · refine Outcome.failIf_bind_ne_panic fun hguard => absurd ?_ h
    simpa [and_assoc] using hguard

end PqKem

/-! ## The envelope -/

namespace Envelope

theorem deriveEnvelopeKey_ne_panic (responderPublicKey : Bytes publicKeyLength)
    {randomizedPwd : List UInt8} (h : ¬ randomizedPwd.isEmpty) :
    deriveEnvelopeKey P responderPublicKey randomizedPwd ≠ .panic := by
  rw [deriveEnvelopeKey_eq P (by simpa using h)]
  exact Outcome.ok_ne_panic

theorem seal_safe (randomizedPwd : List UInt8) (rpk : Bytes publicKeyLength)
    (isk : Bytes privateKeyLength) (ipk : Bytes publicKeyLength) :
    Cmd.Safe (fun _ => True) («seal» P randomizedPwd rpk isk ipk) := by
  refine .failIf_bind _ fun hpwd => ?_
  refine .bind .get fun _ => .bind (.failIf _) fun _ => ?_
  refine .bind (.zoom (randomBytes_safe _) fun _ _ _ => trivial) fun _ => ?_
  refine .bind (.modify fun _ _ => trivial) fun _ => ?_
  refine .bind (.lift (deriveEnvelopeKey_ne_panic P _ hpwd)) fun _ => ?_
  refine .bind (.lift (by rw [sealedKeys_eq]; exact Outcome.ok_ne_panic)) fun _ => ?_
  refine .bind (.modify fun _ _ => trivial) fun _ => .bind .get fun _ => ?_
  refine .bind (.okOr _ _) fun _ => .bind (.okOr _ _) fun _ => ?_
  exact .bind (.lift (encryptEnvelope_ne_panic P _ _ _ _)) fun _ => .modify fun _ _ => trivial

theorem openRaw_safe (nonce ciphertext authTag randomizedPwd : List UInt8)
    (knownResponderPublicKey : Bytes publicKeyLength) :
    Cmd.Safe (fun _ => True)
      (openRaw P nonce ciphertext authTag randomizedPwd knownResponderPublicKey) := by
  refine .failIf_bind _ fun hpwd => ?_
  refine .bind (.failIf _) fun _ => ?_
  refine .bind (.lift (deriveEnvelopeKey_ne_panic P _ hpwd)) fun _ => ?_
  refine .bind (.okOr _ _) fun _ => .bind (.okOr _ _) fun _ => ?_
  refine .bind (.lift (decryptEnvelope_ne_panic P _ _ _ _ _)) fun plaintext => ?_
  refine copy_slice_safe (by decide) (by simp) rfl fun _ => ?_
  refine .bind (.modify fun _ _ => trivial) fun _ => ?_
  refine copy_slice_safe (by decide) (by simp) rfl fun _ => ?_
  refine .bind (.modify fun _ _ => trivial) fun _ => ?_
  refine copy_slice_safe (by decide) (by simp) rfl fun _ => ?_
  refine .bind (.modify fun _ _ => trivial) fun _ => ?_
  refine .bind (.onErr (.cmdLift (scalarmultBase_ne_panic P _)) fun _ _ => trivial) fun _ => ?_
  exact .abortIf _ fun _ _ => trivial

end Envelope

end AuraOpaque.Core
