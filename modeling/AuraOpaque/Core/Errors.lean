import AuraOpaque.Core.Oprf
import AuraOpaque.Core.PqKem
import AuraOpaque.Core.Envelope
import AuraOpaque.Core.Wire

/-!
# The errors that the primitives report

For every input.  A derivation knows two errors and a parser two others; what a
function reports is among some errors as soon as those of its parts are.
-/

/-! ## Steps of an operation -/

namespace AuraOpaque.Foundation.Cmd.Raises

open AuraOpaque.Core

variable {Out St α : Type} {errors : OpaqueError → Prop}

theorem getState : Raises errors (Op.getState : Op Out St St) := fun f => .ok f.state

theorem getOut : Raises errors (Op.getOut : Op Out St Out) := fun f => .ok f.out

theorem modifyState {g : St → St} : Raises errors (Op.modifyState g : Op Out St Unit) := .modify _

theorem modifyOut {g : Out → Out} : Raises errors (Op.modifyOut g : Op Out St Unit) := .modify _

theorem onWorld {c : Cmd OpaqueError World α} (h : Raises errors c) :
    Raises errors (Op.onWorld c : Op Out St α) :=
  .zoom h

end AuraOpaque.Foundation.Cmd.Raises

namespace AuraOpaque.Core

open AuraOpaque.Foundation

variable (P : Primitives) {errors : OpaqueError → Prop}

/-- An input that is not usable, or a value that came out unusable. -/
structure Derivation (errors : OpaqueError → Prop) : Prop where
  invalidInput : errors .invalidInput
  cryptoError : errors .cryptoError

/-- A message of the wrong length or of another version. -/
structure Parsing (errors : OpaqueError → Prop) : Prop where
  invalidProtocolMessage : errors .invalidProtocolMessage
  unsupportedVersion : errors .unsupportedVersion

theorem now_raises : World.now.Raises errors := fun _ => .ok _

theorem draw_raises (n : ℕ) : (World.draw n).Raises errors := fun _ => .ok _

/-! ## Points and scalars -/

theorem decodeNonIdentityPoint_raises (point : List UInt8) {e : OpaqueError} (h : errors e) :
    (decodeNonIdentityPoint P point e).Raises errors :=
  .bind (.failIf h) fun _ => .bind (.okOr h) fun _ => .bind (.okOr h) fun _ =>
    .bind (.failIf h) fun _ => .ok _

theorem scalarMult_raises (h : errors .cryptoError) (scalar : Bytes privateKeyLength)
    (point : Bytes publicKeyLength) : (scalarMult P scalar point).Raises errors :=
  .bind (.okOr h) fun _ => .bind (.failIf h) fun _ =>
    .bind (decodeNonIdentityPoint_raises P _ h) fun _ => .bind (.failIf h) fun _ => .ok _

theorem validateRistrettoPoint_raises (h : errors .invalidInput) (point : List UInt8) :
    (validateRistrettoPoint P point).Raises errors :=
  .bind (.failIf h) fun _ => .bind (decodeNonIdentityPoint_raises P _ h) fun _ => .ok _

theorem validatePublicKey_raises (h : errors .invalidPublicKey) (key : List UInt8) :
    (validatePublicKey P key).Raises errors :=
  .bind (.failIf h) fun _ => .bind (decodeNonIdentityPoint_raises P _ h) fun _ => .ok _

theorem scalarmultBase_raises (h : errors .cryptoError) (scalar : Bytes privateKeyLength) :
    (scalarmultBase P scalar).Raises errors :=
  .bind (.okOr h) fun _ => .bind (.failIf h) fun _ => .bind (.failIf h) fun _ => .ok _

theorem scalarInvert_raises (h : errors .cryptoError) (scalar : Bytes privateKeyLength) :
    (scalarInvert P scalar).Raises errors :=
  .bind (.okOr h) fun _ => .bind (.failIf h) fun _ => .ok _

theorem deriveKeyPair_raises (h : errors .invalidInput) (seed : List UInt8) :
    (deriveKeyPair P seed).Raises errors :=
  .bind (.failIf h) fun _ => .bind (.failIf h) fun _ => .ok _

theorem ctSelectBytes_raises {n : ℕ} (a b : List UInt8) (choice : Bool) :
    (ctSelectBytes n a b choice).Raises errors := by
  unfold ctSelectBytes
  split
  · exact .ok _
  · exact .panic

/-! ## Key derivation -/

theorem hmacSha512_raises (h : errors .invalidInput) (key message : List UInt8) :
    (hmacSha512 P key message).Raises errors :=
  .bind (.failIf h) fun _ => .ok _

theorem keyDerivationExtract_raises (h : errors .invalidInput) (salt ikm : List UInt8) :
    (keyDerivationExtract P salt ikm).Raises errors :=
  .bind (.failIf h) fun _ => hmacSha512_raises P h _ _

section Derivations

variable (h : Derivation errors)

include h

theorem expandBlock_raises (prk info : List UInt8) {n : ℕ} (i : ℕ) :
    (expandBlock P prk info i : Cmd OpaqueError (ExpandLocals n) Unit).Raises errors :=
  .bind .get fun _ => .bind (.okOr h.cryptoError) fun _ =>
    .bind (.cmdLift (slice_raises _ _ _)) fun _ =>
    .bind (.cmdLift (splice_raises _ _ _ _)) fun _ => .modify _

theorem keyDerivationExpand_raises (prk info : List UInt8) {n : ℕ} :
    (keyDerivationExpand P prk info : Cmd OpaqueError (Bytes n) Unit).Raises errors := by
  refine .bind (.failIf h.invalidInput) fun _ => .bind (.failIf h.invalidInput) fun _ => .zoom ?_
  induction List.range' 1 ((n + hashLength - 1) / hashLength) with
  | nil => exact .pure ()
  | cons i rest ih => exact .bind (expandBlock_raises P h prk info i) fun _ => ih

theorem expand_raises (prk info : List UInt8) (n : ℕ) : (expand P prk info n).Raises errors :=
  Cmd.Raises.fill (keyDerivationExpand_raises P h prk info) _

theorem deriveRandomizedPassword_raises (oprfOutput secureKey : List UInt8) (n : ℕ) :
    (deriveRandomizedPassword P oprfOutput secureKey n).Raises errors :=
  .bind (.failIf h.invalidInput) fun _ => .bind (slice_raises _ _ _) fun _ =>
    .bind (copyFromSlice_raises _ _) fun _ => .okOr h.cryptoError

theorem deriveClientExportKey_raises (randomizedPwd : List UInt8)
    (accountContextHash : Bytes hashLength) (n : ℕ) :
    (deriveClientExportKey P randomizedPwd accountContextHash n).Raises errors :=
  .bind (.failIf h.invalidInput) fun _ =>
    .bind (keyDerivationExtract_raises P h.invalidInput _ _) fun _ => expand_raises P h _ _ _

theorem deriveMaskingKey_raises (randomizedPwd : List UInt8) :
    (deriveMaskingKey P randomizedPwd).Raises errors :=
  .bind (.failIf h.invalidInput) fun _ =>
    .bind (keyDerivationExtract_raises P h.invalidInput _ _) fun _ => expand_raises P h _ _ _

theorem maskCredentialEnvelope_raises (maskingKey : Bytes maskingKeyLength)
    (responderNonce evaluatedElement : List UInt8) (accountContextHash : Bytes hashLength)
    (input : Bytes envelopeLength) :
    (maskCredentialEnvelope P maskingKey responderNonce evaluatedElement accountContextHash
      input).Raises errors :=
  .bind (.failIf h.invalidInput) fun _ =>
    .bind (keyDerivationExtract_raises P h.invalidInput _ _) fun _ =>
    .bind (expand_raises P h _ _ _) fun _ => .ok _

/-! ## Random values and the oblivious PRF -/

theorem randomBytes_raises (n : ℕ) : (randomBytes n).Raises errors :=
  .bind (.failIf h.invalidInput) fun _ => draw_raises n

theorem randomNonzeroScalarLoop_raises (attempts : ℕ) :
    (randomNonzeroScalarLoop P attempts).Raises errors := by
  induction attempts with
  | zero => exact .throw h.cryptoError
  | succ attempts ih =>
      refine .bind (randomBytes_raises h _) fun wide => ?_
      dsimp only
      split
      · exact .pure _
      · exact ih

theorem randomNonzeroScalar_raises : (randomNonzeroScalar P).Raises errors :=
  randomNonzeroScalarLoop_raises P h 256

theorem Oprf.blind_raises (input : List UInt8) : (Oprf.blind P input).Raises errors := by
  refine .bind (.failIf h.invalidInput) fun _ => ?_
  refine .bind (.zoom (randomNonzeroScalar_raises P h)) fun _ => .bind (.modify _) fun _ => ?_
  refine .bind (.lift (.bind (.failIf h.invalidInput) fun _ => .ok _)) fun _ => ?_
  exact .bind (.lift (scalarMult_raises P h.cryptoError _ _)) fun _ => .modify _

theorem Oprf.finalize_raises (input : List UInt8) (blindScalar : Bytes privateKeyLength)
    (evaluatedElement : Bytes publicKeyLength) :
    (Oprf.finalize P input blindScalar evaluatedElement).Raises errors :=
  .bind (.failIf h.invalidInput) fun _ => .bind (scalarInvert_raises P h.cryptoError _) fun _ =>
    .bind (scalarMult_raises P h.cryptoError _ _) fun _ => .ok _

/-! ## Evaluators -/

theorem deriveOprfKeyLoop_raises (oprfSeed : Bytes oprfSeedLength)
    (accountId counters : List UInt8) :
    (deriveOprfKeyLoop P oprfSeed accountId counters).Raises errors := by
  induction counters with
  | nil => exact .err h.cryptoError
  | cons counter counters ih =>
      unfold deriveOprfKeyLoop
      dsimp only
      split
      · exact .ok _
      · exact ih

theorem deriveOprfKey_raises (relaySecret accountId : List UInt8) :
    (deriveOprfKey P relaySecret accountId).Raises errors :=
  .bind (.failIf h.invalidInput) fun _ => .bind (hmacSha512_raises P h.invalidInput _ _) fun _ =>
    .bind (slice_raises _ _ _) fun _ => .bind (copyFromSlice_raises _ _) fun _ =>
    deriveOprfKeyLoop_raises P h _ _ _

/-- The errors with which an evaluator answers. -/
structure OprfEvaluator.Raises (errors : OpaqueError → Prop) (evaluator : OprfEvaluator) :
    Prop where
  evaluateOprf : ∀ blindedElement accountId,
    (evaluator.evaluateOprf blindedElement accountId).Raises errors
  deriveFakeMaterial : ∀ accountId, (evaluator.deriveFakeMaterial accountId).Raises errors

omit h in
theorem OprfEvaluator.Raises.mono {errors' : OpaqueError → Prop} {evaluator : OprfEvaluator}
    (hevaluator : evaluator.Raises errors) (hle : ∀ e, errors e → errors' e) :
    evaluator.Raises errors' where
  evaluateOprf blindedElement accountId :=
    (hevaluator.evaluateOprf blindedElement accountId).mono hle
  deriveFakeMaterial accountId := (hevaluator.deriveFakeMaterial accountId).mono hle

theorem InMemoryEvaluator.raises (self : InMemoryEvaluator) :
    (self.toOprfEvaluator P).Raises errors where
  evaluateOprf _ _ := .bind (deriveOprfKey_raises P h _ _) fun _ =>
    scalarMult_raises P h.cryptoError _ _
  deriveFakeMaterial _ := .ok _

/-! ## The KEM and the combiner -/

theorem PqKem.combineKeyMaterial_raises
    (classicalIkm pqSharedSecret transcriptHash : List UInt8) :
    (PqKem.combineKeyMaterial P classicalIkm pqSharedSecret transcriptHash).Raises errors := by
  refine .bind (.failIf h.invalidInput) fun _ => ?_
  have hfill {lo mid hi n : ℕ} {first second : List UInt8} : (Cmd.fill (zeros n) do
      spliceAt lo mid first
      spliceAt mid hi second).Raises errors :=
    Cmd.Raises.fill (.bind (spliceAt_raises _ _ _) fun _ => spliceAt_raises _ _ _) _
  refine .bind hfill fun _ => .bind hfill fun _ => ?_
  exact keyDerivationExtract_raises P h.invalidInput _ _

/-! ## The envelope -/

theorem encryptEnvelope_raises (key plaintext : List UInt8) (nonce : Bytes nonceLength)
    (ciphertext : List UInt8) :
    (encryptEnvelope P key plaintext nonce ciphertext).Raises errors := by
  refine .bind (.failIf h.invalidInput) fun _ => .bind (.failIf h.invalidInput) fun _ => ?_
  refine .bind (copyFromSlice_raises _ _) fun _ => .bind (.okOr h.cryptoError) fun _ => ?_
  refine .bind (.failIf h.cryptoError) fun _ => .bind (slice_raises _ _ _) fun _ => ?_
  refine .bind (copyFromSlice_raises _ _) fun _ => .bind (slice_raises _ _ _) fun _ => ?_
  exact .bind (splice_raises _ _ _ _) fun _ => .ok _

theorem decryptEnvelope_raises (hauth : errors .authenticationError)
    (key ciphertext : List UInt8) (nonce : Bytes nonceLength)
    (authTag : Bytes secretboxMacLength) {n : ℕ} (plaintext : Bytes n) :
    (decryptEnvelope P key ciphertext nonce authTag plaintext).Raises errors := by
  refine .bind (.failIf h.invalidInput) fun _ => .bind (.failIf h.invalidInput) fun _ => ?_
  refine .bind (copyFromSlice_raises _ _) fun _ => .bind (splice_raises _ _ _ _) fun _ => ?_
  refine .bind (splice_raises _ _ _ _) fun _ => .bind (.okOr hauth) fun _ => ?_
  exact .bind (.failIf h.cryptoError) fun _ => splice_raises _ _ _ _

namespace Envelope

theorem deriveEnvelopeKey_raises (responderPublicKey : Bytes publicKeyLength)
    (randomizedPwd : List UInt8) :
    (deriveEnvelopeKey P responderPublicKey randomizedPwd).Raises errors :=
  .bind (Cmd.Raises.fill (.bind (spliceAt_raises _ _ _) fun _ => spliceAt_raises _ _ _) _)
    fun _ => .bind (keyDerivationExtract_raises P h.invalidInput _ _) fun _ =>
      expand_raises P h _ _ _

omit h in
theorem sealedKeys_raises (rpk : Bytes publicKeyLength) (isk : Bytes privateKeyLength)
    (ipk : Bytes publicKeyLength) : (sealedKeys rpk isk ipk).Raises errors :=
  Cmd.Raises.fill (.bind (spliceAt_raises _ _ _) fun _ => .bind (spliceAt_raises _ _ _) fun _ =>
    spliceAt_raises _ _ _) _

theorem seal_raises (henvelope : errors .invalidEnvelope) (randomizedPwd : List UInt8)
    (rpk : Bytes publicKeyLength) (isk : Bytes privateKeyLength) (ipk : Bytes publicKeyLength) :
    («seal» P randomizedPwd rpk isk ipk).Raises errors := by
  refine .bind (.failIf h.invalidInput) fun _ => .bind .get fun _ => ?_
  refine .bind (.failIf henvelope) fun _ => .bind (.zoom (randomBytes_raises h _)) fun _ => ?_
  refine .bind (.modify _) fun _ => .bind (.lift (deriveEnvelopeKey_raises P h _ _)) fun _ => ?_
  refine .bind (.lift (sealedKeys_raises _ _ _)) fun _ => .bind (.modify _) fun _ => ?_
  refine .bind .get fun _ => .bind (.okOr henvelope) fun _ => .bind (.okOr henvelope) fun _ => ?_
  exact .bind (.lift (encryptEnvelope_raises P h _ _ _ _)) fun _ => .modify _

theorem openRaw_raises (henvelope : errors .invalidEnvelope) (hauth : errors .authenticationError)
    (nonce ciphertext authTag randomizedPwd : List UInt8)
    (knownResponderPublicKey : Bytes publicKeyLength) :
    (openRaw P nonce ciphertext authTag randomizedPwd knownResponderPublicKey).Raises errors := by
  have hcopy {k : Bytes publicKeyLength → Cmd OpaqueError Opened Unit} {part : List UInt8}
      (hk : ∀ b, (k b).Raises errors) :
      (Cmd.lift (copyFromSlice publicKeyLength part) >>= k).Raises errors :=
    .bind (.cmdLift (copyFromSlice_raises _ _)) hk
  refine .bind (.failIf h.invalidInput) fun _ => .bind (.failIf henvelope) fun _ => ?_
  refine .bind (.lift (deriveEnvelopeKey_raises P h _ _)) fun _ => ?_
  refine .bind (.okOr henvelope) fun _ => .bind (.okOr henvelope) fun _ => ?_
  refine .bind (.lift (decryptEnvelope_raises P h hauth _ _ _ _ _)) fun _ => ?_
  refine .bind (.cmdLift (slice_raises _ _ _)) fun _ => hcopy fun _ => ?_
  refine .bind (.modify _) fun _ => .bind (.cmdLift (slice_raises _ _ _)) fun _ => hcopy fun _ => ?_
  refine .bind (.modify _) fun _ => .bind (.cmdLift (slice_raises _ _ _)) fun _ => hcopy fun _ => ?_
  refine .bind (.modify _) fun _ => ?_
  refine .bind (.onErr (.cmdLift (scalarmultBase_raises P h.cryptoError _))) fun _ => ?_
  exact .abortIf hauth

end Envelope

end Derivations

theorem PqKem.keypairGenerate_raises : (PqKem.keypairGenerate P).Raises errors :=
  .bind (draw_raises _) fun _ => .pure _

theorem PqKem.encapsulate_raises (h : errors .invalidKemInput) (publicKey : List UInt8) :
    (PqKem.encapsulate P publicKey).Raises errors :=
  .bind (.failIf h) fun _ => .bind (.okOr h) fun _ => .bind (.okOr h) fun _ =>
    .bind (.failIf h) fun _ => .bind (draw_raises _) fun _ => .pure _

theorem PqKem.decapsulate_raises (h : errors .invalidKemInput) (secretKey ciphertext : List UInt8) :
    (PqKem.decapsulate P secretKey ciphertext).Raises errors := by
  intro e herr
  rw [PqKem.decapsulate_err P herr]
  exact h

/-! ## Messages -/

namespace Protocol.WireExact

variable {α β : Type} {total : ℕ} {write : β → (n : ℕ) → Cmd OpaqueError (Bytes n) Unit}
  {parse : List UInt8 → OpaqueResult α} {written : β → List (List UInt8)} {lengths : List ℕ}
  {slices : α → List (List UInt8)} {view : β → α} {args : α → β}
  (hexact : WireExact total write parse written lengths slices view args)

include hexact

/-- A message of the right length is refused for its version only. -/
theorem parse_raises_of_length (h : errors .unsupportedVersion) {data : List UInt8}
    (hlength : data.length = total) : (parse data).Raises errors := by
  by_cases hversion : data.head? = some protocolVersion
  · obtain ⟨r, hparse⟩ := (hexact.parse_ok_iff data).mpr ⟨hlength, hversion⟩
    rw [hparse]
    exact .ok r
  · rw [hexact.parse_err.wrongVersion data hlength hversion]
    exact .err h

theorem parse_raises (h : Parsing errors) (data : List UInt8) : (parse data).Raises errors := by
  by_cases hlength : data.length = total
  · exact hexact.parse_raises_of_length h.unsupportedVersion hlength
  · rw [hexact.parse_err.wrongLength data hlength]
    exact .err h.invalidProtocolMessage

theorem write_raises (h : errors .invalidProtocolMessage) (b : β) (n : ℕ) :
    (write b n).Raises errors := by
  intro buffer
  by_cases hok : ((write b n).run buffer).1 = .ok ()
  · rw [hok]
    exact .ok ()
  · rw [hexact.write_err b n buffer hok]
    exact .err h

end Protocol.WireExact

end AuraOpaque.Core
