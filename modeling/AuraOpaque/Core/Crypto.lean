import AuraOpaque.Core.Primitives
import AuraOpaque.Core.Environment
import AuraOpaque.Foundation.Hkdf
import Mathlib.Algebra.Module.Torsion.Field

/-!
# Scalars, points, hashes and the envelope cipher

An output array that the source writes only when it succeeds is the returned
value here; `keyDerivationExpand`, which writes while it runs, is a command on
its output buffer.
-/

namespace AuraOpaque.Core

open AuraOpaque.Foundation
open Outcome (failIf okOr)

variable (P : Primitives)

/-! ## Group operations -/

def decodeNonIdentityPoint (point : List UInt8) (error : OpaqueError) :
    OpaqueResult P.group.Point := do
  failIf (isAllZero point) error
  let compressed ← okOr (tryInto publicKeyLength point) error
  let decoded ← okOr (P.group.decompress compressed) error
  failIf (decoded = 0) error
  pure decoded

def scalarMult (scalarBytes : Bytes privateKeyLength) (pointBytes : Bytes publicKeyLength) :
    OpaqueResult (Bytes publicKeyLength) := do
  let scalar ← okOr (P.group.fromCanonicalBytes scalarBytes) .cryptoError
  failIf (isAllZero (P.group.asBytes scalar).toList) .cryptoError
  let point ← decodeNonIdentityPoint P pointBytes.toList .cryptoError
  let product := scalar • point
  failIf (product = 0) .cryptoError
  pure (P.group.compress product)

def validateRistrettoPoint (point : List UInt8) : OpaqueResult Unit := do
  failIf (point.length ≠ publicKeyLength) .invalidInput
  let _ ← decodeNonIdentityPoint P point .invalidInput
  pure ()

def validatePublicKey (key : List UInt8) : OpaqueResult Unit := do
  failIf (key.length ≠ publicKeyLength) .invalidPublicKey
  let _ ← decodeNonIdentityPoint P key .invalidPublicKey
  pure ()

def scalarmultBase (scalar : Bytes privateKeyLength) : OpaqueResult (Bytes publicKeyLength) := do
  let s ← okOr (P.group.fromCanonicalBytes scalar) .cryptoError
  failIf (s = 0) .cryptoError
  let point := s • P.group.basepoint
  failIf (point = 0) .cryptoError
  pure (P.group.compress point)

def scalarInvert (scalar : Bytes privateKeyLength) : OpaqueResult (Bytes privateKeyLength) := do
  let s ← okOr (P.group.fromCanonicalBytes scalar) .cryptoError
  let inv := s⁻¹
  failIf (inv = 0) .cryptoError
  pure (P.group.asBytes inv)

@[simp] theorem decodeNonIdentityPoint_compress {p : P.group.Point} (hp : p ≠ 0)
    (e : OpaqueError) : decodeNonIdentityPoint P (P.group.compress p).toList e = .ok p := by
  have hzero : isAllZero (P.group.compress p).toList = false := by
    simpa [← Bool.not_eq_true] using hp
  simp [decodeNonIdentityPoint, hzero, Outcome.failIf_neg, P.group.decompress_compress, hp]

theorem decodeNonIdentityPoint_cases (point : List UInt8) (e : OpaqueError) :
    (∃ p, p ≠ 0 ∧ point = (P.group.compress p).toList ∧
      decodeNonIdentityPoint P point e = .ok p) ∨
    ((∀ p, p ≠ 0 → point ≠ (P.group.compress p).toList) ∧
      decodeNonIdentityPoint P point e = .err e) := by
  by_cases h : ∃ p, p ≠ 0 ∧ point = (P.group.compress p).toList
  · obtain ⟨p, hp, rfl⟩ := h
    exact .inl ⟨p, hp, rfl, decodeNonIdentityPoint_compress P hp e⟩
  · have hnone : ∀ p, p ≠ 0 → point ≠ (P.group.compress p).toList :=
      fun p hp heq => h ⟨p, hp, heq⟩
    refine .inr ⟨hnone, ?_⟩
    unfold decodeNonIdentityPoint
    by_cases hzero : isAllZero point = true
    · simp [Outcome.failIf_pos, hzero]
    rw [Outcome.failIf_neg e hzero, Outcome.ok_bind]
    cases hbytes : tryInto publicKeyLength point with
    | none => rfl
    | some b =>
        rw [Outcome.okOr_some, Outcome.ok_bind]
        cases hpoint : P.group.decompress b with
        | none => rfl
        | some p =>
            have hp : p = 0 := by
              by_contra hp
              apply hnone p hp
              rw [P.group.compress_of_decompress b p hpoint, tryInto_eq_some_iff.mp hbytes]
            simp [Outcome.failIf_pos, hp]

@[simp] theorem scalarMult_encoded {s : P.group.Scalar} {p : P.group.Point} (hs : s ≠ 0)
    (hp : p ≠ 0) :
    scalarMult P (P.group.asBytes s) (P.group.compress p) = .ok (P.group.compress (s • p)) := by
  simp [scalarMult, P.group.fromCanonicalBytes_asBytes, Outcome.failIf_neg, hp,
    smul_eq_zero, hs]

theorem scalarMult_cases (scalar : Bytes privateKeyLength) (point : Bytes publicKeyLength) :
    (∃ s p, s ≠ 0 ∧ p ≠ 0 ∧ scalar = P.group.asBytes s ∧ point = P.group.compress p ∧
      scalarMult P scalar point = .ok (P.group.compress (s • p))) ∨
    ((∀ s p, s ≠ 0 → p ≠ 0 → scalar = P.group.asBytes s → point ≠ P.group.compress p) ∧
      scalarMult P scalar point = .err .cryptoError) := by
  by_cases h : ∃ s p, s ≠ 0 ∧ p ≠ 0 ∧ scalar = P.group.asBytes s ∧ point = P.group.compress p
  · obtain ⟨s, p, hs, hp, rfl, rfl⟩ := h
    exact .inl ⟨s, p, hs, hp, rfl, rfl, scalarMult_encoded P hs hp⟩
  · have hnone : ∀ s p, s ≠ 0 → p ≠ 0 → scalar = P.group.asBytes s →
        point ≠ P.group.compress p :=
      fun s p hs hp hscalar hpoint => h ⟨s, p, hs, hp, hscalar, hpoint⟩
    refine .inr ⟨hnone, ?_⟩
    unfold scalarMult
    cases hscalar : P.group.fromCanonicalBytes scalar with
    | none => rfl
    | some s =>
        rw [Outcome.okOr_some, Outcome.ok_bind]
        by_cases hs : s = 0
        · simp [Outcome.failIf_pos, hs]
        rw [Outcome.failIf_neg _ (by simpa using hs), Outcome.ok_bind]
        rcases decodeNonIdentityPoint_cases P point.toList .cryptoError with
          ⟨p, hp, heq, -⟩ | ⟨-, herr⟩
        · exact absurd (List.Vector.toList_injective heq)
            (hnone s p hs hp (P.group.asBytes_of_fromCanonicalBytes _ _ hscalar).symm)
        · rw [herr, Outcome.err_bind]

theorem scalarMult_eq_ok_iff {scalar : Bytes privateKeyLength} {point r : Bytes publicKeyLength} :
    scalarMult P scalar point = .ok r ↔
      ∃ s p, s ≠ 0 ∧ p ≠ 0 ∧ scalar = P.group.asBytes s ∧ point = P.group.compress p ∧
        r = P.group.compress (s • p) := by
  constructor
  · intro h
    rcases scalarMult_cases P scalar point with ⟨s, p, hs, hp, hscalar, hpoint, hok⟩ | ⟨-, herr⟩
    · rw [h] at hok
      exact ⟨s, p, hs, hp, hscalar, hpoint, by simpa using hok⟩
    · rw [h] at herr
      cases herr
  · rintro ⟨s, p, hs, hp, rfl, rfl, rfl⟩
    exact scalarMult_encoded P hs hp

theorem validatePublicKey_eq_ok_iff {key : List UInt8} {u : Unit} :
    validatePublicKey P key = .ok u ↔ ∃ p, p ≠ 0 ∧ key = (P.group.compress p).toList := by
  constructor
  · intro h
    obtain ⟨-, -, h⟩ := Outcome.bind_eq_ok_iff.mp h
    obtain ⟨p, hp, -⟩ := Outcome.bind_eq_ok_iff.mp h
    rcases decodeNonIdentityPoint_cases P key .invalidPublicKey with ⟨q, hq, hkey, -⟩ | ⟨-, herr⟩
    · exact ⟨q, hq, hkey⟩
    · rw [hp] at herr
      cases herr
  · rintro ⟨p, hp, rfl⟩
    simp [validatePublicKey, Outcome.failIf_neg, hp]

theorem validatePublicKey_cases (key : List UInt8) :
    validatePublicKey P key = .ok () ∨ validatePublicKey P key = .err .invalidPublicKey := by
  unfold validatePublicKey
  by_cases hlen : key.length ≠ publicKeyLength
  · simp [Outcome.failIf_pos, hlen]
  rw [Outcome.failIf_neg _ hlen, Outcome.ok_bind]
  rcases decodeNonIdentityPoint_cases P key .invalidPublicKey with ⟨p, -, -, hok⟩ | ⟨-, herr⟩
  · simp [hok]
  · simp [herr]

theorem validateRistrettoPoint_eq_ok_iff {point : List UInt8} {u : Unit} :
    validateRistrettoPoint P point = .ok u ↔
      ∃ p, p ≠ 0 ∧ point = (P.group.compress p).toList := by
  constructor
  · intro h
    obtain ⟨-, -, h⟩ := Outcome.bind_eq_ok_iff.mp h
    obtain ⟨p, hp, -⟩ := Outcome.bind_eq_ok_iff.mp h
    rcases decodeNonIdentityPoint_cases P point .invalidInput with ⟨q, hq, hpoint, -⟩ | ⟨-, herr⟩
    · exact ⟨q, hq, hpoint⟩
    · rw [hp] at herr
      cases herr
  · rintro ⟨p, hp, rfl⟩
    simp [validateRistrettoPoint, Outcome.failIf_neg, hp]

@[simp] theorem scalarmultBase_asBytes {s : P.group.Scalar} (hs : s ≠ 0) :
    scalarmultBase P (P.group.asBytes s) = .ok (P.group.compress (s • P.group.basepoint)) := by
  simp [scalarmultBase, P.group.fromCanonicalBytes_asBytes, hs, Outcome.failIf_neg,
    smul_eq_zero, P.group.basepoint_ne_zero]

theorem scalarmultBase_cases (scalar : Bytes privateKeyLength) :
    (∃ s, s ≠ 0 ∧ scalar = P.group.asBytes s ∧
      scalarmultBase P scalar = .ok (P.group.compress (s • P.group.basepoint))) ∨
    (∀ s, s ≠ 0 → scalar ≠ P.group.asBytes s) ∧ scalarmultBase P scalar = .err .cryptoError := by
  cases hcanonical : P.group.fromCanonicalBytes scalar with
  | none =>
      refine .inr ⟨?_, by rw [scalarmultBase, hcanonical]; rfl⟩
      rintro s - rfl
      rw [P.group.fromCanonicalBytes_asBytes] at hcanonical
      cases hcanonical
  | some s =>
      obtain rfl := P.group.asBytes_of_fromCanonicalBytes _ _ hcanonical
      by_cases hs : s = 0
      · refine .inr ⟨fun t ht h => ht ?_, ?_⟩
        · rw [← P.group.asBytes_injective h, hs]
        · rw [scalarmultBase, hcanonical, Outcome.okOr_some, Outcome.ok_bind,
            Outcome.failIf_pos _ hs]
          rfl
      · exact .inl ⟨s, hs, rfl, scalarmultBase_asBytes P hs⟩

@[simp] theorem scalarInvert_asBytes {s : P.group.Scalar} (hs : s ≠ 0) :
    scalarInvert P (P.group.asBytes s) = .ok (P.group.asBytes s⁻¹) := by
  simp [scalarInvert, P.group.fromCanonicalBytes_asBytes, hs, Outcome.failIf_neg]

/-! ## Hashes and key derivation -/

def sha512Multi (parts : List (List UInt8)) : Bytes hashLength := P.sha512 parts.flatten

def deriveKeyPair (seed : List UInt8) :
    OpaqueResult (Bytes privateKeyLength × Bytes publicKeyLength) := do
  failIf seed.isEmpty .invalidInput
  let hash := sha512Multi P [Labels.deriveKeypairContext, seed]
  let scalar := P.group.fromBytesModOrderWide hash
  let privateKey := P.group.asBytes scalar
  failIf (isAllZero privateKey.toList) .invalidInput
  pure (privateKey, P.group.compress (scalar • P.group.basepoint))

def hmacSha512 (key message : List UInt8) : OpaqueResult (Bytes macLength) := do
  failIf (key.isEmpty || message.isEmpty) .invalidInput
  pure (P.hmac key message)

def keyDerivationExtract (salt ikm : List UInt8) : OpaqueResult (Bytes hashLength) := do
  failIf (salt.isEmpty || ikm.isEmpty) .invalidInput
  hmacSha512 P salt ikm

structure ExpandLocals (n : ℕ) where
  tPrev : Bytes hashLength
  tCurrent : Bytes hashLength
  okm : Bytes n

/-- Iteration `i` of `for i in 1..=n`. -/
def expandBlock (prk info : List UInt8) {n : ℕ} (i : ℕ) :
    Cmd OpaqueError (ExpandLocals n) Unit := do
  let locals ← Cmd.get
  let counter ← Cmd.okOr (if i < 256 then some (UInt8.ofNat i) else none) .cryptoError
  let message := (if 1 < i then locals.tPrev.toList else []) ++ info ++ [counter]
  let tCurrent := P.hmac prk message
  let copyLen := min hashLength (n - (i - 1) * hashLength)
  let part ← Cmd.lift (slice tCurrent.toList 0 copyLen)
  let okm ← Cmd.lift
    (splice locals.okm ((i - 1) * hashLength) ((i - 1) * hashLength + copyLen) part)
  Cmd.modify fun l => { tPrev := tCurrent, tCurrent := l.tPrev, okm := okm }

def keyDerivationExpand (prk info : List UInt8) {n : ℕ} : Cmd OpaqueError (Bytes n) Unit := do
  Cmd.failIf (prk.isEmpty || n == 0) .invalidInput
  let blocks := (n + hashLength - 1) / hashLength
  Cmd.failIf (255 < blocks) .invalidInput
  Cmd.zoom (fun okm => ExpandLocals.mk (zeros hashLength) (zeros hashLength) okm)
    (fun locals _ => locals.okm) ((List.range' 1 blocks).forM (expandBlock P prk info))

/-- What the expansion loop has written after its first `k` iterations. -/
structure ExpandInvariant (prk info : List UInt8) {n : ℕ} (okm : Bytes n) (k : ℕ)
    (locals : ExpandLocals n) : Prop where
  tPrev : 0 < k → locals.tPrev.toList = Hkdf.block (P.hmac prk) info k
  okm : locals.okm.toList =
    (Hkdf.stream (P.hmac prk) info k).take n ++ okm.toList.drop (k * hashLength)

theorem expandBlock_run {prk info : List UInt8} {n k : ℕ} {okm : Bytes n}
    {locals : ExpandLocals n} (hinv : ExpandInvariant P prk info okm k locals)
    (hk : k < 255) (hn : k * hashLength < n) :
    ∃ locals', (expandBlock P prk info (k + 1)).run locals = (.ok (), locals') ∧
      ExpandInvariant P prk info okm (k + 1) locals' := by
  simp only [hashLength] at hn
  obtain ⟨T, hT⟩ : ∃ T, T =
    P.hmac prk (Hkdf.block (P.hmac prk) info k ++ info ++ [UInt8.ofNat (k + 1)]) := ⟨_, rfl⟩
  obtain ⟨copyLen, hcopy⟩ : ∃ m, m = min 64 (n - k * 64) := ⟨_, rfl⟩
  have hmessage : (if 1 < k + 1 then locals.tPrev.toList else []) =
      Hkdf.block (P.hmac prk) info k := by
    rcases Nat.eq_zero_or_pos k with rfl | hpos
    · rfl
    · rw [if_pos (by omega), hinv.tPrev hpos]
  have hpart : (slice T.toList 0 copyLen : OpaqueResult _) = .ok (T.toList.take copyLen) := by
    rw [slice_eq_ok (by omega) (by simp [hcopy])]
    simp
  have hwritten : locals.okm.toList =
      Hkdf.stream (P.hmac prk) info k ++ okm.toList.drop (k * 64) := by
    rw [hinv.okm, List.take_of_length_le (by simp; omega)]
  have hsource : (T.toList.take copyLen).length = copyLen := by simp [hcopy]
  obtain ⟨okm', hsplice, hokm'⟩ := @splice_toList OpaqueError UInt8 n locals.okm _ _ _
    (k * 64) (k * 64 + copyLen) hwritten (by simp) (by rw [hsource]) (by simp; omega)
  refine ⟨⟨T, locals.tPrev, okm'⟩, ?_, ?_, ?_⟩
  · simp only [expandBlock, Cmd.run_bind, Cmd.run_get, Cmd.run_okOr, Cmd.run_lift, hmessage,
      Nat.add_sub_cancel, if_pos (show k + 1 < 256 by omega), Outcome.okOr_some, ← hT,
      ← hcopy, hpart, hsplice, Cmd.run_modify]
  · intro _
    rw [Hkdf.block, ← hT]
  · have hstream : (Hkdf.stream (P.hmac prk) info k).take n =
        Hkdf.stream (P.hmac prk) info k := List.take_of_length_le (by simp; omega)
    have hlast : T.toList.take (n - k * 64) = T.toList.take copyLen := by
      rcases Nat.le_total (n - k * 64) 64 with hshort | hlong
      · rw [hcopy, Nat.min_eq_right hshort]
      · rw [hcopy, Nat.min_eq_left hlong, List.take_of_length_le (by simpa using hlong),
          List.take_of_length_le (by simp)]
    have hrest : okm.toList.drop (k * 64 + copyLen) = okm.toList.drop ((k + 1) * 64) := by
      rcases Nat.le_total (n - k * 64) 64 with hshort | hlong
      · rw [List.drop_of_length_le (by simp; omega), List.drop_of_length_le (by simp; omega)]
      · rw [show k * 64 + copyLen = (k + 1) * 64 by omega]
    rw [hokm', hsource, List.drop_drop, hrest, Hkdf.stream, Hkdf.block, ← hT, List.take_append,
      hstream, Hkdf.stream_length, hlast]

/-- The loop over the blocks `k + 1, …, k + m` extends the output by these blocks. -/
theorem expandLoop_run {prk info : List UInt8} {n : ℕ} {okm : Bytes n} (m k : ℕ)
    {locals : ExpandLocals n} (hinv : ExpandInvariant P prk info okm k locals)
    (hblocks : k + m ≤ 255) (hn : m = 0 ∨ (k + m - 1) * hashLength < n) :
    ∃ locals', ((List.range' (k + 1) m).forM (expandBlock P prk info)).run locals =
        (.ok (), locals') ∧ ExpandInvariant P prk info okm (k + m) locals' := by
  simp only [hashLength] at hn
  induction m generalizing k locals with
  | zero => exact ⟨locals, rfl, hinv⟩
  | succ m ih =>
      obtain ⟨mid, hstep, hmid⟩ := expandBlock_run P hinv (by omega)
        (by simp only [hashLength]; omega)
      obtain ⟨locals', hrest, hlocals'⟩ := ih (k + 1) hmid (by omega) (by omega)
      refine ⟨locals', ?_, by rwa [show k + (m + 1) = k + 1 + m by omega]⟩
      rw [List.range'_succ]
      change (expandBlock P prk info (k + 1) >>= fun _ => _).run locals = _
      rw [Cmd.run_bind_ok hstep]
      exact hrest

theorem keyDerivationExpand_run {prk info : List UInt8} {n : ℕ} (okm : Bytes n)
    (hprk : prk ≠ []) (hpos : 0 < n) (hmax : n ≤ 255 * 64) :
    ∃ okm', (keyDerivationExpand P prk info).run okm = (.ok (), okm') ∧
      okm'.toList = Hkdf.output (P.hmac prk) info n := by
  have hblocks : (n + 64 - 1) / 64 ≤ 255 := by omega
  have hstart : ExpandInvariant P prk info okm 0 ⟨zeros hashLength, zeros hashLength, okm⟩ :=
    ⟨by simp, by simp [Hkdf.stream]⟩
  obtain ⟨locals, hrun, hinv⟩ := expandLoop_run P ((n + 64 - 1) / 64) 0 hstart (by omega)
    (by simp only [hashLength]; omega)
  refine ⟨locals.okm, ?_, ?_⟩
  · have hguard : ¬ (prk.isEmpty || n == 0) := by simp [hprk]; omega
    rw [keyDerivationExpand, Cmd.run_bind_ok (by rw [Cmd.run_failIf, Outcome.failIf_neg _ hguard])]
    rw [Cmd.run_bind_ok (by
      rw [Cmd.run_failIf, Outcome.failIf_neg _ (by simp only [hashLength]; omega)])]
    rw [Cmd.run_zoom]
    simp only [hashLength, Nat.zero_add] at hrun ⊢
    rw [hrun]
  · rw [hinv.okm, Nat.zero_add, List.drop_of_length_le (by simp; omega), List.append_nil]
    rfl

def expand (prk info : List UInt8) (n : ℕ) : OpaqueResult (Bytes n) :=
  Cmd.fill (zeros n) (keyDerivationExpand P prk info)

def hkdfExpand (prk : Bytes hashLength) (info : List UInt8) (n : ℕ) : Bytes n :=
  ⟨Hkdf.output (P.hmac prk.toList) info n, Hkdf.output_length _ _ (by decide) n⟩

theorem expand_eq (prk : Bytes hashLength) (info : List UInt8) {n : ℕ} (hpos : 0 < n)
    (hmax : n ≤ 255 * 64) : expand P prk.toList info n = .ok (hkdfExpand P prk info n) := by
  have hprk : prk.toList ≠ [] :=
    List.isEmpty_eq_false_iff.mp (isEmpty_toList (by decide) prk)
  obtain ⟨okm, hrun, hokm⟩ := @keyDerivationExpand_run P _ info _ (zeros n) hprk hpos hmax
  rw [expand, Cmd.fill_eq_ok_iff, hrun]
  congr 1
  exact List.Vector.toList_injective hokm

theorem hkdfExpand_block (prk : Bytes hashLength) (info : List UInt8) :
    hkdfExpand P prk info hashLength = P.hmac prk.toList (info ++ [1]) :=
  List.Vector.toList_injective (Hkdf.output_block _ _ (by decide))

theorem keyDerivationExtract_eq {salt ikm : List UInt8} (hsalt : salt.isEmpty = false)
    (hikm : ikm.isEmpty = false) : keyDerivationExtract P salt ikm = .ok (P.hmac salt ikm) := by
  simp [keyDerivationExtract, hmacSha512, Outcome.failIf_neg, hsalt, hikm]

/-- The counter loop: the first candidate that is not zero. -/
def deriveOprfKeyLoop (oprfSeed : Bytes oprfSeedLength) (accountId : List UInt8) :
    List UInt8 → OpaqueResult (Bytes privateKeyLength)
  | [] => .err .cryptoError
  | counter :: counters =>
      let macOut := P.hmac oprfSeed.toList (Labels.oprfKeyInfo ++ accountId ++ [counter])
      let oprfKey := P.group.asBytes (P.group.fromBytesModOrderWide macOut)
      if !isAllZero oprfKey.toList then .ok oprfKey
      else deriveOprfKeyLoop oprfSeed accountId counters

def deriveOprfKey (relaySecret accountId : List UInt8) :
    OpaqueResult (Bytes privateKeyLength) := do
  failIf (relaySecret.isEmpty || accountId.isEmpty) .invalidInput
  let oprfSeedFull ← hmacSha512 P relaySecret Labels.oprfSeedInfo
  let part ← slice oprfSeedFull.toList 0 oprfSeedLength
  let oprfSeed ← copyFromSlice oprfSeedLength part
  deriveOprfKeyLoop P oprfSeed accountId ((List.range 256).map UInt8.ofNat)

def deriveRandomizedPassword (oprfOutput secureKey : List UInt8) (n : ℕ) :
    OpaqueResult (Bytes n) := do
  failIf (oprfOutput.isEmpty || secureKey.isEmpty || n == 0) .invalidInput
  let rwdInput := sha512Multi P [Labels.ksfContext, oprfOutput, secureKey]
  let saltFull := sha512Multi P [Labels.ksfSaltLabel, oprfOutput]
  let part ← slice saltFull.toList 0 argon2SaltBytes
  let salt ← copyFromSlice argon2SaltBytes part
  okOr
    (P.argon2id ⟨ksfMemlimitKib, ksfOpslimit, 1⟩ rwdInput.toList salt.toList n) .cryptoError

def deriveClientExportKey (randomizedPwd : List UInt8) (accountContextHash : Bytes hashLength)
    (n : ℕ) : OpaqueResult (Bytes n) := do
  failIf
    (randomizedPwd.isEmpty || isAllZero accountContextHash.toList || n == 0) .invalidInput
  let prk ← keyDerivationExtract P accountContextHash.toList randomizedPwd
  expand P prk.toList Labels.clientExportKeyInfo n

def deriveMaskingKey (randomizedPwd : List UInt8) : OpaqueResult (Bytes maskingKeyLength) := do
  failIf randomizedPwd.isEmpty .invalidInput
  let prk ← keyDerivationExtract P Labels.maskingKeyInfo randomizedPwd
  expand P prk.toList Labels.maskingKeyInfo maskingKeyLength

def maskCredentialEnvelope (maskingKey : Bytes maskingKeyLength)
    (responderNonce evaluatedElement : List UInt8) (accountContextHash : Bytes hashLength)
    (input : Bytes envelopeLength) : OpaqueResult (Bytes envelopeLength) := do
  failIf
    (isAllZero maskingKey.toList || responderNonce.length != nonceLength ||
      evaluatedElement.length != publicKeyLength || isAllZero accountContextHash.toList)
    .invalidInput
  let prk ← keyDerivationExtract P accountContextHash.toList maskingKey.toList
  let info := Labels.credentialMaskingInfo ++ responderNonce ++ evaluatedElement
  let pad ← expand P prk.toList info envelopeLength
  pure (xorBytes input pad)

theorem deriveRandomizedPassword_ok (hP : P.Correct) {oprfOutput secureKey : List UInt8}
    (houtput : oprfOutput.isEmpty = false) (hkey : secureKey.isEmpty = false) :
    ∃ randomizedPwd,
      deriveRandomizedPassword P oprfOutput secureKey hashLength = .ok randomizedPwd := by
  obtain ⟨randomizedPwd, hargon⟩ := Option.isSome_iff_exists.mp (hP.argon2id_total
    (sha512Multi P [Labels.ksfContext, oprfOutput, secureKey]).toList
    ((sha512Multi P [Labels.ksfSaltLabel, oprfOutput]).toList.take argon2SaltBytes)
    (by simp) (by simp))
  have hslice : (slice (sha512Multi P [Labels.ksfSaltLabel, oprfOutput]).toList 0
      argon2SaltBytes : OpaqueResult _) =
        .ok ((sha512Multi P [Labels.ksfSaltLabel, oprfOutput]).toList.take argon2SaltBytes) :=
    slice_eq_ok (Nat.zero_le _) (by simp)
  refine ⟨randomizedPwd, ?_⟩
  rw [deriveRandomizedPassword, Outcome.failIf_neg _ (by simp [houtput, hkey]), Outcome.ok_bind]
  simp only [hslice, Outcome.ok_bind]
  rw [copyFromSlice_eq_ok (by simp), Outcome.ok_bind, toList_ofList, hargon, Outcome.okOr_some]

theorem deriveRandomizedPassword_err {oprfOutput secureKey : List UInt8} {n : ℕ} {e : OpaqueError}
    (h : deriveRandomizedPassword P oprfOutput secureKey n = .err e) :
    e = .invalidInput ∨ e = .cryptoError := by
  rw [deriveRandomizedPassword] at h
  rcases Outcome.bind_eq_err_iff.mp h with hinput | ⟨_, -, h⟩
  · exact .inl (Outcome.failIf_eq_err_iff.mp hinput).2
  · dsimp only at h
    rw [slice_eq_ok (Nat.zero_le _) (by simp), Outcome.ok_bind, copyFromSlice_eq_ok (by simp),
      Outcome.ok_bind] at h
    exact .inr (Outcome.okOr_eq_err_iff.mp h).2

theorem deriveMaskingKey_eq {randomizedPwd : List UInt8} (h : randomizedPwd.isEmpty = false) :
    deriveMaskingKey P randomizedPwd =
      .ok (hkdfExpand P (P.hmac Labels.maskingKeyInfo randomizedPwd) Labels.maskingKeyInfo
        maskingKeyLength) := by
  rw [deriveMaskingKey, Outcome.failIf_neg _ (by simp [h]), Outcome.ok_bind,
    keyDerivationExtract_eq P (by decide) h, Outcome.ok_bind,
    expand_eq P _ _ (by decide) (by decide)]

def maskingKeyOf (randomizedPwd : Bytes hashLength) : Bytes maskingKeyLength :=
  hkdfExpand P (P.hmac Labels.maskingKeyInfo randomizedPwd.toList) Labels.maskingKeyInfo
    maskingKeyLength

theorem deriveMaskingKey_of (randomizedPwd : Bytes hashLength) :
    deriveMaskingKey P randomizedPwd.toList = .ok (maskingKeyOf P randomizedPwd) :=
  deriveMaskingKey_eq P (isEmpty_toList (by decide) randomizedPwd)

theorem deriveClientExportKey_eq {randomizedPwd : List UInt8}
    {accountContextHash : Bytes hashLength}
    {n : ℕ} (h : randomizedPwd.isEmpty = false)
    (hhash : isAllZero accountContextHash.toList = false) (hpos : 0 < n) (hmax : n ≤ 255 * 64) :
    deriveClientExportKey P randomizedPwd accountContextHash n =
      .ok (hkdfExpand P (P.hmac accountContextHash.toList randomizedPwd)
        Labels.clientExportKeyInfo n) := by
  rw [deriveClientExportKey, Outcome.failIf_neg _ (by simp [h, hhash]; omega), Outcome.ok_bind,
    keyDerivationExtract_eq P (isEmpty_toList (by decide) _) h, Outcome.ok_bind,
    expand_eq P _ _ hpos hmax]

/-- The pad that hides the envelope in one response. -/
def credentialPad (maskingKey : Bytes maskingKeyLength)
    (responderNonce evaluatedElement : List UInt8) (accountContextHash : Bytes hashLength) :
    Bytes envelopeLength :=
  hkdfExpand P (P.hmac accountContextHash.toList maskingKey.toList)
    (Labels.credentialMaskingInfo ++ responderNonce ++ evaluatedElement) envelopeLength

theorem maskCredentialEnvelope_eq {maskingKey : Bytes maskingKeyLength}
    {responderNonce evaluatedElement : List UInt8} {accountContextHash : Bytes hashLength}
    (input : Bytes envelopeLength) (hkey : isAllZero maskingKey.toList = false)
    (hnonce : responderNonce.length = nonceLength)
    (helement : evaluatedElement.length = publicKeyLength)
    (hhash : isAllZero accountContextHash.toList = false) :
    maskCredentialEnvelope P maskingKey responderNonce evaluatedElement accountContextHash input =
      .ok (xorBytes input
        (credentialPad P maskingKey responderNonce evaluatedElement accountContextHash)) := by
  rw [maskCredentialEnvelope, Outcome.failIf_neg _ (by simp [hkey, hnonce, helement, hhash]),
    Outcome.ok_bind,
    keyDerivationExtract_eq P (isEmpty_toList (by decide) _) (isEmpty_toList (by decide) _),
    Outcome.ok_bind]
  simp only [expand_eq P _ _ (show 0 < envelopeLength by decide) (by decide), Outcome.ok_bind]
  rfl

/-- Masking fails exactly on a zero key, a zero account hash or a wrong length. -/
theorem maskCredentialEnvelope_cases (maskingKey : Bytes maskingKeyLength)
    (responderNonce evaluatedElement : List UInt8) (accountContextHash : Bytes hashLength)
    (input : Bytes envelopeLength) :
    (isAllZero maskingKey.toList = false ∧ responderNonce.length = nonceLength ∧
      evaluatedElement.length = publicKeyLength ∧
      isAllZero accountContextHash.toList = false) ∨
    maskCredentialEnvelope P maskingKey responderNonce evaluatedElement accountContextHash input =
      .err .invalidInput := by
  by_cases h : isAllZero maskingKey.toList = false ∧ responderNonce.length = nonceLength ∧
      evaluatedElement.length = publicKeyLength ∧ isAllZero accountContextHash.toList = false
  · exact .inl h
  · refine .inr ?_
    rw [maskCredentialEnvelope, Outcome.failIf_pos]
    · rfl
    · simp only [Bool.or_eq_true, bne_iff_ne, ne_eq]
      by_contra hnone
      simp only [not_or, not_not, Bool.not_eq_true] at hnone
      exact h ⟨hnone.1.1.1, hnone.1.1.2, hnone.1.2, hnone.2⟩

/-! ## The envelope cipher -/

def encryptEnvelope (key plaintext : List UInt8) (nonce : Bytes nonceLength)
    (ciphertext : List UInt8) : OpaqueResult (List UInt8 × Bytes secretboxMacLength) := do
  failIf (key.length ≠ secretboxKeyLength || plaintext.isEmpty) .invalidInput
  failIf (ciphertext.length < plaintext.length) .invalidInput
  let keyRef ← copyFromSlice secretboxKeyLength key
  let encrypted ← okOr (P.aeadEncrypt keyRef nonce plaintext) .cryptoError
  failIf (encrypted.length ≠ secretboxMacLength + plaintext.length) .cryptoError
  let tag ← slice encrypted 0 secretboxMacLength
  let authTag ← copyFromSlice secretboxMacLength tag
  let body ← slice encrypted secretboxMacLength encrypted.length
  let buffer : List.Vector UInt8 ciphertext.length := ⟨ciphertext, rfl⟩
  let written ← splice buffer 0 plaintext.length body
  pure (written.toList, authTag)

def decryptEnvelope (key ciphertext : List UInt8) (nonce : Bytes nonceLength)
    (authTag : Bytes secretboxMacLength) {n : ℕ} (plaintext : Bytes n) :
    OpaqueResult (Bytes n) := do
  failIf (key.length ≠ secretboxKeyLength || ciphertext.isEmpty) .invalidInput
  failIf (n < ciphertext.length) .invalidInput
  let keyRef ← copyFromSlice secretboxKeyLength key
  let sealed := zeros (secretboxMacLength + ciphertext.length)
  let sealed ← splice sealed 0 secretboxMacLength authTag.toList
  let sealed ← splice sealed secretboxMacLength (secretboxMacLength + ciphertext.length) ciphertext
  let decrypted ← okOr (P.aeadDecrypt keyRef nonce sealed.toList) .authenticationError
  failIf (decrypted.length ≠ ciphertext.length) .cryptoError
  splice plaintext 0 ciphertext.length decrypted

theorem encryptEnvelope_eq {key : Bytes secretboxKeyLength} {plaintext ciphertext : List UInt8}
    {nonce : Bytes nonceLength} {tag : Bytes secretboxMacLength} {body : List UInt8}
    (hplaintext : plaintext.isEmpty = false) (hbuffer : ciphertext.length = plaintext.length)
    (hbody : body.length = plaintext.length)
    (hencrypt : P.aeadEncrypt key nonce plaintext = some (tag.toList ++ body)) :
    encryptEnvelope P key.toList plaintext nonce ciphertext = .ok (body, tag) := by
  have htag : (slice (tag.toList ++ body) 0 secretboxMacLength : OpaqueResult _) =
      .ok tag.toList := slice_left _ _ (by simp)
  have hrest : (slice (tag.toList ++ body) secretboxMacLength (tag.toList ++ body).length :
      OpaqueResult _) = .ok body := slice_right _ _ (by simp) (by simp)
  have hwrite : (splice (⟨ciphertext, rfl⟩ : List.Vector UInt8 ciphertext.length) 0
      plaintext.length body : OpaqueResult _) = .ok (ofList body (hbody.trans hbuffer.symm)) :=
    splice_whole _ hbuffer.symm
  rw [encryptEnvelope, Outcome.failIf_neg _ (by simp [hplaintext]), Outcome.ok_bind,
    Outcome.failIf_neg _ (by omega), Outcome.ok_bind, copyFromSlice_toList, Outcome.ok_bind,
    hencrypt, Outcome.okOr_some, Outcome.ok_bind, Outcome.failIf_neg _ (by simp [hbody]),
    Outcome.ok_bind, htag, Outcome.ok_bind, copyFromSlice_toList, Outcome.ok_bind, hrest,
    Outcome.ok_bind]
  simp only [hwrite, Outcome.ok_bind]
  rfl

theorem encryptEnvelope_ok {key : Bytes secretboxKeyLength} {plaintext ciphertext : List UInt8}
    {nonce : Bytes nonceLength} {r : List UInt8 × Bytes secretboxMacLength}
    (hbuffer : ciphertext.length = plaintext.length)
    (h : encryptEnvelope P key.toList plaintext nonce ciphertext = .ok r) :
    P.aeadEncrypt key nonce plaintext = some (r.2.toList ++ r.1) ∧
      r.1.length = plaintext.length := by
  have hsteps := h
  simp only [encryptEnvelope, copyFromSlice_toList, Outcome.ok_bind, Outcome.bind_eq_ok_iff,
    Outcome.failIf_eq_ok_iff, Outcome.okOr_eq_ok_iff] at hsteps
  obtain ⟨_, hplaintext, _, -, encrypted, hencrypt, _, hlen, -⟩ := hsteps
  rw [not_not] at hlen
  have htag : (encrypted.take secretboxMacLength).length = secretboxMacLength := by simp [hlen]
  have hbody : (encrypted.drop secretboxMacLength).length = plaintext.length := by simp [hlen]
  have heq := @encryptEnvelope_eq P key plaintext ciphertext nonce (ofList _ htag) _
    (by simpa using hplaintext) hbuffer hbody (by simpa using hencrypt)
  obtain rfl := Outcome.ok.inj (heq.symm.trans h)
  exact ⟨by simpa using hencrypt, hbody⟩

theorem decryptEnvelope_sealed {key : Bytes secretboxKeyLength} {ciphertext : List UInt8}
    {nonce : Bytes nonceLength} {tag : Bytes secretboxMacLength} {n : ℕ} (plaintext : Bytes n)
    (hpos : 0 < n) (hlen : ciphertext.length = n) :
    decryptEnvelope P key.toList ciphertext nonce tag plaintext = (do
      let decrypted ←
        okOr (P.aeadDecrypt key nonce (tag.toList ++ ciphertext)) .authenticationError
      failIf (decrypted.length ≠ ciphertext.length) .cryptoError
      splice plaintext 0 ciphertext.length decrypted) := by
  have hnonempty : ciphertext.isEmpty = false := by
    rw [List.isEmpty_eq_false_iff, ← List.length_pos_iff]
    omega
  obtain ⟨s₁, hsplice₁, hs₁⟩ := @splice_toList OpaqueError UInt8 _
    (zeros (secretboxMacLength + ciphertext.length)) [] _ tag.toList 0 secretboxMacLength rfl rfl
    (by simp) (by simp)
  rw [List.nil_append] at hs₁
  obtain ⟨s₂, hsplice₂, hs₂⟩ := @splice_toList OpaqueError UInt8 _ s₁ _ _ ciphertext
    secretboxMacLength (secretboxMacLength + ciphertext.length) hs₁ (by simp) rfl (by simp)
  have hsealed : s₂.toList = tag.toList ++ ciphertext := by
    rw [hs₂, List.drop_of_length_le (by simp)]
    simp
  rw [decryptEnvelope, Outcome.failIf_neg _ (by simp [hnonempty]), Outcome.ok_bind,
    Outcome.failIf_neg _ (by omega), Outcome.ok_bind, copyFromSlice_toList, Outcome.ok_bind]
  simp only [hsplice₁, hsplice₂, Outcome.ok_bind, hsealed]

theorem decryptEnvelope_eq {key : Bytes secretboxKeyLength} {ciphertext : List UInt8}
    {nonce : Bytes nonceLength} {tag : Bytes secretboxMacLength} {n : ℕ} {decrypted : List UInt8}
    (plaintext : Bytes n) (hpos : 0 < n) (hlen : ciphertext.length = n)
    (hdecrypted : decrypted.length = n)
    (hdecrypt : P.aeadDecrypt key nonce (tag.toList ++ ciphertext) = some decrypted) :
    decryptEnvelope P key.toList ciphertext nonce tag plaintext =
      .ok (ofList decrypted hdecrypted) := by
  rw [decryptEnvelope_sealed P plaintext hpos hlen, hdecrypt, Outcome.okOr_some, Outcome.ok_bind,
    Outcome.failIf_neg _ (by omega), Outcome.ok_bind]
  exact splice_whole _ hlen

/-- Decryption under a full buffer: the plaintext, or the one error of its failing step. -/
theorem decryptEnvelope_cases (key : Bytes secretboxKeyLength) (nonce : Bytes nonceLength)
    (tag : Bytes secretboxMacLength) {n : ℕ} (ciphertext plaintext : Bytes n) (hpos : 0 < n) :
    (P.aeadDecrypt key nonce (tag.toList ++ ciphertext.toList) = none ∧
      decryptEnvelope P key.toList ciphertext.toList nonce tag plaintext =
        .err .authenticationError) ∨
    ∃ decrypted, P.aeadDecrypt key nonce (tag.toList ++ ciphertext.toList) = some decrypted ∧
      ((decrypted.length ≠ n ∧ decryptEnvelope P key.toList ciphertext.toList nonce tag plaintext =
          .err .cryptoError) ∨
        ∃ h : decrypted.length = n,
          decryptEnvelope P key.toList ciphertext.toList nonce tag plaintext =
            .ok (ofList decrypted h)) := by
  cases hdecrypt : P.aeadDecrypt key nonce (tag.toList ++ ciphertext.toList) with
  | none =>
      refine .inl ⟨rfl, ?_⟩
      rw [decryptEnvelope_sealed P plaintext hpos (by simp), hdecrypt]
      rfl
  | some decrypted =>
      refine .inr ⟨decrypted, rfl, ?_⟩
      by_cases hlen : decrypted.length = n
      · exact .inr ⟨hlen, decryptEnvelope_eq P plaintext hpos (by simp) hlen hdecrypt⟩
      · refine .inl ⟨hlen, ?_⟩
        rw [decryptEnvelope_sealed P plaintext hpos (by simp), hdecrypt, Outcome.okOr_some,
          Outcome.ok_bind, Outcome.failIf_pos _ (by simpa using hlen)]
        rfl

theorem decryptEnvelope_ok {key : Bytes secretboxKeyLength} {ciphertext : List UInt8}
    {nonce : Bytes nonceLength} {tag : Bytes secretboxMacLength} {n : ℕ} {plaintext r : Bytes n}
    (hpos : 0 < n) (hlen : ciphertext.length = n)
    (h : decryptEnvelope P key.toList ciphertext nonce tag plaintext = .ok r) :
    ∃ decrypted, P.aeadDecrypt key nonce (tag.toList ++ ciphertext) = some decrypted := by
  rw [decryptEnvelope_sealed P plaintext hpos hlen] at h
  obtain ⟨decrypted, hdecrypt, -⟩ := Outcome.bind_eq_ok_iff.mp h
  exact ⟨decrypted, Outcome.okOr_eq_ok_iff.mp hdecrypt⟩

/-! ## Random values -/

def randomBytes (n : ℕ) : Cmd OpaqueError World (Bytes n) := do
  Cmd.failIf (n = 0) .invalidInput
  World.draw n

/-- `attempts` more draws are allowed. -/
def randomNonzeroScalarLoop : ℕ → Cmd OpaqueError World (Bytes privateKeyLength)
  | 0 => Cmd.throw .cryptoError
  | attempts + 1 => do
      let wide ← randomBytes hashLength
      let bytes := P.group.asBytes (P.group.fromBytesModOrderWide wide)
      if !isAllZero bytes.toList then pure bytes else randomNonzeroScalarLoop attempts

def randomNonzeroScalar : Cmd OpaqueError World (Bytes privateKeyLength) :=
  randomNonzeroScalarLoop P 256

@[simp] theorem randomBytes_run {n : ℕ} (hn : n ≠ 0) (w : World) :
    (randomBytes n).run w =
      (.ok (World.window w.tape n), w.advance n) := by
  rw [randomBytes, Cmd.run_bind_ok (by rw [Cmd.run_failIf, Outcome.failIf_neg _ hn])]
  rfl

/-- The scalar that the next draw of 64 bytes, `offset` bytes ahead, is reduced to. -/
def tapeScalar (tape : ℕ → UInt8) (offset : ℕ) : P.group.Scalar :=
  P.group.fromBytesModOrderWide (World.window (fun i => tape (i + offset)) hashLength)

theorem randomNonzeroScalarLoop_succ (attempts : ℕ) (w : World) :
    (randomNonzeroScalarLoop P (attempts + 1)).run w =
      if tapeScalar P w.tape 0 ≠ 0 then
        (.ok (P.group.asBytes (tapeScalar P w.tape 0)), w.advance hashLength)
      else (randomNonzeroScalarLoop P attempts).run (w.advance hashLength) := by
  rw [randomNonzeroScalarLoop, Cmd.run_bind_ok (randomBytes_run (by decide) w)]
  by_cases h : tapeScalar P w.tape 0 = 0
  · have hzero : isAllZero (P.group.asBytes (P.group.fromBytesModOrderWide
        (World.window w.tape hashLength))).toList = true := P.group.isAllZero_asBytes _ |>.mpr h
    simp only [hzero, Bool.not_true, Bool.false_eq_true, if_false, h, ne_eq, not_true_eq_false]
  · have hzero : isAllZero (P.group.asBytes (P.group.fromBytesModOrderWide
        (World.window w.tape hashLength))).toList = false :=
      P.group.isAllZero_asBytes_eq_false.mpr h
    simp only [hzero, Bool.not_false, if_true, h, ne_eq, not_false_eq_true]
    rfl

/-- A non-zero canonical scalar or exhaustion; the clock stands still. -/
theorem randomNonzeroScalarLoop_cases (attempts : ℕ) (w : World) :
    (∃ s w', s ≠ 0 ∧ w'.clock = w.clock ∧
      (randomNonzeroScalarLoop P attempts).run w = (.ok (P.group.asBytes s), w')) ∨
    ∃ w', w'.clock = w.clock ∧
      (randomNonzeroScalarLoop P attempts).run w = (.err .cryptoError, w') := by
  induction attempts generalizing w with
  | zero => exact .inr ⟨w, rfl, rfl⟩
  | succ attempts ih =>
      rw [randomNonzeroScalarLoop_succ]
      split
      · next h => exact .inl ⟨_, w.advance hashLength, h, rfl, rfl⟩
      · exact ih (w.advance hashLength)

theorem randomNonzeroScalar_cases (w : World) :
    (∃ s w', s ≠ 0 ∧ w'.clock = w.clock ∧
      (randomNonzeroScalar P).run w = (.ok (P.group.asBytes s), w')) ∨
    ∃ w', w'.clock = w.clock ∧ (randomNonzeroScalar P).run w = (.err .cryptoError, w') :=
  randomNonzeroScalarLoop_cases P 256 w

/-- Nowhere on the tape do 256 draws in a row reduce to the zero scalar. -/
def World.NeverExhausted (w : World) : Prop :=
  ∀ i, ∃ k < 256, tapeScalar P w.tape (k * hashLength + i) ≠ 0

variable {P} in
theorem World.NeverExhausted.advance {w : World} (h : World.NeverExhausted P w) (n : ℕ) :
    World.NeverExhausted P (w.advance n) := by
  intro i
  obtain ⟨k, hk, hne⟩ := h (i + n)
  refine ⟨k, hk, ?_⟩
  simpa [tapeScalar, Nat.add_assoc] using hne

private theorem randomNonzeroScalarLoop_run (attempts : ℕ) (w : World)
    (h : ∃ k < attempts, tapeScalar P w.tape (k * hashLength) ≠ 0) :
    ∃ s n, s ≠ 0 ∧ (randomNonzeroScalarLoop P attempts).run w =
      (.ok (P.group.asBytes s), w.advance n) := by
  induction attempts generalizing w with
  | zero =>
      obtain ⟨k, hk, -⟩ := h
      omega
  | succ attempts ih =>
      rw [randomNonzeroScalarLoop_succ]
      split
      · next hs => exact ⟨_, hashLength, hs, rfl⟩
      · next hs =>
          obtain ⟨k, hk, hne⟩ := h
          obtain ⟨k, rfl⟩ : ∃ j, k = j + 1 := by
            cases k with
            | zero => exact absurd (by simpa using hne) hs
            | succ j => exact ⟨j, rfl⟩
          obtain ⟨s, n, hs', hrun⟩ := ih (w.advance hashLength)
            ⟨k, by omega, by
              simpa [tapeScalar, Nat.add_assoc, Nat.succ_mul] using hne⟩
          refine ⟨s, n + hashLength, hs', ?_⟩
          rw [hrun, World.advance_advance]

private theorem randomNonzeroScalarLoop_exhausted (attempts : ℕ) (w : World)
    (h : ∀ k < attempts, tapeScalar P w.tape (k * hashLength) = 0) :
    ∃ w', (randomNonzeroScalarLoop P attempts).run w = (.err .cryptoError, w') := by
  induction attempts generalizing w with
  | zero => exact ⟨w, rfl⟩
  | succ attempts ih =>
      have hzero : tapeScalar P w.tape 0 = 0 := by simpa using h 0 (by omega)
      rw [randomNonzeroScalarLoop_succ, if_neg (not_not.mpr hzero)]
      refine ih (w.advance hashLength) fun k hk => ?_
      simpa [tapeScalar, Nat.add_assoc, Nat.succ_mul] using h (k + 1) (by omega)

/-- One of the next 256 draws of 64 bytes is reduced to a non-zero scalar. -/
def World.YieldsScalar (w : World) : Prop :=
  ∃ k < 256, tapeScalar P w.tape (k * hashLength) ≠ 0

theorem World.yieldsScalar_iff (w : World) :
    World.YieldsScalar P w ↔ ∃ s w', s ≠ 0 ∧
      (randomNonzeroScalar P).run w = (.ok (P.group.asBytes s), w') := by
  constructor
  · intro h
    obtain ⟨s, n, hs, hrun⟩ := randomNonzeroScalarLoop_run P 256 w h
    exact ⟨s, w.advance n, hs, hrun⟩
  · rintro ⟨s, w', -, hrun⟩
    by_contra hnone
    simp only [World.YieldsScalar, not_exists, not_and, not_not] at hnone
    obtain ⟨w'', hfail⟩ := randomNonzeroScalarLoop_exhausted P 256 w hnone
    rw [randomNonzeroScalar, hfail] at hrun
    cases hrun

variable {P} in
theorem World.NeverExhausted.yieldsScalar {w : World} (h : World.NeverExhausted P w) :
    World.YieldsScalar P w := by
  simpa [World.YieldsScalar] using h 0

theorem randomNonzeroScalar_run {w : World} (h : World.NeverExhausted P w) :
    ∃ s w', s ≠ 0 ∧ w'.clock = w.clock ∧ World.NeverExhausted P w' ∧
      (randomNonzeroScalar P).run w = (.ok (P.group.asBytes s), w') := by
  obtain ⟨s, n, hs, hrun⟩ := randomNonzeroScalarLoop_run P 256 w h.yieldsScalar
  exact ⟨s, w.advance n, hs, rfl, h.advance n, hrun⟩

end AuraOpaque.Core
