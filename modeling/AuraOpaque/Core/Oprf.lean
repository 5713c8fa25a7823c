import AuraOpaque.Core.Crypto

/-!
# The oblivious PRF

The client blinds the hash of its password, the server multiplies by a key
derived for the account, and the client unblinds.
-/

namespace AuraOpaque.Core

open AuraOpaque.Foundation
open Outcome (failIf okOr)

variable (P : Primitives)

namespace Oprf

def hashToGroupDomain : UInt8 := 0x00
def finalizeDomain : UInt8 := 0x01

def hashToGroup (input : List UInt8) : OpaqueResult (Bytes publicKeyLength) := do
  failIf input.isEmpty .invalidInput
  let hash := sha512Multi P [Labels.oprfContext, [hashToGroupDomain], input]
  let point := P.group.fromUniformBytes hash
  pure (P.group.compress point)

structure BlindFrame where
  blindedElement : Bytes publicKeyLength
  blindScalar : Bytes privateKeyLength
  world : World

def blind (input : List UInt8) : Cmd OpaqueError BlindFrame Unit := do
  Cmd.failIf input.isEmpty .invalidInput
  let blindScalar ← Cmd.zoom BlindFrame.world (fun w f => { f with world := w })
    (randomNonzeroScalar P)
  Cmd.modify fun f => { f with blindScalar }
  let element ← hashToGroup P input
  let blindedElement ← scalarMult P blindScalar element
  Cmd.modify fun f => { f with blindedElement }

def evaluate (blindedElement : Bytes publicKeyLength) (privateKey : Bytes privateKeyLength) :
    OpaqueResult (Bytes publicKeyLength) :=
  scalarMult P privateKey blindedElement

def finalize (input : List UInt8) (blindScalar : Bytes privateKeyLength)
    (evaluatedElement : Bytes publicKeyLength) : OpaqueResult (Bytes hashLength) := do
  failIf input.isEmpty .invalidInput
  let scalarInv ← scalarInvert P blindScalar
  let unblindedBytes ← scalarMult P scalarInv evaluatedElement
  pure (sha512Multi P [Labels.oprfContext, [finalizeDomain], input, unblindedBytes.toList])

/-! ## The PRF without the blinding -/

def inputPoint (input : List UInt8) : P.group.Point :=
  P.group.fromUniformBytes (sha512Multi P [Labels.oprfContext, [hashToGroupDomain], input])

def output (key : P.group.Scalar) (input : List UInt8) : Bytes hashLength :=
  sha512Multi P [Labels.oprfContext, [finalizeDomain], input,
    (P.group.compress (key • inputPoint P input)).toList]

theorem hashToGroup_eq {input : List UInt8} (h : input.isEmpty = false) :
    hashToGroup P input = .ok (P.group.compress (inputPoint P input)) := by
  simp [hashToGroup, Outcome.failIf_neg, h, inputPoint]

theorem evaluate_eq {key : P.group.Scalar} {p : P.group.Point} (hkey : key ≠ 0) (hp : p ≠ 0) :
    evaluate P (P.group.compress p) (P.group.asBytes key) = .ok (P.group.compress (key • p)) :=
  scalarMult_encoded P hkey hp

/-- Blinding with the scalar that the generator gives. -/
theorem blind_draw {input : List UInt8} (hinput : input.isEmpty = false)
    (hpoint : inputPoint P input ≠ 0) {f : BlindFrame} {r : P.group.Scalar} {w : World}
    (hr : r ≠ 0) (hdraw : (randomNonzeroScalar P).run f.world = (.ok (P.group.asBytes r), w)) :
    (blind P input).run f =
      (.ok (),
        { blindedElement := P.group.compress (r • inputPoint P input)
          blindScalar := P.group.asBytes r
          world := w }) := by
  have hzoom : (Cmd.zoom BlindFrame.world (fun w f => { f with world := w })
      (randomNonzeroScalar P)).run f = (.ok (P.group.asBytes r), { f with world := w }) := by
    rw [Cmd.run_zoom, hdraw]
  rw [blind, Cmd.run_bind_ok (by rw [Cmd.run_failIf, Outcome.failIf_neg _ (by simp [hinput])]),
    Cmd.run_bind_ok hzoom, Cmd.run_bind_ok (Cmd.run_modify _ _),
    Cmd.run_bind_ok (by rw [Cmd.run_liftM, hashToGroup_eq P hinput]),
    Cmd.run_bind_ok (by rw [Cmd.run_liftM, scalarMult_encoded P hr hpoint])]
  rfl

theorem blind_run {input : List UInt8} (hinput : input.isEmpty = false)
    (hpoint : inputPoint P input ≠ 0) {f : BlindFrame} (hw : World.NeverExhausted P f.world) :
    ∃ r w, r ≠ 0 ∧ w.clock = f.world.clock ∧ World.NeverExhausted P w ∧
      (blind P input).run f =
        (.ok (),
          { blindedElement := P.group.compress (r • inputPoint P input)
            blindScalar := P.group.asBytes r
            world := w }) := by
  obtain ⟨r, w, hr, hclock, hnever, hdraw⟩ := randomNonzeroScalar_run P hw
  exact ⟨r, w, hr, hclock, hnever, blind_draw P hinput hpoint hr hdraw⟩

theorem blind_ok {input : List UInt8} {f f' : BlindFrame} {u : Unit}
    (h : (blind P input).run f = (.ok u, f')) :
    input.isEmpty = false ∧ inputPoint P input ≠ 0 ∧ ∃ r, r ≠ 0 ∧
      f'.blindedElement = P.group.compress (r • inputPoint P input) ∧
      f'.blindScalar = P.group.asBytes r := by
  obtain ⟨_, f₁, hinput, h⟩ := Cmd.run_bind_eq_ok_iff.mp h
  rw [Cmd.run_failIf, Prod.mk.injEq, Outcome.failIf_eq_ok_iff] at hinput
  obtain ⟨hinput, rfl⟩ := hinput
  have hnonempty : input.isEmpty = false := by simpa using hinput
  obtain ⟨scalar, f₂, hdraw, h⟩ := Cmd.run_bind_eq_ok_iff.mp h
  rw [Cmd.run_bind_ok (Cmd.run_modify _ _),
    Cmd.run_bind_ok (by rw [Cmd.run_liftM, hashToGroup_eq P hnonempty])] at h
  obtain ⟨element, f₃, hmul, h⟩ := Cmd.run_bind_eq_ok_iff.mp h
  rw [Cmd.run_liftM, Prod.mk.injEq] at hmul
  obtain ⟨hmul, rfl⟩ := hmul
  obtain ⟨r, p, hr, hp, rfl, hpoint, rfl⟩ := (scalarMult_eq_ok_iff P).mp hmul
  obtain rfl := P.group.compress_injective hpoint
  cases h
  exact ⟨hnonempty, hp, r, hr, rfl, rfl⟩

/-- Finalizing multiplies an accepted element by the inverse of the blind. -/
theorem finalize_compress {input : List UInt8} {blind : P.group.Scalar} {p : P.group.Point}
    (hinput : input.isEmpty = false) (hblind : blind ≠ 0) (hp : p ≠ 0) :
    finalize P input (P.group.asBytes blind) (P.group.compress p) =
      .ok (sha512Multi P [Labels.oprfContext, [finalizeDomain], input,
        (P.group.compress (blind⁻¹ • p)).toList]) := by
  rw [finalize, Outcome.failIf_neg _ (by simp [hinput]), Outcome.ok_bind,
    scalarInvert_asBytes P hblind, Outcome.ok_bind,
    scalarMult_encoded P (inv_ne_zero hblind) hp, Outcome.ok_bind]
  rfl

theorem finalize_cases {input : List UInt8} {blind : P.group.Scalar}
    (hinput : input.isEmpty = false) (hblind : blind ≠ 0)
    (evaluatedElement : Bytes publicKeyLength) :
    (∃ p output, p ≠ 0 ∧ evaluatedElement = P.group.compress p ∧
      finalize P input (P.group.asBytes blind) evaluatedElement = .ok output) ∨
    (∀ p, p ≠ 0 → evaluatedElement ≠ P.group.compress p) ∧
      finalize P input (P.group.asBytes blind) evaluatedElement = .err .cryptoError := by
  by_cases h : ∃ p, p ≠ 0 ∧ evaluatedElement = P.group.compress p
  · obtain ⟨p, hp, rfl⟩ := h
    exact .inl ⟨p, _, hp, rfl, finalize_compress P hinput hblind hp⟩
  · have hnone : ∀ p, p ≠ 0 → evaluatedElement ≠ P.group.compress p :=
      fun p hp heq => h ⟨p, hp, heq⟩
    refine .inr ⟨hnone, ?_⟩
    rw [finalize, Outcome.failIf_neg _ (by simp [hinput]), Outcome.ok_bind,
      scalarInvert_asBytes P hblind, Outcome.ok_bind]
    rcases scalarMult_cases P (P.group.asBytes blind⁻¹) evaluatedElement with
      ⟨_, p, -, hp, -, heq, -⟩ | ⟨-, herr⟩
    · exact absurd heq (hnone p hp)
    · rw [herr, Outcome.err_bind]

/-- Unblinding an evaluated blinded input gives the PRF value. -/
theorem finalize_blinded {input : List UInt8} {blind key : P.group.Scalar}
    (hinput : input.isEmpty = false) (hblind : blind ≠ 0) (hkey : key ≠ 0)
    (hpoint : inputPoint P input ≠ 0) :
    finalize P input (P.group.asBytes blind)
        (P.group.compress (key • blind • inputPoint P input)) = .ok (output P key input) := by
  have hproduct : key • blind • inputPoint P input ≠ 0 := by
    simp [hkey, hblind, hpoint]
  have hunblind : blind⁻¹ • key • blind • inputPoint P input = key • inputPoint P input := by
    rw [smul_comm key blind, smul_smul, inv_mul_cancel₀ hblind, one_smul]
  rw [finalize_compress P hinput hblind hproduct, hunblind]
  rfl

end Oprf

/-! ## Evaluators -/

structure OprfEvaluator where
  evaluateOprf : Bytes publicKeyLength → List UInt8 → OpaqueResult (Bytes publicKeyLength)
  deriveFakeMaterial : List UInt8 → OpaqueResult (Bytes hashLength)

structure InMemoryEvaluator where
  oprfSeed : Bytes oprfSeedLength

namespace InMemoryEvaluator

def new (oprfSeed : Bytes oprfSeedLength) : OpaqueResult InMemoryEvaluator := do
  failIf (isAllZero oprfSeed.toList) .invalidInput
  pure { oprfSeed }

def evaluateOprf (self : InMemoryEvaluator) (blindedElement : Bytes publicKeyLength)
    (accountId : List UInt8) : OpaqueResult (Bytes publicKeyLength) := do
  let oprfKey ← deriveOprfKey P self.oprfSeed.toList accountId
  Oprf.evaluate P blindedElement oprfKey

def deriveFakeMaterial (self : InMemoryEvaluator) (accountId : List UInt8) :
    OpaqueResult (Bytes hashLength) :=
  pure (sha512Multi P [Labels.fakeCredentialsContext, self.oprfSeed.toList, accountId])

def toOprfEvaluator (self : InMemoryEvaluator) : OprfEvaluator where
  evaluateOprf := self.evaluateOprf P
  deriveFakeMaterial := self.deriveFakeMaterial P

end InMemoryEvaluator

/-! ## Account keys -/

/-- The seed that all account keys of one secret come from. -/
def oprfSeed (relaySecret : List UInt8) : Bytes oprfSeedLength :=
  ofList ((P.hmac relaySecret Labels.oprfSeedInfo).toList.take oprfSeedLength) (by simp)

/-- The message hashed for one account and one counter. -/
def oprfKeyMessage (accountId : List UInt8) (counter : UInt8) : List UInt8 :=
  Labels.oprfKeyInfo ++ accountId ++ [counter]

/-- The candidate of one counter. -/
def oprfKeyCandidate (seed : Bytes oprfSeedLength) (accountId : List UInt8) (counter : UInt8) :
    P.group.Scalar :=
  P.group.fromBytesModOrderWide (P.hmac seed.toList (oprfKeyMessage accountId counter))

/-- The counter needs no length before the account: it is the one byte at the end. -/
theorem oprfKeyMessage_inj {accountId accountId' : List UInt8} {counter counter' : UInt8} :
    oprfKeyMessage accountId counter = oprfKeyMessage accountId' counter' ↔
      accountId = accountId' ∧ counter = counter' := by
  constructor
  · intro h
    have htail : accountId ++ [counter] = accountId' ++ [counter'] := by
      simpa [oprfKeyMessage] using h
    obtain ⟨haccount, hcounter⟩ := List.append_inj' htail rfl
    exact ⟨haccount, by simpa using hcounter⟩
  · rintro ⟨rfl, rfl⟩
    rfl

/-- The loop takes the first counter on its list whose candidate is not zero. -/
theorem deriveOprfKeyLoop_find (seed : Bytes oprfSeedLength) (accountId counters : List UInt8) :
    deriveOprfKeyLoop P seed accountId counters =
      (counters.find? fun c => oprfKeyCandidate P seed accountId c ≠ 0).elim (.err .cryptoError)
        fun c => .ok (P.group.asBytes (oprfKeyCandidate P seed accountId c)) := by
  induction counters with
  | nil => rfl
  | cons counter counters ih =>
      rw [deriveOprfKeyLoop]
      by_cases hzero : oprfKeyCandidate P seed accountId counter = 0
      · rw [List.find?_cons_of_neg (by simpa using hzero), ← ih]
        have hbytes := (P.group.isAllZero_asBytes _).mpr hzero
        rw [oprfKeyCandidate, oprfKeyMessage] at hbytes
        simp only [hbytes, Bool.not_true, Bool.false_eq_true, if_false]
      · rw [List.find?_cons_of_pos (by simpa using hzero)]
        have hbytes := P.group.isAllZero_asBytes_eq_false.mpr hzero
        rw [oprfKeyCandidate, oprfKeyMessage] at hbytes
        simp only [hbytes, Bool.not_false, if_true, Option.elim_some]
        rfl

/-- A derived key is a non-zero scalar, whichever counter it came from. -/
theorem deriveOprfKeyLoop_ok {seed : Bytes oprfSeedLength} {accountId counters : List UInt8}
    {key : Bytes privateKeyLength}
    (h : deriveOprfKeyLoop P seed accountId counters = .ok key) :
    ∃ s, s ≠ 0 ∧ key = P.group.asBytes s := by
  rw [deriveOprfKeyLoop_find] at h
  cases hfind : counters.find? fun c => oprfKeyCandidate P seed accountId c ≠ 0 with
  | none =>
      rw [hfind] at h
      cases h
  | some c =>
      rw [hfind] at h
      cases h
      exact ⟨_, by simpa using List.find?_some hfind, rfl⟩

theorem deriveOprfKey_ok {secret accountId : List UInt8} {key : Bytes privateKeyLength}
    (h : deriveOprfKey P secret accountId = .ok key) :
    ∃ s, s ≠ 0 ∧ key = P.group.asBytes s := by
  simp only [deriveOprfKey, Outcome.bind_eq_ok_iff] at h
  obtain ⟨_, -, _, -, _, -, seed, -, h⟩ := h
  exact deriveOprfKeyLoop_ok P h

theorem deriveOprfKey_eq_loop {relaySecret accountId : List UInt8} (hsecret : relaySecret ≠ [])
    (haccount : accountId ≠ []) :
    deriveOprfKey P relaySecret accountId =
      deriveOprfKeyLoop P (oprfSeed P relaySecret) accountId
        ((List.range 256).map UInt8.ofNat) := by
  have hmac : hmacSha512 P relaySecret Labels.oprfSeedInfo =
      .ok (P.hmac relaySecret Labels.oprfSeedInfo) := by
    rw [hmacSha512, Outcome.failIf_neg _ (by simp [hsecret]; decide)]
    rfl
  rw [deriveOprfKey, Outcome.failIf_neg _ (by simp [hsecret, haccount]), Outcome.ok_bind, hmac,
    Outcome.ok_bind, slice_eq_ok (Nat.zero_le _) (by simp), Outcome.ok_bind,
    copyFromSlice_eq_ok (by simp), Outcome.ok_bind]
  rfl

/-- Searching the counters from zero up finds the least one, or there is none. -/
theorem find_counter (p : UInt8 → Bool) :
    (∃ c, p c ∧ (∀ d < c, ¬ p d) ∧ ((List.range 256).map UInt8.ofNat).find? p = some c) ∨
    (∀ c, ¬ p c) ∧ ((List.range 256).map UInt8.ofNat).find? p = none := by
  rw [List.find?_map]
  rcases hfind : (List.range 256).find? (p ∘ UInt8.ofNat) with _ | i
  · refine .inr ⟨fun c => ?_, rfl⟩
    have hnone := List.find?_eq_none.mp hfind c.toNat (List.mem_range.mpr c.toNat_lt)
    simpa using hnone
  · obtain ⟨hi, hmem, hleast⟩ := List.find?_range_eq_some.mp hfind
    have hlt := List.mem_range.mp hmem
    refine .inl ⟨UInt8.ofNat i, hi, fun d hd => ?_, rfl⟩
    have hdi : d.toNat < i := by
      have := UInt8.lt_iff_toNat_lt.mp hd
      rwa [UInt8.toNat_ofNat_of_lt' hlt] at this
    simpa using hleast d.toNat hdi

/-- The key of the least counter whose candidate is not zero, or the error when all are. -/
theorem deriveOprfKey_cases {relaySecret accountId : List UInt8} (hsecret : relaySecret ≠ [])
    (haccount : accountId ≠ []) :
    (∃ c, oprfKeyCandidate P (oprfSeed P relaySecret) accountId c ≠ 0 ∧
      (∀ d < c, oprfKeyCandidate P (oprfSeed P relaySecret) accountId d = 0) ∧
      deriveOprfKey P relaySecret accountId =
        .ok (P.group.asBytes (oprfKeyCandidate P (oprfSeed P relaySecret) accountId c))) ∨
    (∀ c, oprfKeyCandidate P (oprfSeed P relaySecret) accountId c = 0) ∧
      deriveOprfKey P relaySecret accountId = .err .cryptoError := by
  rw [deriveOprfKey_eq_loop P hsecret haccount, deriveOprfKeyLoop_find]
  rcases find_counter fun c => oprfKeyCandidate P (oprfSeed P relaySecret) accountId c ≠ 0 with
    ⟨c, hc, hleast, hfind⟩ | ⟨hnone, hfind⟩
  · refine .inl ⟨c, by simpa using hc, fun d hd => by simpa using hleast d hd, ?_⟩
    rw [hfind, Option.elim_some]
  · refine .inr ⟨fun c => by simpa using hnone c, ?_⟩
    rw [hfind, Option.elim_none]

end AuraOpaque.Core
