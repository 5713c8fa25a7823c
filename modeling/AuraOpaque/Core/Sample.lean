import AuraOpaque.Core.Oprf
import AuraOpaque.Core.PqKem
import Mathlib.Algebra.Field.ZMod
import Mathlib.Tactic.FinCases
import Mathlib.Data.UInt

/-!
# A small instance of the primitives

The integers modulo five stand for the group and its scalars, and a checksum
with a leading mark for the hashes.  The instance satisfies the laws, so the
statements about all primitives can be tried on it.
-/

namespace AuraOpaque.Core.Sample

open AuraOpaque.Foundation

instance sampleOrder_prime : Fact (Nat.Prime 5) := ⟨by decide⟩

/-- A mark, one byte, and zeros. -/
def marked (n : ℕ) (b : UInt8) : Bytes (n + 2) := ofList (1 :: b :: List.replicate n 0) (by simp)

def encode (n : ℕ) (x : ZMod 5) : Bytes (n + 1) :=
  ofList (UInt8.ofNat x.val :: List.replicate n 0) (by simp)

def decode {n : ℕ} (b : Bytes (n + 1)) : Option (ZMod 5) :=
  if encode n (b.head.toNat : ZMod 5) = b then some (b.head.toNat : ZMod 5) else none

theorem encode_head (n : ℕ) (x : ZMod 5) : ((encode n x).head.toNat : ZMod 5) = x := by
  change ((UInt8.ofNat x.val).toNat : ZMod 5) = x
  revert x
  decide

theorem decode_encode (n : ℕ) (x : ZMod 5) : decode (encode n x) = some x := by
  rw [decode, encode_head, if_pos rfl]

theorem encode_of_decode (n : ℕ) (b : Bytes (n + 1)) (x : ZMod 5) (h : decode b = some x) :
    encode n x = b := by
  unfold decode at h
  split at h
  · next heq => rwa [← Option.some.inj h]
  · cases h

theorem encode_zero (n : ℕ) : encode n 0 = zeros (n + 1) := rfl

def group : RistrettoGroup where
  Scalar := ZMod 5
  Point := ZMod 5
  basepoint := 1
  basepoint_ne_zero := by decide
  fromCanonicalBytes := decode
  asBytes := encode 31
  fromCanonicalBytes_asBytes := decode_encode 31
  asBytes_of_fromCanonicalBytes := encode_of_decode 31
  asBytes_zero := encode_zero 31
  fromBytesModOrderWide b := (b.head.toNat : ZMod 5)
  decompress := decode
  compress := encode 31
  decompress_compress := decode_encode 31
  compress_of_decompress := encode_of_decode 31
  compress_zero := encode_zero 31
  fromUniformBytes b := (b.head.toNat : ZMod 5)

/-- Two coefficients of twelve bits in each three bytes, and all of them below 3329. -/
def reduced : List UInt8 → Bool
  | a :: b :: c :: rest =>
      decide (a.toNat + 256 * (b.toNat % 16) < 3329) &&
        decide (b.toNat / 16 + 16 * c.toNat < 3329) && reduced rest
  | _ => true

theorem reduced_zeros : ∀ n, reduced (List.replicate n 0) = true
  | 0 => rfl
  | 1 => rfl
  | 2 => rfl
  | n + 3 => reduced_zeros n

theorem reduced_cons_zeros (k : UInt8) : ∀ n, reduced (k :: List.replicate n 0) = true
  | 0 => rfl
  | 1 => rfl
  | n + 2 => by
    have hsmall : k.toNat < 3329 := k.toNat_lt.trans (by decide)
    simp [List.replicate_succ, reduced, hsmall, reduced_zeros]

/-- The encoded coefficients come before the seed of the matrix. -/
def coefficientBytes : ℕ := 1152

/-- As in the KEM itself, an encapsulation key is its encoding, with reduced coefficients. -/
abbrev EncapsulationKey : Type :=
  { key : Bytes kemPublicKeyLength // reduced (key.toList.take coefficientBytes) = true }

def encapsulationKey (k : UInt8) : EncapsulationKey where
  val := ofList (k :: List.replicate 1183 0) (by rw [List.length_cons, List.length_replicate])
  property := by
    change reduced ((k :: List.replicate 1183 0).take (1151 + 1)) = true
    rw [List.take_succ_cons, List.take_replicate]
    exact reduced_cons_zeros k _

/-- A pair is one byte; so is the encapsulated message. -/
def kem : MlKem768 where
  EncapsulationKey := EncapsulationKey
  DecapsulationKey := UInt8
  generateKeypair seed := (seed.head, encapsulationKey seed.head)
  ekToBytes k := k.val
  ekNew b := if h : reduced (b.toList.take coefficientBytes) = true then some ⟨b, h⟩ else none
  dkToExpandedBytes k := marked 2398 k
  dkFromExpandedBytes b := if marked 2398 b.tail.head = b then some b.tail.head else none
  encapsulate k m := (marked 1086 m.head, marked 30 (k.val.head + m.head))
  decapsulate k ct := marked 30 (k + ct.tail.head)

theorem ekNew_encapsulationKey (k : UInt8) :
    kem.ekNew (encapsulationKey k).val = some (encapsulationKey k) :=
  dif_pos (encapsulationKey k).property

def digest (input : List UInt8) : Bytes hashLength := marked 62 input.sum

def tag (plaintext : List UInt8) : List UInt8 := plaintext.sum :: List.replicate 15 0

def primitives : Primitives where
  group := group
  kem := kem
  sha512 := digest
  hmac key message := digest (key ++ message)
  argon2id _ _ _ n := some (List.Vector.replicate n 1)
  aeadEncrypt _ _ plaintext := some (tag plaintext ++ plaintext)
  aeadDecrypt _ _ sealed :=
    if tag (sealed.drop 16) = sealed.take 16 then some (sealed.drop 16) else none

theorem primitives_correct : primitives.Correct where
  ek_roundtrip seed := ekNew_encapsulationKey seed.head
  dk_roundtrip seed := if_pos rfl
  kem_correct seed m := rfl
  aead_correct key nonce plaintext := by
    refine ⟨tag plaintext ++ plaintext, rfl, by simp [tag]; omega, ?_⟩
    have hlen : (tag plaintext).length = 16 := by simp [tag]
    simp only [primitives, ← hlen, List.drop_left, List.take_left, if_true]
  argon2id_total _ _ _ _ := rfl

def world (reading : ℕ) : World where
  tape _ := 1
  clock _ := reading

theorem world_neverExhausted (reading : ℕ) :
    World.NeverExhausted primitives (world reading) :=
  fun _ => ⟨0, by decide, show tapeScalar primitives (fun _ => 1) 0 ≠ 0 by decide⟩

/-- Hashes and what is expanded from them start with the mark. -/
theorem hkdfExpand_head (prk : Bytes hashLength) (info : List UInt8) (n : ℕ) :
    (hkdfExpand primitives prk info (n + 1)).toList.head? = some 1 := by
  exact Hkdf.output_head _ _ (by decide) (Nat.succ_pos n)

theorem hkdfExpand_ne_zero (prk : Bytes hashLength) (info : List UInt8) (n : ℕ) :
    hkdfExpand primitives prk info (n + 1) ≠ zeros (n + 1) := by
  intro h
  have hhead := hkdfExpand_head prk info n
  rw [h] at hhead
  cases hhead

theorem digest_ne_zero (input : List UInt8) : digest input ≠ zeros hashLength := by
  intro h
  cases congrArg (fun b : Bytes hashLength => b.toList.head?) h

/-- Where the keyed hash always reduces to one scalar, the first counter gives the key. -/
theorem deriveOprfKey_of_constant {P : Primitives} {s : P.group.Scalar} (hs : s ≠ 0)
    (hscalar : ∀ key message, P.group.fromBytesModOrderWide (P.hmac key message) = s)
    {secret accountId : List UInt8} (hsecret : secret.isEmpty = false)
    (haccount : accountId.isEmpty = false) :
    deriveOprfKey P secret accountId = .ok (P.group.asBytes s) := by
  rcases deriveOprfKey_cases P (List.isEmpty_eq_false_iff.mp hsecret)
    (List.isEmpty_eq_false_iff.mp haccount) with ⟨c, -, -, hok⟩ | ⟨hzero, -⟩
  · rw [hok, oprfKeyCandidate, hscalar]
  · exact absurd ((hscalar _ _).symm.trans (hzero 0)) hs

theorem deriveOprfKey_eq {secret accountId : List UInt8} (hsecret : secret.isEmpty = false)
    (haccount : accountId.isEmpty = false) :
    deriveOprfKey primitives secret accountId = .ok (encode 31 1) :=
  @deriveOprfKey_of_constant primitives (1 : ZMod 5) (by decide : (1 : ZMod 5) ≠ 0)
    (fun _ _ => rfl) _ _ hsecret haccount

/-- A key is accepted when its coefficients are reduced; its encoding is then its own. -/
theorem wellFormed_iff {key : Bytes kemPublicKeyLength} :
    PqKem.WellFormed primitives key.toList ↔
      reduced (key.toList.take coefficientBytes) = true := by
  constructor
  · rintro ⟨ek, bytes, hbytes, -, rfl⟩
    rw [hbytes]
    exact ek.property
  · exact fun h => ⟨⟨key, h⟩, key, rfl, dif_pos h, rfl⟩

example : PqKem.WellFormed primitives (zeros kemPublicKeyLength).toList := by
  rw [wellFormed_iff, zeros_toList, List.take_replicate]
  exact reduced_zeros _

/-- All coefficients are 4095. -/
def unreducedKey : Bytes kemPublicKeyLength := List.Vector.replicate _ 0xFF

theorem not_wellFormed_unreducedKey : ¬ PqKem.WellFormed primitives unreducedKey.toList := by
  have hbytes : unreducedKey.toList.take coefficientBytes =
      0xFF :: 0xFF :: 0xFF :: List.replicate 1149 0xFF := by
    exact List.take_replicate
  rw [wellFormed_iff, hbytes, reduced]
  exact Bool.false_ne_true

/-! ## With keys that matter -/

/--
A password hash and a cipher that depend on the password and on the key: the
second byte of the hashed password fills the result, and the second byte of the
key fills the tag.
-/
def keyed : Primitives :=
  { primitives with
    argon2id := fun _ password _ n => some (List.Vector.replicate n (password.getD 1 0))
    aeadEncrypt := fun key _ plaintext =>
      some (List.replicate 16 (key.toList.getD 1 0) ++ plaintext)
    aeadDecrypt := fun key _ sealed =>
      if sealed.getD 1 0 = key.toList.getD 1 0 then some (sealed.drop 16) else none }

theorem keyed_correct : keyed.Correct where
  ek_roundtrip := primitives_correct.ek_roundtrip
  dk_roundtrip := primitives_correct.dk_roundtrip
  kem_correct := primitives_correct.kem_correct
  aead_correct key nonce plaintext := ⟨_, rfl, by simp; omega, if_pos rfl⟩
  argon2id_total _ _ _ _ := rfl

theorem keyed_neverExhausted (reading : ℕ) : World.NeverExhausted keyed (world reading) :=
  fun _ => ⟨0, by decide, show tapeScalar keyed (fun _ => 1) 0 ≠ 0 by decide⟩

end AuraOpaque.Core.Sample
