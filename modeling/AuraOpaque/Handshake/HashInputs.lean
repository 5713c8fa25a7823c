import AuraOpaque.Handshake.KeySchedule
import AuraOpaque.Core.Oprf

/-!
# What is hashed

SHA-512 is applied in eight roles, to a label followed by fields without length
prefixes.  Two inputs are told apart by their labels, or inside a role by the
fixed lengths of all fields but one.  One label is the beginning of another.
-/

namespace AuraOpaque.Handshake

open AuraOpaque.Foundation AuraOpaque.Core

/-- A password within the limits of the protocol. -/
abbrev Password := { p : List UInt8 // p ≠ [] ∧ p.length ≤ maxSecureKeyLength }

abbrev AccountId := { a : List UInt8 // a ≠ [] }

inductive HashInput where
  | hashToGroup (password : Password)
  | finalize (password : Password) (unblinded : Bytes publicKeyLength)
  | ksfPassword (oprfOutput : Bytes hashLength) (password : Password)
  | ksfSalt (oprfOutput : Bytes hashLength)
  | accountContext (accountId : AccountId)
  | transcript (t : Transcript) (sized : t.Sized)
  | fakeMaterial (oprfSeed : Bytes oprfSeedLength) (accountId : AccountId)
  | deriveKeyPair (seed : Bytes hashLength)

namespace HashInput

/-- The parts that are hashed one after the other. -/
def parts : HashInput → List (List UInt8)
  | hashToGroup password => [Labels.oprfContext, [Oprf.hashToGroupDomain], password]
  | finalize password unblinded =>
      [Labels.oprfContext, [Oprf.finalizeDomain], password, unblinded.toList]
  | ksfPassword oprfOutput password => [Labels.ksfContext, oprfOutput.toList, password]
  | ksfSalt oprfOutput => [Labels.ksfSaltLabel, oprfOutput.toList]
  | accountContext accountId => [Labels.accountContextBinding, accountId]
  | transcript t _ => [Labels.transcriptContext, t.encode]
  | fakeMaterial oprfSeed accountId =>
      [Labels.fakeCredentialsContext, oprfSeed.toList, accountId]
  | deriveKeyPair seed => [Labels.deriveKeypairContext, seed.toList]

def bytes (x : HashInput) : List UInt8 := x.parts.flatten

/-! ## The labels -/

inductive Role where
  | hashToGroup
  | finalize
  | ksfPassword
  | ksfSalt
  | accountContext
  | transcript
  | fakeMaterial
  | deriveKeyPair
  deriving DecidableEq

def role : HashInput → Role
  | hashToGroup _ => .hashToGroup
  | finalize _ _ => .finalize
  | ksfPassword _ _ => .ksfPassword
  | ksfSalt _ => .ksfSalt
  | accountContext _ => .accountContext
  | transcript _ _ => .transcript
  | fakeMaterial _ _ => .fakeMaterial
  | deriveKeyPair _ => .deriveKeyPair

def Role.label : Role → List UInt8
  | hashToGroup => Labels.oprfContext ++ [Oprf.hashToGroupDomain]
  | finalize => Labels.oprfContext ++ [Oprf.finalizeDomain]
  | ksfPassword => Labels.ksfContext
  | ksfSalt => Labels.ksfSaltLabel
  | accountContext => Labels.accountContextBinding
  | transcript => Labels.transcriptContext
  | fakeMaterial => Labels.fakeCredentialsContext
  | deriveKeyPair => Labels.deriveKeypairContext

def body : HashInput → List UInt8
  | hashToGroup password => password
  | finalize password unblinded => password ++ unblinded.toList
  | ksfPassword oprfOutput password => oprfOutput.toList ++ password
  | ksfSalt oprfOutput => oprfOutput.toList
  | accountContext accountId => accountId
  | transcript t _ => t.encode
  | fakeMaterial oprfSeed accountId => oprfSeed.toList ++ accountId
  | deriveKeyPair seed => seed.toList

theorem bytes_eq (x : HashInput) : x.bytes = x.role.label ++ x.body := by
  cases x <;> simp [bytes, parts, role, Role.label, body]

/-- No label is the beginning of another, but for the two of the password hash. -/
theorem Role.eq_of_prefix {r r' : Role} (h : r.label <+: r'.label) :
    r = r' ∨ r = ksfPassword ∧ r' = ksfSalt := by
  revert h
  cases r <;> cases r' <;> decide

/-- Within a role the bytes after the label fix the fields. -/
theorem eq_of_body {x y : HashInput} (hrole : x.role = y.role) (h : x.body = y.body) : x = y := by
  cases x <;> cases y <;> cases hrole
  case hashToGroup.refl password password' =>
    rw [Subtype.ext h]
  case finalize.refl password unblinded password' unblinded' =>
    obtain ⟨hpassword, hpoint⟩ := List.append_inj' h (by simp)
    rw [Subtype.ext hpassword, List.Vector.toList_injective hpoint]
  case ksfPassword.refl oprfOutput password oprfOutput' password' =>
    obtain ⟨rfl, hpassword⟩ := toList_append_inj h
    rw [Subtype.ext hpassword]
  case ksfSalt.refl oprfOutput oprfOutput' =>
    rw [List.Vector.toList_injective h]
  case accountContext.refl accountId accountId' =>
    rw [Subtype.ext h]
  case transcript.refl t sized t' sized' =>
    obtain rfl := Transcript.encode_injective sized sized' h
    rfl
  case fakeMaterial.refl oprfSeed accountId oprfSeed' accountId' =>
    obtain ⟨rfl, haccount⟩ := toList_append_inj h
    rw [Subtype.ext haccount]
  case deriveKeyPair.refl seed seed' =>
    rw [List.Vector.toList_injective h]

theorem eq_of_bytes {x y : HashInput} (hrole : x.role = y.role) (h : x.bytes = y.bytes) :
    x = y := by
  rw [bytes_eq, bytes_eq, hrole] at h
  exact eq_of_body hrole (List.append_cancel_left h)

/-! ## The overlap -/

/-- What the label of the salt has more than the label of the password hash. -/
def saltSuffix : List UInt8 := ascii "-Salt"

theorem ksfSaltLabel_eq : Labels.ksfSaltLabel = Labels.ksfContext ++ saltSuffix := by decide

/--
A password input whose OPRF output begins with the rest of the salt's label, and
the salt input for what follows: five bytes are shifted from the output to the
password.
-/
def SaltClash (x y : HashInput) : Prop :=
  ∃ oprfOutput password oprfOutput' rest, x = .ksfPassword oprfOutput password ∧
    y = .ksfSalt oprfOutput' ∧ oprfOutput.toList = saltSuffix ++ rest ∧
    oprfOutput'.toList = rest ++ password

theorem SaltClash.bytes_eq {x y : HashInput} (h : SaltClash x y) : x.bytes = y.bytes := by
  obtain ⟨oprfOutput, password, oprfOutput', rest, rfl, rfl, houtput, houtput'⟩ := h
  simp [bytes, parts, houtput, houtput', ksfSaltLabel_eq]

theorem SaltClash.ne {x y : HashInput} (h : SaltClash x y) : x ≠ y := by
  obtain ⟨_, _, _, _, rfl, rfl, -⟩ := h
  exact HashInput.noConfusion

/-- With comparable labels, equal bytes come from equal inputs or from the overlap. -/
theorem eq_or_saltClash {x y : HashInput} (h : x.bytes = y.bytes)
    (hstart : x.role.label <+: y.role.label) : x = y ∨ SaltClash x y := by
  rcases Role.eq_of_prefix hstart with hrole | ⟨hx, hy⟩
  · exact .inl (eq_of_bytes hrole h)
  · refine .inr ?_
    rw [bytes_eq, bytes_eq, hx, hy] at h
    cases x <;> cases hx
    case refl oprfOutput password =>
    cases y <;> cases hy
    case refl oprfOutput' =>
    -- both labels start alike; what is left of the salt's label is in the output
    simp only [Role.label, body, ksfSaltLabel_eq, List.append_assoc] at h
    have hbody : oprfOutput.toList ++ password = saltSuffix ++ oprfOutput'.toList :=
      List.append_cancel_left h
    obtain ⟨rest, houtput⟩ : saltSuffix <+: oprfOutput.toList := by
      refine List.prefix_of_prefix_length_le ⟨_, hbody.symm⟩ ⟨_, rfl⟩ ?_
      rw [List.Vector.toList_length]
      decide
    rw [← houtput, List.append_assoc] at hbody
    exact ⟨_, _, _, rest, rfl, rfl, houtput.symm, (List.append_cancel_left hbody).symm⟩

/-- Different inputs have different bytes, exactly outside the overlap. -/
theorem separated_iff (x y : HashInput) :
    (x ≠ y → x.bytes ≠ y.bytes) ↔ ¬ (SaltClash x y ∨ SaltClash y x) := by
  constructor
  · rintro hsep (hclash | hclash)
    · exact hsep hclash.ne hclash.bytes_eq
    · exact hsep hclash.ne.symm hclash.bytes_eq.symm
  · intro hclash hne h
    have hbytes := h
    rw [bytes_eq x, bytes_eq y] at hbytes
    -- two beginnings of one string are comparable
    rcases List.prefix_or_prefix_of_prefix ⟨_, rfl⟩ ⟨_, hbytes.symm⟩ with hstart | hstart
    · rcases eq_or_saltClash h hstart with heq | hxy
      · exact hne heq
      · exact hclash (.inl hxy)
    · rcases eq_or_saltClash h.symm hstart with heq | hyx
      · exact hne heq.symm
      · exact hclash (.inr hyx)

/-- A password of five bytes against a salt. -/
theorem ksf_inputs_overlap :
    (ksfPassword (ofList (saltSuffix ++ List.replicate 59 0) (by decide))
        ⟨ascii "guess", by decide, by decide⟩).bytes =
      (ksfSalt (ofList (List.replicate 59 0 ++ ascii "guess") (by decide))).bytes ∧
    (ksfPassword (ofList (saltSuffix ++ List.replicate 59 0) (by decide))
        ⟨ascii "guess", by decide, by decide⟩).role ≠
      (ksfSalt (ofList (List.replicate 59 0 ++ ascii "guess") (by decide))).role :=
  ⟨by decide, by decide⟩

/-! ## Where the inputs are hashed -/

section Code

variable (P : Primitives)

theorem hashToGroup_hashes (password : Password) :
    Oprf.hashToGroup P password =
      .ok (P.group.compress (P.group.fromUniformBytes (P.sha512 (hashToGroup password).bytes))) :=
  Oprf.hashToGroup_eq P (List.isEmpty_eq_false_iff.mpr password.2.1)

theorem finalize_hashes {password : Password} {blindScalar : Bytes privateKeyLength}
    {evaluatedElement : Bytes publicKeyLength} {oprfOutput : Bytes hashLength}
    (h : Oprf.finalize P password blindScalar evaluatedElement = .ok oprfOutput) :
    ∃ unblinded, oprfOutput = P.sha512 (finalize password unblinded).bytes := by
  obtain ⟨_, -, h⟩ := Outcome.bind_eq_ok_iff.mp h
  obtain ⟨_, -, h⟩ := Outcome.bind_eq_ok_iff.mp h
  obtain ⟨unblinded, -, h⟩ := Outcome.bind_eq_ok_iff.mp h
  cases h
  exact ⟨unblinded, rfl⟩

/-- The password hash is applied to two hashes, one of them cut to the size of a salt. -/
theorem deriveRandomizedPassword_hashes {oprfOutput : Bytes hashLength} {password : Password}
    {n : ℕ} {randomizedPwd : Bytes n}
    (h : deriveRandomizedPassword P oprfOutput.toList password n = .ok randomizedPwd) :
    P.argon2id ⟨ksfMemlimitKib, ksfOpslimit, 1⟩
      (P.sha512 (ksfPassword oprfOutput password).bytes).toList
      ((P.sha512 (ksfSalt oprfOutput).bytes).toList.take argon2SaltBytes) n =
        some randomizedPwd := by
  obtain ⟨_, -, h⟩ := Outcome.bind_eq_ok_iff.mp h
  obtain ⟨part, hpart, h⟩ := Outcome.bind_eq_ok_iff.mp h
  obtain ⟨salt, hsalt, hargon⟩ := Outcome.bind_eq_ok_iff.mp h
  rw [slice_eq_ok (Nat.zero_le _) (by simp)] at hpart
  cases hpart
  rw [copyFromSlice_eq_ok_iff] at hsalt
  rw [Outcome.okOr_eq_ok_iff, ← hsalt] at hargon
  exact hargon

theorem deriveFakeMaterial_hashes (self : InMemoryEvaluator) (accountId : AccountId) :
    self.deriveFakeMaterial P accountId =
      .ok (P.sha512 (fakeMaterial self.oprfSeed accountId).bytes) := rfl

theorem deriveKeyPair_hashes {seed : Bytes hashLength}
    {keys : Bytes privateKeyLength × Bytes publicKeyLength}
    (h : Core.deriveKeyPair P seed.toList = .ok keys) :
    keys.1 =
      P.group.asBytes (P.group.fromBytesModOrderWide (P.sha512 (deriveKeyPair seed).bytes)) := by
  obtain ⟨_, -, h⟩ := Outcome.bind_eq_ok_iff.mp h
  obtain ⟨_, -, h⟩ := Outcome.bind_eq_ok_iff.mp h
  cases h
  rfl

theorem accountContext_hashes (accountId : AccountId) :
    sha512Multi P [Labels.accountContextBinding, accountId] =
      P.sha512 (accountContext accountId).bytes := rfl

theorem transcriptHash_hashes (t : Transcript) (sized : t.Sized) :
    transcriptHash P t = P.sha512 (transcript t sized).bytes := by
  rw [transcriptHash, bytes, parts]
  simp

end Code

end HashInput

end AuraOpaque.Handshake
