import AuraOpaque.Core.Protocol

/-!
# Exactness of the wire format

A writer fills the first bytes of a buffer or leaves it alone; a parser accepts
what the writer produces and nothing else.
-/

namespace AuraOpaque.Core.Protocol

open AuraOpaque.Foundation
open Outcome (failIf)

section Format

variable {α β : Type} {lengths : List ℕ}

/-- A writer of messages with the given fields, for buffers of every size. -/
structure WritesTo (write : β → (n : ℕ) → Cmd OpaqueError (Bytes n) Unit)
    (fields : β → List (List UInt8)) (lengths : List ℕ) : Prop where
  writes : ∀ b n, Sized lengths (fields b) → 1 + lengths.sum ≤ n →
    Writes 0 (encode (fields b)) (write b n)
  refuses : ∀ b n (buffer : Bytes n), ¬ (Sized lengths (fields b) ∧ 1 + lengths.sum ≤ n) →
    (write b n).run buffer = (.err .invalidProtocolMessage, buffer)

/-- A parser that tells a wrong length from a wrong version. -/
structure Diagnoses (parse : List UInt8 → OpaqueResult α) (total : ℕ) : Prop where
  wrongLength : ∀ data, data.length ≠ total → parse data = .err .invalidProtocolMessage
  wrongVersion : ∀ data, data.length = total → data.head? ≠ some protocolVersion →
    parse data = .err .unsupportedVersion

/--
One message: `view` says how the parser splits what the writer was given, `args`
what the writer is to be given to write a parsed message again.
-/
structure WireExact (total : ℕ) (write : β → (n : ℕ) → Cmd OpaqueError (Bytes n) Unit)
    (parse : List UInt8 → OpaqueResult α) (written : β → List (List UInt8)) (lengths : List ℕ)
    (slices : α → List (List UInt8)) (view : β → α) (args : α → β) : Prop where
  write_ok_iff : ∀ b n (buffer : Bytes n),
    ((write b n).run buffer).1 = .ok () ↔ Sized lengths (written b) ∧ total ≤ n
  write_frame : ∀ b n (buffer : Bytes n), ((write b n).run buffer).1 = .ok () →
    ((write b n).run buffer).2.toList.drop total = buffer.toList.drop total
  write_err : ∀ b n (buffer : Bytes n), ((write b n).run buffer).1 ≠ .ok () →
    (write b n).run buffer = (.err .invalidProtocolMessage, buffer)
  parse_write : ∀ b n (buffer : Bytes n), ((write b n).run buffer).1 = .ok () →
    parse (((write b n).run buffer).2.toList.take total) = .ok (view b)
  parse_ok_iff : ∀ data,
    (∃ r, parse data = .ok r) ↔ data.length = total ∧ data.head? = some protocolVersion
  parse_err : Diagnoses parse total
  write_parse : ∀ data r, parse data = .ok r → ∀ n (buffer : Bytes n), total ≤ n →
    ((write (args r) n).run buffer).1 = .ok () ∧
      ((write (args r) n).run buffer).2.toList.take total = data
  partition : ∀ data r, parse data = .ok r → data = protocolVersion :: (slices r).flatten

theorem checkVersion_eq_ok_iff {data : List UInt8} :
    checkVersion data = .ok () ↔ data.head? = some protocolVersion := by
  cases data with
  | nil => simp [checkVersion]
  | cons version rest =>
      rw [checkVersion, List.head?_cons, Option.some.injEq]
      by_cases h : version = protocolVersion2
      · exact iff_of_true (if_pos h) h
      · exact iff_of_false (by simp [h]) h

theorem checkVersion_of_ne {data : List UInt8} (hpos : 0 < data.length)
    (h : data.head? ≠ some protocolVersion) : checkVersion data = .err .unsupportedVersion := by
  cases data with
  | nil => cases hpos
  | cons version rest => exact if_neg fun hv => h (congrArg some hv)

/-- The checks that every parser makes first tell the two errors apart. -/
theorem Diagnoses.of_guard {total : ℕ} {k : List UInt8 → Unit → OpaqueResult α} (hpos : 0 < total) :
    Diagnoses (fun data => failIf (data.length ≠ total) .invalidProtocolMessage >>= fun _ =>
      checkVersion data >>= k data) total where
  wrongLength data h := by rw [Outcome.failIf_pos _ h, Outcome.err_bind]
  wrongVersion data h hversion := by
    rw [Outcome.failIf_neg _ (not_not.mpr h), Outcome.ok_bind,
      checkVersion_of_ne (h ▸ hpos) hversion, Outcome.err_bind]

variable {write : β → (n : ℕ) → Cmd OpaqueError (Bytes n) Unit}
  {parse : List UInt8 → OpaqueResult α} {written : β → List (List UInt8)}
  {slices : α → List (List UInt8)} {readLengths : List ℕ}

/-- On a success the message stands in front of what was in the buffer. -/
theorem WritesTo.run {b : β} {n : ℕ} (h : WritesTo write written lengths)
    (hsized : Sized lengths (written b)) (hn : 1 + lengths.sum ≤ n) (buffer : Bytes n) :
    ∃ buffer', (write b n).run buffer = (.ok (), buffer') ∧
      buffer'.toList = encode (written b) ++ buffer.toList.drop (1 + lengths.sum) := by
  obtain ⟨buffer', hrun, hlist⟩ := h.writes b n hsized hn (by
    rw [Nat.zero_add, hsized.encode_length]
    exact hn) buffer
  refine ⟨buffer', hrun, ?_⟩
  rw [hlist, List.take_zero, List.nil_append, Nat.zero_add, hsized.encode_length]

theorem WritesTo.ok_iff {b : β} {n : ℕ} (h : WritesTo write written lengths) (buffer : Bytes n) :
    ((write b n).run buffer).1 = .ok () ↔ Sized lengths (written b) ∧ 1 + lengths.sum ≤ n := by
  constructor
  · intro hok
    by_contra hnot
    rw [h.refuses b n buffer hnot] at hok
    cases hok
  · rintro ⟨hsized, hn⟩
    obtain ⟨buffer', hrun, -⟩ := h.run hsized hn buffer
    rw [hrun]

/-- The reader and the writer of a message agree if they split it into the same bytes. -/
theorem WireExact.of {view : β → α} {args : α → β} (hwrite : WritesTo write written lengths)
    (hread : Reads parse slices readLengths)
    (hdiagnoses : Diagnoses parse (1 + lengths.sum)) (hsum : readLengths.sum = lengths.sum)
    (hview : ∀ b, Sized lengths (written b) → Sized readLengths (slices (view b)) ∧
      encode (slices (view b)) = encode (written b))
    (hargs : ∀ r, Sized readLengths (slices r) → Sized lengths (written (args r)) ∧
      encode (written (args r)) = encode (slices r)) :
    WireExact (1 + lengths.sum) write parse written lengths slices view args where
  write_ok_iff b n buffer := hwrite.ok_iff buffer
  write_frame b n buffer hok := by
    obtain ⟨hsized, hn⟩ := (hwrite.ok_iff buffer).mp hok
    obtain ⟨buffer', hrun, hlist⟩ := hwrite.run hsized hn buffer
    rw [hrun, hlist, List.drop_left' hsized.encode_length]
  write_err b n buffer hne := hwrite.refuses b n buffer fun h => hne ((hwrite.ok_iff buffer).mpr h)
  parse_write b n buffer hok := by
    obtain ⟨hsized, hn⟩ := (hwrite.ok_iff buffer).mp hok
    obtain ⟨buffer', hrun, hlist⟩ := hwrite.run hsized hn buffer
    obtain ⟨hslices, hencode⟩ := hview b hsized
    rw [hrun, hlist, List.take_left' hsized.encode_length]
    exact hread.eq_ok_iff.mpr ⟨hslices, hencode.symm⟩
  parse_ok_iff data := by
    rw [← checkVersion_eq_ok_iff, ← hsum]
    constructor
    · rintro ⟨r, hparse⟩
      exact hread.guard data r hparse
    · intro hguard
      exact hread.exists_ok hguard.1 hguard.2
  parse_err := hdiagnoses
  write_parse data r hparse n buffer hn := by
    obtain ⟨hslices, hdata⟩ := hread.eq_ok_iff.mp hparse
    obtain ⟨hsized, hencode⟩ := hargs r hslices
    obtain ⟨buffer', hrun, hlist⟩ := hwrite.run hsized hn buffer
    rw [hrun, hlist, List.take_left' hsized.encode_length, hencode, hdata]
    exact ⟨rfl, rfl⟩
  partition data r hparse := (hread.eq_ok_iff.mp hparse).2

theorem WireExact.of_same {write : α → (n : ℕ) → Cmd OpaqueError (Bytes n) Unit}
    (hwrite : WritesTo write slices lengths) (hread : Reads parse slices lengths)
    (hdiagnoses : Diagnoses parse (1 + lengths.sum)) :
    WireExact (1 + lengths.sum) write parse slices lengths slices id id :=
  .of hwrite hread hdiagnoses rfl (fun _ h => ⟨h, rfl⟩) fun _ h => ⟨h, rfl⟩

theorem refuses_of_failIf {n total : ℕ} {fields : List (List UInt8)} {q : Prop} [Decidable q]
    {c : Cmd OpaqueError (Bytes n) Unit} {buffer : Bytes n}
    (hq : ¬ q → Sized lengths fields ∧ total ≤ n)
    (h : ¬ (Sized lengths fields ∧ total ≤ n)) :
    (Cmd.failIf q .invalidProtocolMessage >>= fun _ => c).run buffer =
      (.err .invalidProtocolMessage, buffer) :=
  Cmd.run_bind_err (by rw [Cmd.run_failIf,
      Outcome.failIf_pos _ (not_not.mp fun hnot => h (hq hnot))])

end Format

/-! ## The six messages -/

abbrev RegistrationRequestExact : Prop :=
  WireExact registrationRequestWireLength (fun payload _ => writeRegistrationRequest payload)
    parseRegistrationRequest (fun payload => [payload]) [registrationRequestLength]
    (fun payload => [payload]) id id

abbrev RegistrationResponseExact : Prop :=
  WireExact registrationResponseWireLength
    (fun r _ => writeRegistrationResponse r.evaluatedElement r.responderPublicKey)
    parseRegistrationResponse RegistrationResponseRef.fields registrationResponseFieldLengths
    RegistrationResponseRef.fields id id

/-- What the writer of a record is given: the masking key and the envelope come in one piece. -/
structure RecordParts where
  credentialStorage : List UInt8
  initiatorPublicKey : List UInt8

def RecordParts.view (p : RecordParts) : RegistrationRecordRef where
  maskingKey := p.credentialStorage.take maskingKeyLength
  envelope := p.credentialStorage.drop maskingKeyLength
  initiatorPublicKey := p.initiatorPublicKey

def RegistrationRecordRef.parts (r : RegistrationRecordRef) : RecordParts where
  credentialStorage := r.maskingKey ++ r.envelope
  initiatorPublicKey := r.initiatorPublicKey

abbrev RegistrationRecordExact : Prop :=
  WireExact registrationRecordLength
    (fun p _ => writeRegistrationRecord p.credentialStorage p.initiatorPublicKey)
    parseRegistrationRecord (fun p => [p.credentialStorage, p.initiatorPublicKey])
    [registrationCredentialLength, publicKeyLength] RegistrationRecordRef.fields RecordParts.view
    RegistrationRecordRef.parts

abbrev Ke1Exact : Prop :=
  WireExact ke1Length
    (fun r _ => writeKe1 r.credentialRequest r.initiatorPublicKey r.initiatorNonce
      r.pqEphemeralPublicKey)
    parseKe1 Ke1Ref.fields ke1FieldLengths Ke1Ref.fields id id

abbrev Ke2Exact : Prop :=
  WireExact ke2Length
    (fun r _ => writeKe2 r.responderNonce r.responderPublicKey r.credentialResponse
      r.responderMac r.kemCiphertext)
    parseKe2 Ke2Ref.fields ke2FieldLengths Ke2Ref.fields id id

abbrev Ke3Exact : Prop :=
  WireExact ke3Length (fun r _ => writeKe3 r.initiatorMac) parseKe3 Ke3Ref.fields [macLength]
    Ke3Ref.fields id id

theorem registrationRequest_exact : RegistrationRequestExact := by
  refine .of_same ⟨fun _ _ => writeRegistrationRequest_writes, fun b n buffer => ?_⟩
    parseRegistrationRequest_reads (.of_guard (by decide))
  refine refuses_of_failIf fun h => ?_
  simp only [not_or, not_not, not_lt] at h
  simpa [Sized, and_assoc] using h

theorem registrationResponse_exact : RegistrationResponseExact := by
  refine .of_same ⟨fun _ _ => writeRegistrationResponse_writes, fun r n buffer => ?_⟩
    parseRegistrationResponse_reads (.of_guard (by decide))
  refine refuses_of_failIf fun h => ?_
  simp only [not_or, not_not, not_lt] at h
  simpa [Sized, and_assoc] using h

theorem registrationRecord_exact : RegistrationRecordExact := by
  refine .of ⟨fun _ _ => writeRegistrationRecord_writes, fun p n buffer => ?_⟩
    parseRegistrationRecord_reads (.of_guard (by decide)) rfl ?_ ?_
  · refine refuses_of_failIf fun h => ?_
    simp only [not_or, not_not, not_lt] at h
    simpa [Sized, and_assoc] using h
  · rintro ⟨storage, key⟩ hsized
    simp only [Sized, List.map_cons, List.map_nil, List.cons.injEq, and_true] at hsized
    refine ⟨?_, ?_⟩
    · simp [Sized, RecordParts.view, hsized]
    · simp only [encode, RecordParts.view, List.flatten_cons, List.flatten_nil,
        ← List.append_assoc, List.take_append_drop]
  · rintro ⟨maskingKey, envelope, key⟩ hsized
    simp only [Sized, List.map_cons, List.map_nil, List.cons.injEq, and_true] at hsized
    refine ⟨?_, ?_⟩
    · simp [Sized, RegistrationRecordRef.parts, hsized]
    · simp [encode, RegistrationRecordRef.parts]

theorem ke1_exact : Ke1Exact := by
  refine .of_same ⟨fun _ _ => writeKe1_writes, fun r n buffer => ?_⟩
    parseKe1_reads (.of_guard (by decide))
  refine refuses_of_failIf fun h => ?_
  simp only [not_or, not_not, not_lt] at h
  simpa [Sized, and_assoc] using h

theorem ke2_exact : Ke2Exact := by
  refine .of_same ⟨fun _ _ => writeKe2_writes, fun r n buffer => ?_⟩
    parseKe2_reads (.of_guard (by decide))
  refine refuses_of_failIf fun h => ?_
  simp only [not_or, not_not, not_lt] at h
  simpa [Sized, and_assoc] using h

theorem ke3_exact : Ke3Exact := by
  refine .of_same ⟨fun _ _ => writeKe3_writes, fun r n buffer => ?_⟩
    parseKe3_reads (.of_guard (by decide))
  refine refuses_of_failIf fun h => ?_
  simp only [not_or, not_not, not_lt] at h
  simpa [Sized, and_assoc] using h

/-- Every message is written and read exactly. -/
theorem wire_format_exact :
    RegistrationRequestExact ∧ RegistrationResponseExact ∧ RegistrationRecordExact ∧
      Ke1Exact ∧ Ke2Exact ∧ Ke3Exact :=
  ⟨registrationRequest_exact, registrationResponse_exact, registrationRecord_exact,
    ke1_exact, ke2_exact, ke3_exact⟩

end AuraOpaque.Core.Protocol
