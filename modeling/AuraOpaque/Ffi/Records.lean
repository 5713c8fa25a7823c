import AuraOpaque.Ffi.Export
import AuraOpaque.Ffi.Ranges
import AuraOpaque.Relay.Credentials
import AuraOpaque.Relay.PanicFreedom

/-!
# Two decoders of one record

Login decodes the stored record itself, registration goes through
`build_credentials` and encodes again what it has decoded.  Both accept the same
bytes and get the same credentials out of them.
-/

namespace AuraOpaque.Ffi

open AuraOpaque.Foundation AuraOpaque.Core
open Protocol (encode parseRegistrationRecord parseRegistrationRecord_reads)
open Relay (OpaqueResponder ResponderCredentials buildCredentials)

variable {P : Primitives}

/-! ## The decoders -/

private theorem new_not_registered : ¬ ResponderCredentials.new.registered = true :=
  Bool.false_ne_true

theorem built_refuses_of_parse {record : List UInt8} {e : OpaqueError}
    (hparse : parseRegistrationRecord record = .err e) :
    Cmd.fill .new (buildCredentials P record) = .err e := by
  have hrun : (buildCredentials P record).run .new = (.err e, .new) := by
    rw [buildCredentials, Cmd.run_bind_ok (Cmd.run_get _),
      Cmd.run_bind_ok (by rw [Cmd.run_failIf, Outcome.failIf_neg _ new_not_registered]),
      Cmd.run_bind_err (by rw [Cmd.run_liftM, hparse])]
  rw [Cmd.fill, hrun]

theorem built_refuses_of_key {record : List UInt8} {view : Protocol.RegistrationRecordRef}
    {e : OpaqueError} (hparse : parseRegistrationRecord record = .ok view)
    (hkey : validatePublicKey P view.initiatorPublicKey = .err e) :
    Cmd.fill .new (buildCredentials P record) = .err e := by
  have hrun : (buildCredentials P record).run .new = (.err e, .new) := by
    rw [buildCredentials, Cmd.run_bind_ok (Cmd.run_get _),
      Cmd.run_bind_ok (by rw [Cmd.run_failIf, Outcome.failIf_neg _ new_not_registered]),
      Cmd.run_bind_ok (by rw [Cmd.run_liftM, hparse]),
      Cmd.run_bind_err (by rw [Cmd.run_liftM, hkey])]
  rw [Cmd.fill, hrun]

/-- The credentials and the bytes that an accepted record stands for. -/
theorem built_of_record {record : List UInt8} {view : Protocol.RegistrationRecordRef}
    (hparse : parseRegistrationRecord record = .ok view)
    (hkey : validatePublicKey P view.initiatorPublicKey = .ok ()) :
    ∃ (maskingKey : Bytes maskingKeyLength) (envelope : Bytes envelopeLength)
      (publicKey : Bytes publicKeyLength),
      view = ⟨maskingKey.toList, envelope.toList, publicKey.toList⟩ ∧
      record = encode [maskingKey.toList, envelope.toList, publicKey.toList] ∧
      Cmd.fill .new (buildCredentials P record) =
        .ok ⟨envelope.toList, maskingKey, publicKey, true⟩ := by
  obtain ⟨hsized, hrecord⟩ := parseRegistrationRecord_reads.eq_ok_iff.mp hparse
  obtain ⟨p, hp, hpublic⟩ := (validatePublicKey_eq_ok_iff P).mp hkey
  obtain ⟨maskingKey, envelope, initiatorPublicKey⟩ := view
  simp only [Protocol.Sized, List.map_cons, List.map_nil, List.cons.injEq, and_true] at hsized
  obtain rfl : initiatorPublicKey = (P.group.compress p).toList := hpublic
  refine ⟨ofList maskingKey hsized.1, ofList envelope hsized.2.1, P.group.compress p, rfl, hrecord,
    ?_⟩
  exact Cmd.fill_eq_ok_iff.mpr
    (Relay.buildCredentials_eq_ok_iff.mpr ⟨rfl, _, ofList maskingKey hsized.1, p, hparse, rfl, hp,
      rfl, rfl⟩)

/-- Both accept with the same credentials, and the bytes come out again; or neither accepts. -/
theorem decoders_agree {record : List UInt8}
    (hlength : record.length = responderCredentialsLength) :
    (∃ creds, Cmd.fill .new (buildCredentials P record) = .ok creds ∧
      (∀ responder, decodeCredentials P responder record responderCredentialsLength = .ok creds) ∧
      credentialsWire P record = .ok (ofList record hlength)) ∨
    ∃ e, Cmd.fill .new (buildCredentials P record) = .err e ∧
      (∀ responder, decodeCredentials P responder record responderCredentialsLength =
        .err ffiCorruptedRecord) ∧
      credentialsWire P record = .err e := by
  have hwire : ∀ responder, credentialWire responder record responderCredentialsLength =
      .ok (ofList record hlength) := by
    intro responder
    rw [credentialWire, if_pos rfl, copyFromSlice_eq_ok hlength]
  rcases parseRegistrationRecord_reads.ok_or_err record with ⟨view, hparse⟩ | ⟨e, hparse⟩
  · rcases validatePublicKey_cases P view.initiatorPublicKey with hkey | hkey
    · obtain ⟨maskingKey, envelope, publicKey, rfl, hrecord, hbuilt⟩ :=
        built_of_record hparse hkey
      refine .inl ⟨_, hbuilt, fun responder => ?_, ?_⟩
      · rw [decodeCredentials, hwire, Outcome.ok_bind, toList_ofList, hparse]
        simp only [withCode, Outcome.ok_bind, hkey]
        rw [Outcome.failIf_neg _ (by simp), Outcome.ok_bind, if_pos trivial, copyFromSlice_toList,
          Outcome.ok_bind, copyFromSlice_toList, Outcome.ok_bind]
        rfl
      · have hstorage : Cmd.fill (zeros registrationCredentialLength) (do
            spliceAt 0 maskingKeyLength maskingKey.toList
            spliceAt maskingKeyLength registrationCredentialLength envelope.toList :
              Cmd OpaqueError _ Unit) =
            .ok (ofList (maskingKey.toList ++ envelope.toList) (by simp)) := by
          refine Writes.fill (.spliceThen ?_ (.spliceAt ?_)) _ _ <;> simp
        have hsized : Protocol.Sized [registrationCredentialLength, publicKeyLength]
            [maskingKey.toList ++ envelope.toList, publicKey.toList] := by
          simp [Protocol.Sized]
        have hencoded :
            encode [maskingKey.toList ++ envelope.toList, publicKey.toList] = record := by
          simp [hrecord, encode]
        rw [credentialsWire, hbuilt, Outcome.ok_bind, hstorage, Outcome.ok_bind, toList_ofList,
          (Protocol.writeRegistrationRecord_writes hsized le_rfl).fill hsized.encode_length]
        congr 1
        exact List.Vector.toList_injective hencoded
    · refine .inr ⟨_, built_refuses_of_key hparse hkey, fun responder => ?_, ?_⟩
      · rw [decodeCredentials, hwire, Outcome.ok_bind, toList_ofList, hparse]
        simp only [withCode, Outcome.ok_bind, hkey]
        rfl
      · rw [credentialsWire, built_refuses_of_key hparse hkey]
        rfl
  · refine .inr ⟨e, built_refuses_of_parse hparse, fun responder => ?_, ?_⟩
    · rw [decodeCredentials, hwire, Outcome.ok_bind, toList_ofList, hparse]
      rfl
    · rw [credentialsWire, built_refuses_of_parse hparse]
      rfl

/-! ## The entry points -/

section Calls

theorem toCInt_ne_corrupted (e : OpaqueError) : e.toCInt ≠ ffiCorruptedRecord := by
  cases e <;> decide

variable {fresh : Process → ℕ} {s : Process}

theorem RelayBuildCredentials.length_record {args : RelayBuildCredentials}
    (h : ¬ args.Malformed) (m : Memory) :
    (m.read args.registrationRecord args.recordLength).length = responderCredentialsLength := by
  simp only [RelayBuildCredentials.Malformed, not_or, not_not] at h
  simp [h.2.1]

/-- Registration hands the record back, or refuses it and changes nothing. -/
theorem buildCredentials_exec {args : RelayBuildCredentials} (h : ¬ args.Malformed) :
    (opaqueRelayBuildCredentials P args false).exec fresh [] [] s =
      match Cmd.fill .new (buildCredentials P
        (s.data.memory.read args.registrationRecord args.recordLength)) with
      | .ok _ => ⟨0, { s with data := { s.data with
          memory := s.data.memory.write args.credentialsOut
            (s.data.memory.read args.registrationRecord args.recordLength) } }, []⟩
      | .err e => ⟨e.toCInt, s, []⟩
      | .panic => ⟨ffiPanic, s, []⟩ := by
  have hexec : (opaqueRelayBuildCredentials P args false).exec fresh [] [] s =
      match credentialsWire P
        (s.data.memory.read args.registrationRecord args.recordLength) with
      | .ok wire => ⟨0, { s with data := { s.data with
          memory := s.data.memory.write args.credentialsOut wire.toList } }, []⟩
      | .err e => ⟨e.toCInt, s, []⟩
      | .panic => ⟨ffiPanic, s, []⟩ := by
    rw [opaqueRelayBuildCredentials, Entry.rejectIf_neg h]
    unfold Entry.work
    simp only [Program.act_bind, Program.ret_bind, Program.exec, Cmd.run_bind, Cmd.run_get,
      Cmd.run_liftM]
    rcases credentialsWire P (s.data.memory.read args.registrationRecord args.recordLength) with
      wire | e | _ <;> rfl
  rw [hexec]
  rcases @decoders_agree P _ (RelayBuildCredentials.length_record h s.data.memory) with
    ⟨creds, hbuilt, -, hwire⟩ | ⟨e, hbuilt, -, hwire⟩
  · rw [hbuilt, hwire]
    rfl
  · rw [hbuilt, hwire]

/-- From the session on, no call reports a corrupted record. -/
theorem session_code {handle : ℕ} {operation : Op Memory Relay.ResponderState Unit}
    {guards acquired : List (Handle Kind)} :
    ((acquireRelayState handle >>= fun _ => onRelayState handle operation).exec fresh guards
      acquired s).code ≠ ffiCorruptedRecord := by
  unfold acquireRelayState acquire
  by_cases hnull : handle = null
  · rw [if_pos hnull]
    exact (by decide : handleAccessToInt .invalidHandle ≠ ffiCorruptedRecord)
  · rw [if_neg hnull]
    simp only [Program.acquire_bind, Program.exec]
    cases s.inUse ⟨.relayState, handle⟩
    · simp only [if_true, Program.ret_bind, onRelayState, Program.exec]
      unfold runRelayStateful
      rcases runStateful_code_cases invalidateRelayState operation
        ⟨s.data.memory, s.data.relayStates handle, s.data.world⟩ with
        hcode | ⟨e, hcode⟩ | hcode
      · simp only [Shared.lock_data, hcode]
        decide
      · simp only [Shared.lock_data, hcode]
        exact toCInt_ne_corrupted e
      · simp only [Shared.lock_data, hcode]
        decide
    · exact (by decide : handleAccessToInt .busy ≠ ffiCorruptedRecord)

/-- A login on a free relay, with a stored record and valid arguments. -/
structure LoginOn (args : RelayGenerateKe2) (record : List UInt8) (s : Process) : Prop where
  checked : ¬ args.Malformed ∧ ¬ args.BadCredentials
  stored : args.credentialsLength = responderCredentialsLength
  handle : args.relayHandle ≠ null
  free : s.inUse ⟨.relay, args.relayHandle⟩ = false
  bytes : s.data.memory.read args.credentialsData args.credentialsLength = record

/-- Registration, on a record that it accepts. -/
theorem buildCredentials_ok {args : RelayBuildCredentials} {record : List UInt8}
    {creds : ResponderCredentials} (h : ¬ args.Malformed)
    (hinput : s.data.memory.read args.registrationRecord args.recordLength = record)
    (hcreds : Cmd.fill .new (buildCredentials P record) = .ok creds) :
    let built := (opaqueRelayBuildCredentials P args false).exec fresh [] [] s
    built.code = 0 ∧
      built.shared.data.memory.read args.credentialsOut responderCredentialsLength = record := by
  have hlength : record.length = responderCredentialsLength :=
    hinput ▸ RelayBuildCredentials.length_record h _
  rw [buildCredentials_exec h, hinput, hcreds]
  refine ⟨rfl, ?_⟩
  rw [← hlength]
  exact Memory.read_write

/-- Login decodes the record as registration does, or stops there. -/
theorem login_cases {args : RelayGenerateKe2} {strike : Strike Relay.ResponderState}
    {record : List UInt8} (hrecord : record.length = responderCredentialsLength)
    (hlogin : LoginOn args record s) :
    let relay : Handle Kind := ⟨.relay, args.relayHandle⟩
    let responder := s.data.relays args.relayHandle
    let login := (opaqueRelayGenerateKe2 P args strike).exec fresh [] [] s
    (∃ creds, Cmd.fill .new (buildCredentials P record) = .ok creds ∧
      decodeCredentials P responder record args.credentialsLength = .ok creds ∧
      login = (acquireRelayState args.stateHandle >>= fun _ =>
        onRelayState args.stateHandle (generateKe2Operation P responder creds args strike)).exec
          fresh [relay] [relay] (s.lock relay)) ∨
    ∃ e, Cmd.fill .new (buildCredentials P record) = .err e ∧
      login = ⟨ffiCorruptedRecord, (s.lock relay).unlock relay, [relay]⟩ := by
  intro relay responder login
  have hexec : login = _ := generateKe2_exec hlogin.checked hlogin.handle hlogin.free
  rw [hlogin.bytes, hlogin.stored] at hexec
  rcases @decoders_agree P record hrecord with ⟨creds, hcreds, hdecoded, -⟩ |
    ⟨e, hrefused, hdecoded, -⟩
  · rw [hdecoded] at hexec
    exact .inl ⟨creds, hcreds, by rw [hlogin.stored, hdecoded], hexec⟩
  · rw [hdecoded] at hexec
    exact .inr ⟨e, hrefused, hexec⟩

/--
On any record: login reports a corrupted record, and leaves the session alone, if and only
if registration refuses the record.  Otherwise both have the same credentials.  What
registration hands back is the record, and so is what it makes of that.
-/
theorem record_decoders_agree {build : RelayBuildCredentials} (hbuild : ¬ build.Malformed)
    (fresh : Process → ℕ) (s : Process) :
    let record := s.data.memory.read build.registrationRecord build.recordLength
    let built := (opaqueRelayBuildCredentials P build false).exec fresh [] [] s
    (∀ (args : RelayGenerateKe2) (strike : Strike Relay.ResponderState) (fresh' : Process → ℕ)
        (s' : Process), LoginOn args record s' →
      let relay : Handle Kind := ⟨.relay, args.relayHandle⟩
      let responder := s'.data.relays args.relayHandle
      let login := (opaqueRelayGenerateKe2 P args strike).exec fresh' [] [] s'
      (login.code = ffiCorruptedRecord ↔ built.code ≠ 0) ∧
        (login.code = ffiCorruptedRecord →
          ⟨.relayState, args.stateHandle⟩ ∉ login.acquired ∧ login.shared.data = s'.data) ∧
        (login.code ≠ ffiCorruptedRecord → ∃ creds,
          Cmd.fill .new (buildCredentials P record) = .ok creds ∧
          decodeCredentials P responder record args.credentialsLength = .ok creds ∧
          login = (acquireRelayState args.stateHandle >>= fun _ =>
            onRelayState args.stateHandle
              (generateKe2Operation P responder creds args strike)).exec fresh' [relay] [relay]
              (s'.lock relay))) ∧
      (built.code = 0 →
        let output := built.shared.data.memory.read build.credentialsOut responderCredentialsLength
        output = record ∧
          Cmd.fill .new (buildCredentials P output) = Cmd.fill .new (buildCredentials P record) ∧
          ∀ (again : RelayBuildCredentials) (fresh' : Process → ℕ) (s' : Process),
            ¬ again.Malformed →
            s'.data.memory.read again.registrationRecord again.recordLength = output →
            let rebuilt := (opaqueRelayBuildCredentials P again false).exec fresh' [] [] s'
            rebuilt.code = 0 ∧
              rebuilt.shared.data.memory.read again.credentialsOut responderCredentialsLength =
                output) := by
  intro record built
  have hrecord : record.length = responderCredentialsLength :=
    RelayBuildCredentials.length_record hbuild _
  have hbuilt : built = _ := buildCredentials_exec hbuild
  refine ⟨fun args strike fresh' s' hlogin => ?_, fun hzero => ?_⟩
  · intro relay responder login
    rcases @login_cases P fresh' s' args strike record hrecord hlogin with
      ⟨creds, hcreds, hdecoded, hexec⟩ | ⟨e, hrefused, hexec⟩
    · have hcode : login.code ≠ ffiCorruptedRecord := by
        simp only [login, hexec]
        exact session_code
      refine ⟨iff_of_false hcode ?_, fun h => absurd h hcode, fun _ => ?_⟩
      · rw [hbuilt, hcreds]
        exact not_not.mpr rfl
      · exact ⟨creds, hcreds, hdecoded, hexec⟩
    · have hcode : login.code = ffiCorruptedRecord := by simp only [login, hexec]
      refine ⟨iff_of_true hcode ?_, fun _ => ?_, fun h => absurd hcode h⟩
      · rw [hbuilt, hrefused]
        exact e.toCInt_neg.ne
      · simp only [login, hexec]
        exact ⟨by simp, rfl⟩
  · rcases @decoders_agree P record hrecord with ⟨creds, hcreds, -, -⟩ | ⟨e, hrefused, -, -⟩
    · intro output
      have houtput : output = record := (buildCredentials_ok hbuild rfl hcreds).2
      refine ⟨houtput, by rw [houtput], fun again fresh' s' hagain hinput => ?_⟩
      rw [houtput] at hinput ⊢
      exact buildCredentials_ok hagain hinput hcreds
    · rw [hbuilt, hrefused] at hzero
      exact absurd hzero e.toCInt_neg.ne

def sampleRecordProcess : Process :=
  { sampleProcess with data := { sampleProcess.data with
      memory := sampleProcess.data.memory.write 1000 (Relay.sampleRecord (zeros _)) } }

theorem record_decoders_agree_sample :
    let s := sampleRecordProcess
    let fresh : Process → ℕ := fun _ => 1
    let built := (opaqueRelayBuildCredentials Sample.primitives ⟨1000, 201, 2000, 201⟩ false).exec
      fresh [] [] s
    let login := (opaqueRelayGenerateKe2 Sample.primitives
      ⟨1, 3000, 1273, 5000, 1, 1000, 201, 6000, 1377, 1⟩ none).exec fresh [] [] s
    built.code = 0 ∧ login.code ≠ ffiCorruptedRecord ∧
      built.shared.data.memory.read 2000 responderCredentialsLength =
        s.data.memory.read 1000 201 := by
  intro s fresh
  have hbuild : ¬ (RelayBuildCredentials.mk 1000 201 2000 201).Malformed := by decide
  have hlength : (Relay.sampleRecord (zeros _)).length = 201 := by
    simp [Relay.sampleRecord, Protocol.encode, -List.reduceReplicate]
  have hread : s.data.memory.read 1000 201 = Relay.sampleRecord (zeros _) := by
    rw [← hlength]
    exact Memory.read_write
  have hzero : ((opaqueRelayBuildCredentials Sample.primitives ⟨1000, 201, 2000, 201⟩ false).exec
      fresh [] [] s).code = 0 := by
    rw [buildCredentials_exec hbuild, hread, Cmd.fill, Relay.sample_builds]
  obtain ⟨hlogins, houtput⟩ := @record_decoders_agree Sample.primitives _ hbuild fresh s
  obtain ⟨hiff, -, -⟩ := hlogins ⟨1, 3000, 1273, 5000, 1, 1000, 201, 6000, 1377, 1⟩ none
    fresh s ⟨by decide, rfl, by decide, rfl, rfl⟩
  obtain ⟨hsame, -⟩ := houtput hzero
  exact ⟨hzero, fun h => hiff.mp h hzero, hsame⟩

end Calls

end AuraOpaque.Ffi
