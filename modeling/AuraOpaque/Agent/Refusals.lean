import AuraOpaque.Agent.Lifecycle

/-!
# What a refused call leaves behind

An error of an operation leaves the session untouched or invalidated, and its
outputs as they were.  The exception among the answers to a registration is one
whose key field is no public key at all: it is refused without ending the
session.
-/

namespace AuraOpaque.Agent

open AuraOpaque.Foundation AuraOpaque.Core

variable {P : Primitives}

/-! ## The checks on a registration response -/

/-- The call gets past the length and the phase. -/
def AdmitsResponse (data : List UInt8) (s : InitiatorState) : Prop :=
  data.length = registrationResponseWireLength ∧ s.phase = .registrationRequested

theorem finalizeChecks_run_of_not_admitted {initiator : OpaqueInitiator} {data : List UInt8}
    {f : Frame RegistrationRecord InitiatorState} (h : ¬ AdmitsResponse data f.state) :
    ∃ e, (finalizeChecks P initiator data).run f = (.err e, f) := by
  rw [finalizeChecks]
  by_cases hlen : data.length = registrationResponseWireLength
  · have hphase : f.state.phase ≠ .registrationRequested := fun hphase => h ⟨hlen, hphase⟩
    exact ⟨.validationError, by
      rw [Cmd.run_bind_ok (by rw [Cmd.run_failIf, Outcome.failIf_neg _ (not_not.mpr hlen)]),
        Cmd.run_bind_ok (Op.run_getState f),
        Cmd.run_bind_err (by rw [Cmd.run_failIf, Outcome.failIf_pos _ hphase])]⟩
  · exact ⟨.invalidProtocolMessage, Cmd.run_bind_err (by
      rw [Cmd.run_failIf, Outcome.failIf_pos _ hlen])⟩

theorem finalizeChecks_run_of_admitted {initiator : OpaqueInitiator} {data : List UInt8}
    {f : Frame RegistrationRecord InitiatorState} (h : AdmitsResponse data f.state) :
    (finalizeChecks P initiator data).run f =
      if lifetimeOver f.state.createdAt (f.world.clock 0) then
        (.err .validationError, { f with state := f.state.invalidate, world := f.world.tick })
      else (do
        let response ← Protocol.parseRegistrationResponse data
        validatePublicKey P response.responderPublicKey
        Cmd.abortIf
          (!constantTimeEq response.responderPublicKey initiator.responderPublicKey.toList)
          (fun f => { f with state := f.state.invalidate }) .authenticationError
        pure response :
        Op RegistrationRecord InitiatorState Protocol.RegistrationResponseRef).run
          { f with world := f.world.tick } := by
  have htimeless : ¬ f.state.Timeless := by simp [InitiatorState.Timeless, h.2]
  rw [finalizeChecks,
    Cmd.run_bind_ok (by rw [Cmd.run_failIf, Outcome.failIf_neg _ (not_not.mpr h.1)]),
    Cmd.run_bind_ok (Op.run_getState f),
    Cmd.run_bind_ok (by rw [Cmd.run_failIf, Outcome.failIf_neg _ (not_not.mpr h.2)])]
  cases hexpired : lifetimeOver f.state.createdAt (f.world.clock 0) with
  | true =>
      rw [Cmd.run_bind_err (by rw [rejectExpired_run htimeless, hexpired, if_pos rfl])]
      rfl
  | false =>
      rw [Cmd.run_bind_ok (by
        rw [rejectExpired_run htimeless, hexpired, if_neg Bool.false_ne_true])]
      rfl

/--
A response is taken, refused without a trace, or ends the session: the last if
the session has expired or the key is a valid one but not the configured one.
-/
theorem finalizeChecks_cases (initiator : OpaqueInitiator) (data : List UInt8)
    (f : Frame RegistrationRecord InitiatorState) :
    (∃ response, AdmitsResponse data f.state ∧
      Protocol.parseRegistrationResponse data = .ok response ∧
      response.responderPublicKey = initiator.responderPublicKey.toList ∧
      (finalizeChecks P initiator data).run f =
        (.ok response, { f with world := f.world.tick })) ∨
    (∃ e w, (finalizeChecks P initiator data).run f = (.err e, { f with world := w }) ∧
      (AdmitsResponse data f.state →
        lifetimeOver f.state.createdAt (f.world.clock 0) = false ∧
        ∀ response, Protocol.parseRegistrationResponse data = .ok response →
          validatePublicKey P response.responderPublicKey ≠ .ok ())) ∨
    (∃ e, (finalizeChecks P initiator data).run f =
        (.err e, { f with state := f.state.invalidate, world := f.world.tick }) ∧
      (lifetimeOver f.state.createdAt (f.world.clock 0) = true ∨
        ∃ response, Protocol.parseRegistrationResponse data = .ok response ∧
          validatePublicKey P response.responderPublicKey = .ok () ∧
          response.responderPublicKey ≠ initiator.responderPublicKey.toList)) := by
  by_cases hadmits : AdmitsResponse data f.state
  · rw [finalizeChecks_run_of_admitted hadmits]
    cases hexpired : lifetimeOver f.state.createdAt (f.world.clock 0) with
    | true => exact .inr (.inr ⟨_, rfl, .inl rfl⟩)
    | false =>
        rw [if_neg Bool.false_ne_true]
        rcases Protocol.parseRegistrationResponse_reads.ok_or_err data with
          ⟨response, hparse⟩ | ⟨e, hparse⟩
        · rcases validatePublicKey_cases P response.responderPublicKey with hvalid | hinvalid
          · rw [Cmd.run_bind_ok (by rw [Cmd.run_liftM, hparse]),
              Cmd.run_bind_ok (by rw [Cmd.run_liftM, hvalid])]
            by_cases hkey : response.responderPublicKey = initiator.responderPublicKey.toList
            · refine .inl ⟨response, hadmits, hparse, hkey, ?_⟩
              rw [Cmd.run_bind_ok (by
                rw [Cmd.run_abortIf, hkey, constantTimeEq_self, if_neg (by decide)])]
              rfl
            · refine .inr (.inr ⟨.authenticationError, ?_, .inr ⟨response, hparse, hvalid, hkey⟩⟩)
              rw [Cmd.run_bind_err (by
                rw [Cmd.run_abortIf, constantTimeEq_eq_false_iff.mpr hkey, if_pos (by decide)])]
          · refine .inr (.inl ⟨.invalidPublicKey, f.world.tick, ?_, fun _ => ⟨rfl, ?_⟩⟩)
            · rw [Cmd.run_bind_ok (by rw [Cmd.run_liftM, hparse]),
                Cmd.run_bind_err (by rw [Cmd.run_liftM, hinvalid])]
            · intro r hr hvalid
              rw [hparse] at hr
              cases hr
              rw [hinvalid] at hvalid
              cases hvalid
        · refine .inr (.inl ⟨e, f.world.tick, ?_, fun _ => ⟨rfl, ?_⟩⟩)
          · rw [Cmd.run_bind_err (by rw [Cmd.run_liftM, hparse])]
          · intro r hr
            rw [hparse] at hr
            cases hr
  · obtain ⟨e, hrun⟩ := finalizeChecks_run_of_not_admitted hadmits
    exact .inr (.inl ⟨e, f.world, hrun, fun h => absurd h hadmits⟩)

/-! ## Answers of another relay -/

def responderKeyField (data : List UInt8) : List UInt8 :=
  data.drop (versionPrefixLength + registrationRequestLength)

variable (P) in
/-- An error, no record, and a session on which no answer is taken any more. -/
def RefusedForGood (initiator : OpaqueInitiator) (data : List UInt8)
    (f : Frame RegistrationRecord InitiatorState) : Prop :=
  ∃ e f', (finalizeRegistration P initiator data).run f = (.err e, f') ∧ f'.out = f.out ∧
    f'.state = f'.state.invalidate ∧ ∀ initiator' data' record w,
      ((finalizeRegistration P initiator' data').run ⟨record, f'.state, w⟩).1.isOk = false

theorem finalizeRegistration_refused_of_finished (initiator : OpaqueInitiator)
    (data : List UInt8) {f : Frame RegistrationRecord InitiatorState}
    (h : f.state.phase = .finished) :
    ((finalizeRegistration P initiator data).run f).1.isOk = false := by
  rcases finalizeRegistration_ends P initiator data f _ _ rfl with ⟨-, hsource, -⟩ | ⟨hfail, -⟩
  · rw [h] at hsource
    cases hsource
  · exact hfail

theorem parseRegistrationResponse_of_bytes {data : List UInt8}
    (hlen : data.length = registrationResponseWireLength)
    (hversion : data.head? = some protocolVersion) :
    ∃ response, Protocol.parseRegistrationResponse data = .ok response ∧
      response.responderPublicKey = responderKeyField data := by
  obtain ⟨response, hparse⟩ := Protocol.parseRegistrationResponse_reads.exists_ok hlen
    (Protocol.checkVersion_of_head hversion)
  obtain ⟨hsized, hdata⟩ := Protocol.parseRegistrationResponse_reads.eq_ok_iff.mp hparse
  simp only [Protocol.Sized, List.map_cons, List.map_nil, List.cons.injEq, and_true] at hsized
  refine ⟨response, hparse, ?_⟩
  rw [hdata, responderKeyField, Protocol.encode, versionPrefixLength, ← hsized.1, Nat.add_comm,
    List.flatten_cons, List.singleton_append, List.drop_succ_cons]
  simp

/--
A response under another key than the configured one ends the session exactly
when its key field is a public key.
-/
theorem wrong_server_terminal_iff {initiator : OpaqueInitiator} {data : List UInt8}
    {f : Frame RegistrationRecord InitiatorState} (hphase : f.state.phase = .registrationRequested)
    (hunexpired : lifetimeOver f.state.createdAt (f.world.clock 0) = false)
    (hlen : data.length = registrationResponseWireLength)
    (hversion : data.head? = some protocolVersion)
    (hkey : responderKeyField data ≠ initiator.responderPublicKey.toList) :
    RefusedForGood P initiator data f ↔ validatePublicKey P (responderKeyField data) = .ok () := by
  obtain ⟨response, hparse, hfield⟩ := parseRegistrationResponse_of_bytes hlen hversion
  rw [← hfield] at hkey ⊢
  rcases finalizeChecks_cases initiator data f with
    ⟨response', -, hparse', hsame, -⟩ | ⟨e, w, hrun, hwhy⟩ | ⟨e, hrun, hwhy⟩
  · cases hparse.symm.trans hparse'
    exact absurd hsame hkey
  · refine iff_of_false ?_ ((hwhy ⟨hlen, hphase⟩).2 response hparse)
    rintro ⟨e', f', hrefused, -, hinvalid, -⟩
    rw [finalizeRegistration, Cmd.run_bind_err hrun] at hrefused
    cases hrefused
    have hfinished := congrArg InitiatorState.phase hinvalid
    rw [hphase] at hfinished
    cases hfinished
  · refine iff_of_true ?_ ?_
    · refine ⟨e, { f with state := f.state.invalidate, world := f.world.tick }, ?_, rfl, rfl,
        fun _ _ _ _ => finalizeRegistration_refused_of_finished _ _ rfl⟩
      rw [finalizeRegistration, Cmd.run_bind_err hrun]
    · rcases hwhy with hexpired | ⟨response', hparse', hvalid, -⟩
      · rw [hunexpired] at hexpired
        cases hexpired
      · cases hparse.symm.trans hparse'
        exact hvalid

/-! ### On the small instance -/

def sampleInitiator : OpaqueInitiator where
  responderPublicKey := Sample.encode 31 1

theorem new_sampleInitiator : OpaqueInitiator.new Sample.primitives
    sampleInitiator.responderPublicKey.toList = .ok sampleInitiator := by
  have hvalid : validatePublicKey Sample.primitives sampleInitiator.responderPublicKey.toList =
      .ok () :=
    (validatePublicKey_eq_ok_iff Sample.primitives).mpr
      ⟨(1 : ZMod 5), (by decide : (1 : ZMod 5) ≠ 0), rfl⟩
  rw [OpaqueInitiator.new, hvalid, Outcome.ok_bind, copyFromSlice_toList]
  rfl

theorem exists_sampleRequested : ∃ (d : RegistrationDraws Sample.primitives) (s : InitiatorState),
    d.Awaits [1] s ∧ lifetimeOver s.createdAt ((Sample.world 0).clock 0) = false := by
  have hadmissible : Admissible Sample.primitives [1] :=
    ⟨rfl, by simp, (by decide : (1 : ZMod 5) ≠ 0)⟩
  obtain ⟨d, s, w, hs, hcreated, -, -, -⟩ := @createRegistrationRequest_run Sample.primitives [1]
    ⟨.new, .newAt 0, Sample.world 0⟩ hadmissible rfl (Sample.world_neverExhausted 0)
  exact ⟨d, s, hs, by simp [hcreated, Sample.world, lifetimeOver]⟩

theorem wrong_server_terminal_sample : ∃ f : Frame RegistrationRecord InitiatorState,
    f.state.phase = .registrationRequested ∧
      RefusedForGood Sample.primitives sampleInitiator
        (Protocol.encode [(zeros publicKeyLength).toList, (Sample.encode 31 2).toList]) f := by
  obtain ⟨d, s, hs, hunexpired⟩ := exists_sampleRequested
  have hvalid : validatePublicKey Sample.primitives (Sample.encode 31 2).toList = .ok () :=
    (validatePublicKey_eq_ok_iff _).mpr ⟨(2 : ZMod 5), (by decide : (2 : ZMod 5) ≠ 0), rfl⟩
  exact ⟨⟨.new, s, Sample.world 0⟩, hs.phase,
    (wrong_server_terminal_iff hs.phase hunexpired rfl rfl (by decide)).mpr hvalid⟩

/-- A key field of zeros is refused, and the answer of the configured relay still taken. -/
theorem malformed_key_not_terminal : ∃ f f' : Frame RegistrationRecord InitiatorState,
    f.state.phase = .registrationRequested ∧
      lifetimeOver f.state.createdAt (f.world.clock 0) = false ∧
      (finalizeRegistration Sample.primitives sampleInitiator
        (Protocol.encode [(zeros publicKeyLength).toList, (zeros publicKeyLength).toList])).run f =
          (.err .invalidPublicKey, f') ∧ f'.state = f.state ∧
      ∃ data, ((finalizeRegistration Sample.primitives sampleInitiator data).run f').1.isOk := by
  obtain ⟨d, s, hs, hunexpired⟩ := exists_sampleRequested
  have hone : (1 : ZMod 5) ≠ 0 := by decide
  have hadmits : AdmitsResponse
      (Protocol.encode [(zeros publicKeyLength).toList, (zeros publicKeyLength).toList]) s :=
    ⟨rfl, hs.phase⟩
  have hrefused : (finalizeChecks Sample.primitives sampleInitiator
      (Protocol.encode [(zeros publicKeyLength).toList, (zeros publicKeyLength).toList])).run
        ⟨.new, s, Sample.world 0⟩ = (.err .invalidPublicKey, ⟨.new, s, Sample.world 0⟩) := by
    rw [finalizeChecks_run_of_admitted hadmits, hunexpired, if_neg Bool.false_ne_true]
    rfl
  refine ⟨⟨.new, s, Sample.world 0⟩, ⟨.new, s, Sample.world 0⟩, hs.phase, hunexpired,
    by rw [finalizeRegistration, Cmd.run_bind_err hrefused], rfl, ?_⟩
  -- the configured relay evaluates with the key one
  have hfinalize := @Oprf.finalize_blinded Sample.primitives [1] d.blind (1 : ZMod 5) rfl
    d.blind_ne_zero hone hone
  obtain ⟨randomizedPwd, hstretch⟩ := @deriveRandomizedPassword_ok Sample.primitives
    Sample.primitives_correct _ [1]
    (isEmpty_toList (by decide) (Oprf.output Sample.primitives (1 : ZMod 5) [1])) rfl
  obtain ⟨_, _, _, _, -, hgenuine⟩ := @finalizeRegistration_run Sample.primitives
    Sample.primitives_correct sampleInitiator [1] _ d _ ⟨.new, s, Sample.world 0⟩ _ _ hs
    ⟨hs.phase, hunexpired, ⟨(1 : ZMod 5), hone, rfl⟩, rfl⟩ hfinalize hstretch
  exact ⟨_, by rw [hgenuine]; rfl⟩

/-! ## Answers that do not open -/

section Unopened

variable {initiator : OpaqueInitiator} {ke2Data password accountId : List UInt8}
  {f : Frame Ke3Message InitiatorState}

/-- An answer that is given up at its envelope ends the session. -/
theorem generateKe3_run_of_recover {ke2 : Protocol.Ke2Ref} {evaluated : Bytes publicKeyLength}
    {masked : List UInt8} {oprfOutput randomizedPwd : Bytes hashLength} {e : OpaqueError}
    (hlen : ke2Data.length = ke2Length) (hawaits : AwaitsKe2 f)
    (hread : readKe2 P initiator ke2Data = .ok ke2)
    (hresponse : ke2.credentialResponse = evaluated.toList ++ masked)
    (hpassword : f.state.HoldsPassword password)
    (hfinalize : Oprf.finalize P password f.state.obliviousPrfBlindScalar evaluated =
      .ok oprfOutput)
    (hstretch : deriveRandomizedPassword P oprfOutput.toList password hashLength =
      .ok randomizedPwd)
    (hrecover : recoverKeys P initiator ke2 f.state.accountContextHash randomizedPwd
      evaluated.toList masked = .err e) :
    (generateKe3 P initiator ke2Data).run f =
      (.err e, { f with state := f.state.withoutPassword.invalidate, world := f.world.tick }) := by
  obtain ⟨hevaluated, hmasked⟩ := slice_credentialResponse hresponse
  have hpwd := @recoverRandomizedPwd_run P { f with world := f.world.tick } _ _ _ _ hpassword
    hfinalize hstretch
  have hrefused : recoverKeys P initiator ke2 f.state.withoutPassword.accountContextHash
      randomizedPwd evaluated.toList masked = .err e := hrecover
  have hderive : (ke3Derive P initiator ke2Data).run { f with world := f.world.tick } =
      (.err e, { f with state := f.state.withoutPassword, world := f.world.tick }) := by
    rw [ke3Derive, Cmd.run_bind_ok (by rw [Cmd.run_liftM, hread]),
      Cmd.run_bind_ok (by rw [Cmd.run_lift, hevaluated]),
      Cmd.run_bind_ok (by rw [Cmd.run_lift, hmasked]), Cmd.run_bind_ok hpwd,
      Cmd.run_bind_ok (Op.run_getState _), Cmd.run_bind_err (by rw [Cmd.run_liftM, hrefused])]
  have htraced : (generateKe3Traced P initiator ke2Data).run f =
      (.err e, { f with state := f.state.withoutPassword.invalidate, world := f.world.tick }) := by
    rw [generateKe3Traced, Cmd.run_bind_ok (ke3Checks_run hlen hawaits),
      Cmd.run_onErr_of_err (by rw [ke3Body, Cmd.run_bind_err hderive])]
  rw [generateKe3, Cmd.run_bind_err htraced]

/-- Whatever key it is tried with, the cipher does not open the envelope. -/
def Unopenable (P : Primitives) (nonce : Bytes nonceLength)
    (ciphertext : Bytes Envelope.plaintextLen) (authTag : Bytes secretboxMacLength) : Prop :=
  ∀ key, P.aeadDecrypt key nonce (authTag.toList ++ ciphertext.toList) = none

theorem openKeys_of_unopenable {nonce : Bytes nonceLength}
    {ciphertext : Bytes Envelope.plaintextLen} {authTag : Bytes secretboxMacLength}
    (h : Unopenable P nonce ciphertext authTag) (randomizedPwd : Bytes hashLength) :
    openKeys P initiator randomizedPwd nonce.toList ciphertext.toList authTag.toList =
      .err .authenticationError := by
  rcases Envelope.openRaw_cases P (isEmpty_toList (by decide) randomizedPwd)
    initiator.responderPublicKey nonce ciphertext authTag Envelope.Opened.zeroed with
    ⟨-, hrun⟩ | ⟨decrypted, hopens, -⟩
  · rw [openKeys, Cmd.fill, hrun]
    rfl
  · rw [h] at hopens
    cases hopens

/-- A session that waits can be answered with such an envelope, and is then over. -/
theorem exists_unopened {d : LoginDraws P} (hs : d.Awaits password accountId f.state)
    (hawaits : AwaitsKe2 f) (hpassword : password.isEmpty = false)
    (hconfigured : validatePublicKey P initiator.responderPublicKey.toList = .ok ())
    (hstretch : ∀ oprfOutput : Bytes hashLength, ∃ randomizedPwd,
      deriveRandomizedPassword P oprfOutput.toList password hashLength = .ok randomizedPwd ∧
        isAllZero (maskingKeyOf P randomizedPwd).toList = false)
    {nonce : Bytes nonceLength} {ciphertext : Bytes Envelope.plaintextLen}
    {authTag : Bytes secretboxMacLength} (hcipher : Unopenable P nonce ciphertext authTag) :
    ∃ ke2Data, ke2Data.length = ke2Length ∧ ke2Data.head? = some protocolVersion ∧
      (generateKe3 P initiator ke2Data).run f =
        (.err .authenticationError,
          { f with state := f.state.withoutPassword.invalidate, world := f.world.tick }) := by
  have hpoint : P.group.basepoint ≠ 0 := P.group.basepoint_ne_zero
  have hfinalize := Oprf.finalize_compress P hpassword d.blind_ne_zero hpoint
  rw [← hs.blindScalar] at hfinalize
  obtain ⟨randomizedPwd, hpwd, hkey⟩ := hstretch _
  -- the mask of the answer is the pad that the client takes off
  let evaluated := P.group.compress P.group.basepoint
  let masked := xorBytes (Envelope.joined nonce ciphertext authTag)
    (credentialPad P (maskingKeyOf P randomizedPwd) (zeros nonceLength).toList evaluated.toList
      f.state.accountContextHash)
  let fields := [(zeros nonceLength).toList, evaluated.toList,
    evaluated.toList ++ masked.toList, (zeros macLength).toList,
    (zeros kemCiphertextLength).toList]
  have hsized : Protocol.Sized Protocol.ke2FieldLengths fields := by
    simp only [fields, Protocol.Sized, List.map_cons, List.map_nil, List.Vector.toList_length,
      List.length_append]
    rfl
  obtain ⟨ke2, hfields, hparse⟩ := Protocol.parseKe2_reads.encode fields hsized
  obtain ⟨hnonce, hkey', hresponse, -⟩ :
      ke2.responderNonce = (zeros nonceLength).toList ∧
        ke2.responderPublicKey = evaluated.toList ∧
        ke2.credentialResponse = evaluated.toList ++ masked.toList ∧ _ := by
    simpa only [fields, Protocol.Ke2Ref.fields, List.cons.injEq] using hfields
  have hvalid : validatePublicKey P ke2.responderPublicKey = .ok () :=
    (validatePublicKey_eq_ok_iff P).mpr ⟨_, hpoint, hkey'⟩
  have hread : readKe2 P initiator (Protocol.encode fields) = .ok ke2 := by
    rw [readKe2, hconfigured, Outcome.ok_bind, hparse, Outcome.ok_bind, hvalid]
    rfl
  have hrecover := @recoverKeys_of_joined P initiator ke2 f.state.accountContextHash randomizedPwd
    evaluated.toList masked nonce ciphertext authTag hkey (by rw [hnonce]; simp)
    evaluated.toList_length hawaits.accountContextHash (by rw [hnonce]; exact xorBytes_cancel _ _)
  rw [openKeys_of_unopenable hcipher] at hrecover
  have hlength := hsized.encode_length
  exact ⟨_, hlength, rfl, generateKe3_run_of_recover hlength hawaits hread hresponse hs.holds
    hfinalize hpwd hrecover⟩

end Unopened
/-! ## Errors of the operations -/

def UntouchedOrInvalid (s t : InitiatorState) : Prop := t = s ∨ t = t.invalidate

theorem createRegistrationRequest_error {password : List UInt8} {e : OpaqueError}
    {f f' : Frame RegistrationRequest InitiatorState} (hw : World.NeverExhausted P f.world)
    (hpoint : Oprf.inputPoint P password ≠ 0)
    (hrun : (createRegistrationRequest P password).run f = (.err e, f')) : f'.state = f.state := by
  rw [createRegistrationRequest, registrationRequestChecks, Cmd.bind_assoc] at hrun
  by_cases hpassword : password.isEmpty ∨ maxSecureKeyLength < password.length
  · rw [Cmd.run_bind_err (by rw [Cmd.run_failIf, Outcome.failIf_pos _ hpassword])] at hrun
    cases hrun
    rfl
  · by_cases hphase : f.state.phase = .created
    · rw [not_or, Bool.not_eq_true, not_lt] at hpassword
      obtain ⟨d, s, w, -, -, -, -, hok⟩ :=
        createRegistrationRequest_run ⟨hpassword.1, hpassword.2, hpoint⟩ hphase hw
      rw [← Cmd.bind_assoc, ← registrationRequestChecks, ← createRegistrationRequest, hok] at hrun
      cases hrun
    · rw [Cmd.run_bind_ok (by rw [Cmd.run_failIf, Outcome.failIf_neg _ hpassword]), Cmd.bind_assoc,
        Cmd.run_bind_ok (Op.run_getState f), Cmd.bind_assoc,
        Cmd.run_bind_err (by rw [Cmd.run_failIf, Outcome.failIf_pos _ hphase])] at hrun
      cases hrun
      rfl

theorem generateKe1_error {password accountId : List UInt8} {e : OpaqueError}
    {f f' : Frame Ke1Message InitiatorState} (hw : World.NeverExhausted P f.world)
    (hpoint : Oprf.inputPoint P password ≠ 0)
    (hrun : (generateKe1 P password accountId).run f = (.err e, f')) : f'.state = f.state := by
  rw [generateKe1, ke1Checks, Cmd.bind_assoc] at hrun
  by_cases hpassword : password.isEmpty ∨ maxSecureKeyLength < password.length
  · rw [Cmd.run_bind_err (by rw [Cmd.run_failIf, Outcome.failIf_pos _ hpassword])] at hrun
    cases hrun
    rfl
  by_cases haccount : accountId.isEmpty
  · rw [Cmd.run_bind_ok (by rw [Cmd.run_failIf, Outcome.failIf_neg _ hpassword]), Cmd.bind_assoc,
      Cmd.run_bind_err (by rw [Cmd.run_failIf, Outcome.failIf_pos _ haccount])] at hrun
    cases hrun
    rfl
  by_cases hphase : f.state.phase = .created
  · rw [not_or, Bool.not_eq_true, not_lt] at hpassword
    obtain ⟨d, s, w, -, -, -, -, hok⟩ := generateKe1_run ⟨hpassword.1, hpassword.2, hpoint⟩
      (Bool.not_eq_true _ ▸ haccount) hphase hw
    rw [← Cmd.bind_assoc, ← ke1Checks, ← generateKe1, hok] at hrun
    cases hrun
  · rw [Cmd.run_bind_ok (by rw [Cmd.run_failIf, Outcome.failIf_neg _ hpassword]), Cmd.bind_assoc,
      Cmd.run_bind_ok (by rw [Cmd.run_failIf, Outcome.failIf_neg _ haccount]), Cmd.bind_assoc,
      Cmd.run_bind_ok (Op.run_getState f), Cmd.bind_assoc,
      Cmd.run_bind_err (by rw [Cmd.run_failIf, Outcome.failIf_pos _ hphase])] at hrun
    cases hrun
    rfl

theorem sealEnvelope_total (hP : Envelope.EncryptionTotal P) (randomizedPwd : Bytes hashLength)
    (keys : Envelope.Opened) :
    Cmd.Total (sealEnvelope P randomizedPwd.toList keys.responderPublicKey
      keys.initiatorPrivateKey keys.initiatorPublicKey) := by
  intro f
  obtain ⟨ciphertext, authTag, hencrypt⟩ := hP.exists_parts
    (Envelope.envelopeKey P keys.responderPublicKey randomizedPwd.toList)
    (World.window f.world.tape nonceLength) keys
  refine ⟨⟨(World.window f.world.tape nonceLength).toList, ciphertext.toList, authTag.toList⟩,
    { f with world := f.world.advance nonceLength }, ?_⟩
  rw [sealEnvelope, Cmd.run_zoom, Cmd.run_bind_ok (Envelope.seal_eq P
    (isEmpty_toList (by decide) randomizedPwd) keys Envelope.new_nonce_length f.world hencrypt)]
  rfl

/-- Once the password is erased, nothing can fail any more. -/
theorem finalizeBody_failsIn (hP : Envelope.EncryptionTotal P)
    {response : Protocol.RegistrationResponseRef}
    (hkey : response.responderPublicKey.length = publicKeyLength)
    (I : Frame RegistrationRecord InitiatorState → Prop) :
    Cmd.FailsIn I (finalizeBody P response) := by
  refine .bind (fun _ hf => hf) fun state => .bind (.bind (fun _ hf => hf) fun _ _ hf => hf)
    fun secureKey => ?_
  refine .bind (fun _ hf => hf) fun evaluated => .bind (.lift _) fun oprfOutput => ?_
  refine .bind (.lift _) fun randomizedPwd => .of_total ?_
  refine .bind (fun _ => ⟨_, _, rfl⟩) fun _ => .bind (fun f => ?_) fun rpk => ?_
  · exact ⟨_, f, by rw [Cmd.run_okOr, tryInto_eq_some hkey, Outcome.okOr_some]⟩
  refine .bind (sealEnvelope_total hP randomizedPwd ⟨rpk, _, _⟩) fun env => ?_
  refine .bind (fun _ => ⟨_, _, rfl⟩) fun _ => .bind (fun f => ?_) fun maskingKey => ?_
  · exact ⟨_, f, by rw [Cmd.run_liftM, deriveMaskingKey_of]⟩
  exact .bind (fun _ => ⟨_, _, rfl⟩) fun _ _ => ⟨_, _, rfl⟩

theorem finalizeRegistration_error (hP : Envelope.EncryptionTotal P) {initiator : OpaqueInitiator}
    {data : List UInt8} {e : OpaqueError} {f f' : Frame RegistrationRecord InitiatorState}
    (hrun : (finalizeRegistration P initiator data).run f = (.err e, f')) :
    f'.out = f.out ∧ UntouchedOrInvalid f.state f'.state := by
  rw [finalizeRegistration] at hrun
  rcases finalizeChecks_cases initiator data f with
    ⟨response, -, hparse, -, hpass⟩ | ⟨e', w, hfail, -⟩ | ⟨e', hinvalid, -⟩
  · have hsized := (Protocol.parseRegistrationResponse_reads.eq_ok_iff.mp hparse).1
    simp only [Protocol.Sized, List.map_cons, List.map_nil, List.cons.injEq, and_true] at hsized
    have hfails : Cmd.FailsIn (fun g => g.out = f.out ∧ g.state = f.state) (do
        finalizeBody P response
        eraseSecureKey
        Op.modifyState fun s => { s with initiatorPrivateKey := zeros _ }
        Op.modifyState fun s => { s with phase := .registrationFinalized }) := by
      intro g hg e' he
      rcases hbody : (finalizeBody P response).run g with ⟨u | e'' | _, g'⟩
      · rw [Cmd.run_bind_ok hbody] at he
        cases he
      · rw [Cmd.run_bind_err hbody]
        have hsame := finalizeBody_failsIn hP hsized.2
          (fun g => g.out = f.out ∧ g.state = f.state) g hg e''
        rw [hbody] at hsame
        exact hsame rfl
      · rw [Cmd.run_bind_panic hbody] at he
        cases he
    rw [Cmd.run_bind_ok hpass] at hrun
    have hsame := hfails { f with world := f.world.tick } ⟨rfl, rfl⟩ e (by rw [hrun])
    rw [hrun] at hsame
    exact ⟨hsame.1, .inl hsame.2⟩
  · rw [Cmd.run_bind_err hfail] at hrun
    cases hrun
    exact ⟨rfl, .inl rfl⟩
  · rw [Cmd.run_bind_err hinvalid] at hrun
    cases hrun
    exact ⟨rfl, .inr rfl⟩

theorem generateKe3_error {initiator : OpaqueInitiator} {ke2Data : List UInt8} {e : OpaqueError}
    {f f' : Frame Ke3Message InitiatorState}
    (hrun : (generateKe3 P initiator ke2Data).run f = (.err e, f')) :
    f'.out = f.out ∧ UntouchedOrInvalid f.state f'.state := by
  rw [generateKe3, generateKe3Traced] at hrun
  rcases ke3Checks_cases ke2Data f with ⟨-, -, hpass⟩ | ⟨e', w, -, hfail⟩ | ⟨-, -, -, hexpired⟩
  · have hfails : Cmd.FailsIn (fun g => g.out = f.out) (ke3Body P initiator ke2Data) :=
      .bind (ke3Derive_preserves P initiator ke2Data (fun _ hg => hg) (fun _ hg => hg)
        fun _ _ hg => hg) fun _ => .of_total fun _ => ⟨_, _, rfl⟩
    have hout := hfails { f with world := f.world.tick } rfl
    rcases hbody : (ke3Body P initiator ke2Data).run { f with world := f.world.tick } with
      ⟨r | e' | _, g⟩ <;> rw [hbody] at hout
    · simp [Cmd.run_bind, hpass, Cmd.onErr, hbody] at hrun
    · simp only [Cmd.run_bind, hpass, Cmd.onErr, hbody] at hrun
      cases hrun
      exact ⟨hout _ rfl, .inr rfl⟩
    · simp [Cmd.run_bind, hpass, Cmd.onErr, hbody] at hrun
  · simp only [Cmd.run_bind, hfail] at hrun
    cases hrun
    exact ⟨rfl, .inl rfl⟩
  · simp only [Cmd.run_bind, hexpired] at hrun
    cases hrun
    exact ⟨rfl, .inr rfl⟩

theorem initiatorFinish_error {e : OpaqueError} {f f' : Frame SessionOutput InitiatorState}
    (hrun : initiatorFinish.run f = (.err e, f')) :
    f'.out = f.out ∧ UntouchedOrInvalid f.state f'.state := by
  rcases initiatorFinish_cases f with ⟨-, h⟩ | ⟨-, -, h⟩ | ⟨-, -, s', -, h⟩ <;>
    rw [h] at hrun <;> cases hrun
  · exact ⟨rfl, .inl rfl⟩
  · exact ⟨rfl, .inr rfl⟩

/--
An error leaves the session untouched or invalidated, and the record, the third
message and the two keys as they were.
-/
theorem client_error_atomic {w : World} (hscalars : World.NeverExhausted P w)
    (hpoints : ∀ password, Oprf.inputPoint P password ≠ 0)
    (hencryption : Envelope.EncryptionTotal P) (s : InitiatorState) :
    (∀ call e t, Call.exec P call s w = (.err e, t) → UntouchedOrInvalid s t) ∧
    (∀ initiator response record e f',
      (finalizeRegistration P initiator response).run ⟨record, s, w⟩ = (.err e, f') →
        f'.out = record) ∧
    (∀ initiator ke2Data ke3 e f',
      (generateKe3 P initiator ke2Data).run ⟨ke3, s, w⟩ = (.err e, f') → f'.out = ke3) ∧
    ∀ output e f', initiatorFinish.run ⟨output, s, w⟩ = (.err e, f') → f'.out = output := by
  refine ⟨?_, fun _ _ _ _ _ h => (finalizeRegistration_error hencryption h).1,
    fun _ _ _ _ _ h => (generateKe3_error h).1, fun _ _ _ h => (initiatorFinish_error h).1⟩
  intro call e t hexec
  cases call with
  | createRegistrationRequest password request =>
      obtain ⟨he, rfl⟩ := Prod.mk.inj hexec
      exact .inl (createRegistrationRequest_error (f := ⟨request, s, w⟩) hscalars (hpoints password)
        (Prod.ext he rfl))
  | finalizeRegistration initiator response record =>
      obtain ⟨he, rfl⟩ := Prod.mk.inj hexec
      exact (finalizeRegistration_error hencryption (Prod.ext he rfl)).2
  | generateKe1 password accountId ke1 =>
      obtain ⟨he, rfl⟩ := Prod.mk.inj hexec
      exact .inl (generateKe1_error (f := ⟨ke1, s, w⟩) hscalars (hpoints password)
        (Prod.ext he rfl))
  | generateKe3 initiator ke2Data ke3 =>
      obtain ⟨he, rfl⟩ := Prod.mk.inj hexec
      exact (generateKe3_error (f := ⟨ke3, s, w⟩) (Prod.ext he rfl)).2
  | initiatorFinish output =>
      obtain ⟨he, rfl⟩ := Prod.mk.inj hexec
      exact (initiatorFinish_error (f := ⟨output, s, w⟩) (Prod.ext he rfl)).2
  | invalidate => cases hexec
  | zeroize => cases hexec

/-- The bytes of the tag behind the first one are not zeros. -/
theorem sample_unopenable : Unopenable Sample.primitives (zeros nonceLength)
    (zeros Envelope.plaintextLen) (List.Vector.replicate secretboxMacLength 1) := by
  intro key
  simp only [Sample.primitives]
  rw [if_neg]
  intro h
  have hsecond := congrArg (fun bytes : List UInt8 => bytes.getD 1 0) h
  exact absurd hsecond (by decide)

theorem sample_stretches {password : List UInt8} (hpassword : password.isEmpty = false)
    (oprfOutput : Bytes hashLength) : ∃ randomizedPwd,
    deriveRandomizedPassword Sample.primitives oprfOutput.toList password hashLength =
        .ok randomizedPwd ∧
      isAllZero (maskingKeyOf Sample.primitives randomizedPwd).toList = false := by
  obtain ⟨randomizedPwd, hstretch⟩ := @deriveRandomizedPassword_ok Sample.primitives
    Sample.primitives_correct _ password (isEmpty_toList (by decide) oprfOutput) hpassword
  exact ⟨randomizedPwd, hstretch,
    isAllZero_toList_eq_false_iff.mpr (Sample.hkdfExpand_ne_zero _ _ _)⟩

theorem exists_sampleWaiting : ∃ (d : LoginDraws Sample.primitives) (s : InitiatorState),
    d.Awaits [1] [1] s ∧ AwaitsKe2 ⟨.new, s, Sample.world 0⟩ := by
  have hadmissible : Admissible Sample.primitives [1] :=
    ⟨rfl, by simp, (by decide : (1 : ZMod 5) ≠ 0)⟩
  obtain ⟨d, s, w, hs, hcreated, -, -, -⟩ := @generateKe1_run Sample.primitives [1] [1]
    ⟨.new, .newAt 0, Sample.world 0⟩ hadmissible rfl rfl (Sample.world_neverExhausted 0)
  refine ⟨d, s, hs, hs.phase, by simp [hcreated, Sample.world, lifetimeOver], ?_⟩
  rw [hs.accountContextHash]
  exact isAllZero_toList_eq_false_iff.mpr (Sample.digest_ne_zero _)

/-- The answer of another server. -/
def sampleOtherServer : List UInt8 :=
  Protocol.encode [(zeros publicKeyLength).toList, (Sample.encode 31 2).toList]

/--
A registration is answered by another server, and a login with an envelope that
does not open: both sessions are over.  Out of turn, nothing happens.
-/
theorem client_error_atomic_sample : ∃ (requested waiting : InitiatorState) (ke2Data : List UInt8)
    (f : Frame RegistrationRecord InitiatorState) (g : Frame Ke3Message InitiatorState)
    (k : Frame SessionOutput InitiatorState),
    requested.phase = .registrationRequested ∧ waiting.phase = .ke1Generated ∧
    (finalizeRegistration Sample.primitives sampleInitiator sampleOtherServer).run
      ⟨.new, requested, Sample.world 0⟩ = (.err .authenticationError, f) ∧
    f.out = .new ∧ f.state ≠ requested ∧ UntouchedOrInvalid requested f.state ∧
    (generateKe3 Sample.primitives sampleInitiator ke2Data).run ⟨.new, waiting, Sample.world 0⟩ =
      (.err .authenticationError, g) ∧
    g.out = .new ∧ g.state ≠ waiting ∧ UntouchedOrInvalid waiting g.state ∧
    initiatorFinish.run ⟨⟨zeros _, zeros _⟩, waiting, Sample.world 0⟩ =
      (.err .validationError, k) ∧
    k.out = ⟨zeros _, zeros _⟩ ∧ k.state = waiting := by
  have hencryption : Envelope.EncryptionTotal Sample.primitives := by
    intro key nonce plaintext
    exact ⟨Sample.tag plaintext ++ plaintext, rfl, by simp [Sample.tag]; omega⟩
  have hatomic := @client_error_atomic Sample.primitives _ (Sample.world_neverExhausted 0)
    (fun _ => (by decide : (1 : ZMod 5) ≠ 0)) hencryption
  obtain ⟨d, requested, hrequested, hunexpired⟩ := exists_sampleRequested
  obtain ⟨d', waiting, hs, hawaits⟩ := exists_sampleWaiting
  obtain ⟨hsession, hrecord, -, -⟩ := hatomic requested
  obtain ⟨hsession', -, hke3, hkeys⟩ := hatomic waiting
  have hchecks : (finalizeChecks Sample.primitives sampleInitiator sampleOtherServer).run
      ⟨.new, requested, Sample.world 0⟩ = (.err .authenticationError,
        ⟨.new, requested.invalidate, (Sample.world 0).tick⟩) := by
    rw [finalizeChecks_run_of_admitted ⟨rfl, hrequested.phase⟩, hunexpired,
      if_neg Bool.false_ne_true]
    rfl
  have hother : (finalizeRegistration Sample.primitives sampleInitiator sampleOtherServer).run
      ⟨.new, requested, Sample.world 0⟩ = (.err .authenticationError,
        ⟨.new, requested.invalidate, (Sample.world 0).tick⟩) := by
    rw [finalizeRegistration, Cmd.run_bind_err hchecks]
  have hconfigured : validatePublicKey Sample.primitives
      sampleInitiator.responderPublicKey.toList = .ok () :=
    (validatePublicKey_eq_ok_iff _).mpr ⟨(1 : ZMod 5), (by decide : (1 : ZMod 5) ≠ 0), rfl⟩
  obtain ⟨ke2Data, -, -, hunopened⟩ := exists_unopened hs hawaits rfl hconfigured
    (sample_stretches rfl) sample_unopenable
  have hfinish : initiatorFinish.run ⟨⟨zeros _, zeros _⟩, waiting, Sample.world 0⟩ =
      (.err .validationError, ⟨⟨zeros _, zeros _⟩, waiting, Sample.world 0⟩) := by
    rw [initiatorFinish, Cmd.run_bind_ok (Op.run_getState _),
      Cmd.run_bind_err (by rw [Cmd.run_failIf, Outcome.failIf_pos _ (by simp [hs.phase])])]
  have hover : ∀ s t : InitiatorState, s.phase ≠ .finished → t.invalidate ≠ s := by
    rintro s t hphase rfl
    exact hphase rfl
  refine ⟨requested, waiting, ke2Data, _, _, _, hrequested.phase, hs.phase, hother,
    hrecord _ _ _ _ _ hother, hover _ _ (by simp [hrequested.phase]),
    hsession (.finalizeRegistration sampleInitiator sampleOtherServer .new) .authenticationError
      _ ?_, hunopened, hke3 _ _ _ _ _ hunopened, hover _ _ (by simp [hs.phase]),
    hsession' (.generateKe3 sampleInitiator ke2Data .new) .authenticationError _ ?_,
    hfinish, hkeys _ _ _ hfinish, rfl⟩
  · rw [Call.exec, Call.onSession, hother]
  · rw [Call.exec, Call.onSession, hunopened]

end AuraOpaque.Agent
