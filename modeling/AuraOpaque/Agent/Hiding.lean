import AuraOpaque.Agent.Sent
import AuraOpaque.Core.Randomness

/-!
# What a request tells about the password

Nothing.  For any two passwords there is one factor such that, on a tape whose
blind is multiplied by the factor and which is otherwise the same, the second
password is sent as the very message that the first one was.
-/

namespace AuraOpaque.Agent

open AuraOpaque.Foundation AuraOpaque.Core

variable (P : Primitives)

/-- The tapes differ in one draw, and there by a factor in the scalar. -/
structure Reblinds (factor : P.group.Scalar) (offset : ℕ) (tape tape' : ℕ → UInt8) : Prop where
  outside : ∀ i, i < offset ∨ offset + hashLength ≤ i → tape' i = tape i
  scalar : tapeScalar P tape' offset = factor * tapeScalar P tape offset

/--
Whatever the first request sends, the second sends on the tape with the other
blind, and the sessions that they leave have all but the password and the blind
in common.
-/
def SentAlike {Out : Type} (factor : P.group.Scalar)
    (request request' : Op Out InitiatorState Unit) : Prop :=
  ∀ f f', request.run f = (.ok (), f') → ∃ offset, tapeScalar P f.world.tape offset ≠ 0 ∧
    ∀ tape, Reblinds P factor offset f.world.tape tape → ∃ secureKey secureKeyLen blindScalar,
      request'.run { f with world := { f.world with tape } } =
        (.ok (), { f' with state := { f'.state with
          secureKey, secureKeyLen, obliviousPrfBlindScalar := blindScalar } })

/-! ## The blind is drawn last -/

variable {P}

theorem Reblinds.firstScalar {factor : P.group.Scalar} {before k : ℕ} {tape tape' : ℕ → UInt8}
    (h : Reblinds P factor (k * hashLength + before) tape tape') (hfactor : factor ≠ 0)
    (hfirst : FirstScalar P (fun i => tape (i + before)) k) :
    FirstScalar P (fun i => tape' (i + before)) k ∧
      tapeScalar P (fun i => tape' (i + before)) (k * hashLength) =
        factor * tapeScalar P (fun i => tape (i + before)) (k * hashLength) := by
  have hshift : ∀ tape : ℕ → UInt8, tapeScalar P (fun i => tape (i + before)) (k * hashLength) =
      tapeScalar P tape (k * hashLength + before) := by
    intro tape
    simp [tapeScalar, Nat.add_assoc]
  have hscalar : tapeScalar P (fun i => tape' (i + before)) (k * hashLength) =
      factor * tapeScalar P (fun i => tape (i + before)) (k * hashLength) := by
    rw [hshift, hshift, h.scalar]
  refine ⟨hfirst.congr (fun i hi => h.outside (i + before) (.inl (by omega))) ?_, hscalar⟩
  rw [hscalar]
  exact mul_ne_zero hfactor hfirst.accepted

section Ke1

variable {password accountId : List UInt8} {f f' : Frame Ke1Message InitiatorState}

/-- The blind of a first message lies behind the ephemeral scalar, the KEM seed and the nonce. -/
def ke1BlindStart (m : ℕ) : ℕ := nonceLength + (64 + (m + 1) * hashLength)

/-- What `generateKe1` leaves when it finds its scalars at the draws `m` and `k`. -/
def ke1Sent (P : Primitives) (password accountId : List UInt8)
    (buffer : Bytes maxSecureKeyLength) (f : Frame Ke1Message InitiatorState) (m k : ℕ) :
    Frame Ke1Message InitiatorState :=
  let ephemeral := tapeScalar P f.world.tape (m * hashLength)
  let afterEphemeral := f.world.advance ((m + 1) * hashLength)
  let kemSeed := World.window afterEphemeral.tape 64
  let nonce := World.window (afterEphemeral.advance 64).tape nonceLength
  let blind := tapeScalar P (f.world.advance (ke1BlindStart m)).tape (k * hashLength)
  let (dk, ek) := P.kem.generateKeypair kemSeed
  { out :=
      { initiatorNonce := nonce
        initiatorPublicKey := P.group.compress (ephemeral • P.group.basepoint)
        credentialRequest := P.group.compress (blind • Oprf.inputPoint P password)
        pqEphemeralPublicKey := P.kem.ekToBytes ek }
    state :=
      { f.state with
        phase := .ke1Generated
        createdAt := f.world.clock 0
        secureKey := buffer
        secureKeyLen := password.length
        accountContextHash := sha512Multi P [Labels.accountContextBinding, accountId]
        initiatorEphemeralPrivateKey := P.group.asBytes ephemeral
        initiatorEphemeralPublicKey := P.group.compress (ephemeral • P.group.basepoint)
        pqEphemeralPublicKey := P.kem.ekToBytes ek
        pqEphemeralSecretKey := P.kem.dkToExpandedBytes dk
        initiatorNonce := nonce
        obliviousPrfBlindScalar := P.group.asBytes blind }
    world := ((f.world.advance (ke1BlindStart m)).advance ((k + 1) * hashLength)).tick }

theorem keypairGenerate_run (w : World) :
    (PqKem.keypairGenerate P).run w =
      (.ok (P.kem.ekToBytes (P.kem.generateKeypair (World.window w.tape 64)).2,
        P.kem.dkToExpandedBytes (P.kem.generateKeypair (World.window w.tape 64)).1),
        w.advance 64) :=
  rfl

theorem advance_ke1BlindStart (w : World) (m : ℕ) :
    ((w.advance ((m + 1) * hashLength)).advance 64).advance nonceLength =
      w.advance (ke1BlindStart m) := by
  rw [World.advance_advance, World.advance_advance, ke1BlindStart, Nat.add_assoc]

theorem generateKe1_run_of_draws (hpassword : Admissible P password)
    (haccount : accountId.isEmpty = false) (hphase : f.state.phase = .created) : ∃ buffer,
    ∀ m k, FirstScalar P f.world.tape m →
      FirstScalar P (f.world.advance (ke1BlindStart m)).tape k →
      (generateKe1 P password accountId).run f =
        (.ok (), ke1Sent P password accountId buffer f m k) := by
  obtain ⟨buffer, -, hstore⟩ := @storeSecureKey_run Ke1Message password hpassword.fits f
  refine ⟨buffer, fun m k hephemeral hblind => ?_⟩
  have hdraw := (randomNonzeroScalar_eq_ok_iff P).mpr ⟨m, hephemeral, rfl, rfl⟩
  have hblindDraw := (@randomNonzeroScalar_eq_ok_iff P (f.world.advance (ke1BlindStart m)) _ _).mpr
    ⟨k, hblind, rfl, rfl⟩
  have hblinded := fun out blind => @Oprf.blind_draw P password hpassword.nonempty hpassword.point
    ⟨out, blind, f.world.advance (ke1BlindStart m)⟩ _ _ hblind.accepted hblindDraw
  rw [generateKe1, Cmd.run_bind_ok (ke1Checks_run hpassword haccount hphase), ke1Body,
    Cmd.bind_assoc, Cmd.run_bind_ok hstore]
  simp only [Cmd.run_bind, Op.run_modifyState, Op.run_onWorld, hdraw, Cmd.run_liftM,
    scalarmultBase_asBytes P hephemeral.accepted, keypairGenerate_run,
    randomBytes_run (show nonceLength ≠ 0 by decide), Op.run_modifyOut, blindKe1, Cmd.run_zoom,
    advance_ke1BlindStart, hblinded, refreshDeadline_run]
  rfl

/-- The draws of a first message that went out. -/
theorem generateKe1_draws (hpassword : Admissible P password)
    (haccount : accountId.isEmpty = false) (hphase : f.state.phase = .created)
    (h : (generateKe1 P password accountId).run f = (.ok (), f')) :
    ∃ m k, FirstScalar P f.world.tape m ∧
      FirstScalar P (f.world.advance (ke1BlindStart m)).tape k := by
  obtain ⟨buffer, -, hstore⟩ := @storeSecureKey_run Ke1Message password hpassword.fits f
  rw [generateKe1, Cmd.run_bind_ok (ke1Checks_run hpassword haccount hphase), ke1Body,
    Cmd.bind_assoc, Cmd.run_bind_ok hstore] at h
  simp only [Cmd.run_bind, Op.run_modifyState, Op.run_onWorld] at h
  rcases hdraw : (randomNonzeroScalar P).run f.world with ⟨e | err | _, w⟩
  · obtain ⟨m, hephemeral, rfl, rfl⟩ := (randomNonzeroScalar_eq_ok_iff P).mp hdraw
    refine ⟨m, ?_⟩
    simp only [hdraw, Cmd.run_liftM, scalarmultBase_asBytes P hephemeral.accepted,
      keypairGenerate_run, randomBytes_run (show nonceLength ≠ 0 by decide), Op.run_modifyOut,
      blindKe1, Cmd.run_zoom, advance_ke1BlindStart, Oprf.blind, Cmd.run_bind] at h
    rcases hblind : (randomNonzeroScalar P).run (f.world.advance (ke1BlindStart m)) with
      ⟨r | err | _, v⟩
    · obtain ⟨k, hfirst, -, -⟩ := (randomNonzeroScalar_eq_ok_iff P).mp hblind
      exact ⟨k, hephemeral, hfirst⟩
    · simp [hblind, hpassword.nonempty] at h
    · simp [hblind, hpassword.nonempty] at h
  · simp [hdraw] at h
  · simp [hdraw] at h

end Ke1

/-! ## Registration requests -/

section Registration

variable {password : List UInt8} {f f' : Frame RegistrationRequest InitiatorState}

/-- What `createRegistrationRequest` leaves when it finds its scalars at the draws `m` and `k`. -/
def requestSent (P : Primitives) (password : List UInt8) (buffer : Bytes maxSecureKeyLength)
    (f : Frame RegistrationRequest InitiatorState) (m k : ℕ) :
    Frame RegistrationRequest InitiatorState :=
  let privateKey := tapeScalar P f.world.tape (m * hashLength)
  let afterKey := f.world.advance ((m + 1) * hashLength)
  let blind := tapeScalar P afterKey.tape (k * hashLength)
  { out := { data := P.group.compress (blind • Oprf.inputPoint P password) }
    state :=
      { f.state with
        phase := .registrationRequested
        createdAt := f.world.clock 0
        initiatorPrivateKey := P.group.asBytes privateKey
        initiatorPublicKey := P.group.compress (privateKey • P.group.basepoint)
        secureKey := buffer
        secureKeyLen := password.length
        obliviousPrfBlindScalar := P.group.asBytes blind }
    world := (afterKey.advance ((k + 1) * hashLength)).tick }

theorem createRegistrationRequest_run_of_draws {m k : ℕ} (hpassword : Admissible P password)
    (hphase : f.state.phase = .created) (hprivate : FirstScalar P f.world.tape m)
    (hblind : FirstScalar P (f.world.advance ((m + 1) * hashLength)).tape k) :
    ∃ buffer, (createRegistrationRequest P password).run f =
      (.ok (), requestSent P password buffer f m k) := by
  have hdraw := (randomNonzeroScalar_eq_ok_iff P).mpr ⟨m, hprivate, rfl, rfl⟩
  have hblindDraw := (@randomNonzeroScalar_eq_ok_iff P
    (f.world.advance ((m + 1) * hashLength)) _ _).mpr ⟨k, hblind, rfl, rfl⟩
  have hblinded := fun out blind => @Oprf.blind_draw P password hpassword.nonempty hpassword.point
    ⟨out, blind, f.world.advance ((m + 1) * hashLength)⟩ _ _ hblind.accepted hblindDraw
  obtain ⟨buffer, -, hstore⟩ := @storeSecureKey_run RegistrationRequest password hpassword.fits
    { f with
      state := { f.state with
        initiatorPrivateKey := P.group.asBytes (tapeScalar P f.world.tape (m * hashLength))
        initiatorPublicKey := P.group.compress
          (tapeScalar P f.world.tape (m * hashLength) • P.group.basepoint) }
      world := f.world.advance ((m + 1) * hashLength) }
  refine ⟨buffer, ?_⟩
  rw [createRegistrationRequest, Cmd.run_bind_ok (registrationRequestChecks_run hpassword hphase),
    registrationRequestBody]
  simp only [Cmd.run_bind, Op.run_onWorld, hdraw, Op.run_modifyState, Cmd.run_liftM,
    scalarmultBase_asBytes P hprivate.accepted, hstore, blindRequest, Cmd.run_zoom, hblinded,
    refreshDeadline_run]
  rfl

/-- The draws of a registration request that went out. -/
theorem createRegistrationRequest_draws (hpassword : Admissible P password)
    (hphase : f.state.phase = .created)
    (h : (createRegistrationRequest P password).run f = (.ok (), f')) :
    ∃ m k, FirstScalar P f.world.tape m ∧
      FirstScalar P (f.world.advance ((m + 1) * hashLength)).tape k := by
  rw [createRegistrationRequest, Cmd.run_bind_ok (registrationRequestChecks_run hpassword hphase),
    registrationRequestBody] at h
  simp only [Cmd.run_bind, Op.run_onWorld, Op.run_modifyState] at h
  rcases hdraw : (randomNonzeroScalar P).run f.world with ⟨x | err | _, w⟩
  · obtain ⟨m, hprivate, rfl, rfl⟩ := (randomNonzeroScalar_eq_ok_iff P).mp hdraw
    obtain ⟨buffer, -, hstore⟩ := @storeSecureKey_run RegistrationRequest password hpassword.fits
      { f with
        state := { f.state with
          initiatorPrivateKey := P.group.asBytes (tapeScalar P f.world.tape (m * hashLength))
          initiatorPublicKey := P.group.compress
            (tapeScalar P f.world.tape (m * hashLength) • P.group.basepoint) }
        world := f.world.advance ((m + 1) * hashLength) }
    refine ⟨m, ?_⟩
    simp only [hdraw, Cmd.run_liftM, scalarmultBase_asBytes P hprivate.accepted, hstore,
      blindRequest, Cmd.run_zoom, Oprf.blind, Cmd.run_bind] at h
    rcases hblind : (randomNonzeroScalar P).run (f.world.advance ((m + 1) * hashLength)) with
      ⟨r | err | _, v⟩
    · obtain ⟨k, hfirst, -, -⟩ := (randomNonzeroScalar_eq_ok_iff P).mp hblind
      exact ⟨k, hprivate, hfirst⟩
    · simp [hblind, hpassword.nonempty] at h
    · simp [hblind, hpassword.nonempty] at h
  · simp [hdraw] at h
  · simp [hdraw] at h

end Registration

/-! ## Both requests -/

theorem window_congr {tape tape' : ℕ → UInt8} {n : ℕ} (h : ∀ i < n, tape' i = tape i) :
    World.window tape' n = World.window tape n := by
  apply congrArg List.Vector.ofFn
  funext i
  exact h i i.isLt

section Both

variable {password password' : List UInt8} {factor : P.group.Scalar}

/-- One blind times the factor is the other blind. -/
theorem request_eq_of_factor
    (hpoints : Oprf.inputPoint P password = factor • Oprf.inputPoint P password')
    (blind : P.group.Scalar) : P.group.compress ((factor * blind) • Oprf.inputPoint P password') =
      P.group.compress (blind • Oprf.inputPoint P password) := by
  rw [hpoints, mul_comm, mul_smul]

theorem generateKe1_sentAlike (hpassword' : Admissible P password') (hfactor : factor ≠ 0)
    (hpoints : Oprf.inputPoint P password = factor • Oprf.inputPoint P password')
    (accountId : List UInt8) :
    SentAlike P factor (generateKe1 P password accountId) (generateKe1 P password' accountId) := by
  intro f f' h
  obtain ⟨⟨b⟩, haccount⟩ := generateKe1_returns P f () f' trivial h
  have hphase : f.state.phase = .created := by
    rcases generateKe1_ends P _ _ _ _ _ h with ⟨-, hphase, -⟩ | ⟨herr, -⟩
    · exact hphase
    · cases herr
  obtain ⟨m, k, hephemeral, hblind⟩ := generateKe1_draws b.admissible haccount hphase h
  obtain ⟨buffer, hrun⟩ := generateKe1_run_of_draws b.admissible haccount hphase
  rw [hrun m k hephemeral hblind] at h
  cases h
  refine ⟨k * hashLength + ke1BlindStart m, ?_, fun tape htape => ?_⟩
  · have hne := hblind.accepted
    simpa [tapeScalar, Nat.add_assoc] using hne
  have hbefore : ∀ i < ke1BlindStart m, tape i = f.world.tape i :=
    fun i hi => htape.outside i (.inl (by omega))
  have hsum : m * hashLength + hashLength + 64 + nonceLength = ke1BlindStart m := by
    rw [ke1BlindStart, Nat.succ_mul]
    omega
  have hsame : tapeScalar P tape (m * hashLength) = tapeScalar P f.world.tape (m * hashLength) :=
    tapeScalar_congr P fun i _ hi => hbefore i (by omega)
  have hseed : World.window (fun i => tape (i + (m + 1) * hashLength)) 64 =
      World.window (fun i => f.world.tape (i + (m + 1) * hashLength)) 64 :=
    window_congr fun i hi => hbefore _ (by rw [Nat.succ_mul]; omega)
  have hnonce : World.window (fun i => tape (i + 64 + (m + 1) * hashLength)) nonceLength =
      World.window (fun i => f.world.tape (i + 64 + (m + 1) * hashLength)) nonceLength :=
    window_congr fun i hi => hbefore _ (by rw [Nat.succ_mul]; omega)
  have hafter : (fun i => tape (i + (k + 1) * hashLength + ke1BlindStart m)) =
      fun i => f.world.tape (i + (k + 1) * hashLength + ke1BlindStart m) := by
    funext i
    exact htape.outside _ (.inr (by rw [Nat.succ_mul]; omega))
  have hfirst := hephemeral.congr (fun i hi => hbefore i (by omega))
    (by rw [hsame]; exact hephemeral.accepted)
  obtain ⟨hblind', hscalar⟩ := htape.firstScalar hfactor hblind
  obtain ⟨buffer', hrun'⟩ := @generateKe1_run_of_draws P password' accountId
    { f with world := { f.world with tape } } hpassword' haccount hphase
  refine ⟨buffer', password'.length, P.group.asBytes
    (factor * tapeScalar P (f.world.advance (ke1BlindStart m)).tape (k * hashLength)),
    (hrun' m k hfirst hblind').trans ?_⟩
  simp only [ke1Sent, World.advance_tape, hsame, hseed, hnonce, hscalar,
    request_eq_of_factor hpoints]
  simp only [World.advance, World.tick, hafter]

theorem createRegistrationRequest_sentAlike (hpassword' : Admissible P password')
    (hfactor : factor ≠ 0)
    (hpoints : Oprf.inputPoint P password = factor • Oprf.inputPoint P password') :
    SentAlike P factor (createRegistrationRequest P password)
      (createRegistrationRequest P password') := by
  intro f f' h
  obtain ⟨b⟩ := createRegistrationRequest_returns P f () f' trivial h
  have hphase : f.state.phase = .created := by
    rcases createRegistrationRequest_ends P _ _ _ _ h with ⟨-, hphase, -⟩ | ⟨herr, -⟩
    · exact hphase
    · cases herr
  obtain ⟨m, k, hprivate, hblind⟩ := createRegistrationRequest_draws b.admissible hphase h
  obtain ⟨buffer, hrun⟩ :=
    createRegistrationRequest_run_of_draws b.admissible hphase hprivate hblind
  rw [hrun] at h
  cases h
  refine ⟨k * hashLength + (m + 1) * hashLength, ?_, fun tape htape => ?_⟩
  · have hne := hblind.accepted
    simpa [tapeScalar, Nat.add_assoc] using hne
  have hbefore : ∀ i < m * hashLength + hashLength, tape i = f.world.tape i :=
    fun i hi => htape.outside i (.inl (by rw [Nat.succ_mul m]; omega))
  have hsame : tapeScalar P tape (m * hashLength) = tapeScalar P f.world.tape (m * hashLength) :=
    tapeScalar_congr P fun i _ hi => hbefore i hi
  have hafter : (fun i => tape (i + (k + 1) * hashLength + (m + 1) * hashLength)) =
      fun i => f.world.tape (i + (k + 1) * hashLength + (m + 1) * hashLength) := by
    funext i
    exact htape.outside _ (.inr (by rw [Nat.succ_mul k]; omega))
  have hfirst := hprivate.congr (fun i hi => hbefore i (by omega))
    (by rw [hsame]; exact hprivate.accepted)
  obtain ⟨hblind', hscalar⟩ := htape.firstScalar hfactor hblind
  obtain ⟨buffer', hrun'⟩ := @createRegistrationRequest_run_of_draws P password'
    { f with world := { f.world with tape } } m k hpassword' hphase hfirst hblind'
  refine ⟨buffer', password'.length, P.group.asBytes
    (factor * tapeScalar P (f.world.advance ((m + 1) * hashLength)).tape (k * hashLength)),
    hrun'.trans ?_⟩
  simp only [requestSent, World.advance_tape, hsame, hscalar, request_eq_of_factor hpoints]
  simp only [World.advance, World.tick, hafter]

end Both

/--
Any two passwords that the client accepts.  There is a factor other than zero,
and multiplying a blind by it permutes the scalars that a blind can be, such that each
request of the one is, on the tape with the other blind, the request of the
other: what goes over the network does not depend on the password.  Prime order
is used as that each point other than the identity generates the group.
-/
theorem requests_hide_password {password password' : List UInt8}
    (hgenerates : ∀ p q : P.group.Point, p ≠ 0 → ∃ k : P.group.Scalar, q = k • p)
    (hpassword : Admissible P password) (hpassword' : Admissible P password') :
    ∃ factor : P.group.Scalar, factor ≠ 0 ∧
      SentAlike P factor (createRegistrationRequest P password)
        (createRegistrationRequest P password') ∧
      ∀ accountId, SentAlike P factor (generateKe1 P password accountId)
        (generateKe1 P password' accountId) := by
  obtain ⟨factor, hpoints⟩ := hgenerates _ (Oprf.inputPoint P password) hpassword'.point
  have hfactor : factor ≠ 0 := by
    rintro rfl
    apply hpassword.point
    rw [hpoints, zero_smul]
  exact ⟨factor, hfactor, createRegistrationRequest_sentAlike hpassword' hfactor hpoints,
    generateKe1_sentAlike hpassword' hfactor hpoints⟩

/-- The small instance, with passwords hashed to more than one point. -/
def samplePoints : Primitives :=
  { Sample.primitives with
    group :=
      { Sample.group with fromUniformBytes := fun b => ((b.toList.getD 1 0).toNat : ZMod 5) } }

theorem samplePoints_first : Admissible samplePoints [1] :=
  ⟨rfl, by decide, (by decide : (2 : ZMod 5) ≠ 0)⟩

theorem samplePoints_second : Admissible samplePoints [2] :=
  ⟨rfl, by decide, (by decide : (3 : ZMod 5) ≠ 0)⟩

/-- The two passwords of the sample on one tape. -/
theorem samplePoints_differ {f f' g : Frame RegistrationRequest InitiatorState}
    (hphase : f.state.phase = .created) (htape : f.world.tape = fun _ => 1)
    (h : (createRegistrationRequest samplePoints [1]).run f = (.ok (), f'))
    (h' : (createRegistrationRequest samplePoints [2]).run f = (.ok (), g)) : g.out ≠ f'.out := by
  have hscalar : ∀ n, tapeScalar samplePoints (fun _ => 1) n = (1 : ZMod 5) := fun _ => rfl
  have hfirst : FirstScalar samplePoints (fun _ => 1) 0 :=
    ⟨by decide, nofun, (by decide : (1 : ZMod 5) ≠ 0)⟩
  have hprivate : FirstScalar samplePoints f.world.tape 0 := by rwa [htape]
  have hblind : FirstScalar samplePoints (f.world.advance ((0 + 1) * hashLength)).tape 0 := by
    simp only [World.advance_tape, htape]
    exact hfirst
  obtain ⟨_, hrun⟩ :=
    createRegistrationRequest_run_of_draws samplePoints_first hphase hprivate hblind
  obtain ⟨_, hrun'⟩ :=
    createRegistrationRequest_run_of_draws samplePoints_second hphase hprivate hblind
  obtain rfl : _ = f' := (Prod.mk.inj (hrun.symm.trans h)).2
  obtain rfl : _ = g := (Prod.mk.inj (hrun'.symm.trans h')).2
  simp only [requestSent, World.advance_tape, htape, hscalar]
  intro heq
  have hpoints := samplePoints.group.compress_injective (congrArg RegistrationRequest.data heq)
  exact (by decide : (1 : ZMod 5) • (3 : ZMod 5) ≠ (1 : ZMod 5) • (2 : ZMod 5)) hpoints

/--
Two passwords of the sample that are sent alike with different blinds, and
differently with the same one.
-/
theorem requests_hide_password_sample :
    let f : Frame RegistrationRequest InitiatorState := ⟨.new, .newAt 0, Sample.world 0⟩
    ∃ (offset : ℕ) (byte : UInt8) (f' g g' : Frame RegistrationRequest InitiatorState),
      (createRegistrationRequest samplePoints [1]).run f = (.ok (), f') ∧
      (createRegistrationRequest samplePoints [2]).run
        { f with world := { f.world with tape := Function.update f.world.tape offset byte } } =
          (.ok (), g) ∧ g.out = f'.out ∧
      (createRegistrationRequest samplePoints [2]).run f = (.ok (), g') ∧ g'.out ≠ f'.out := by
  intro f
  have hgenerates : ∀ p q : ZMod 5, p ≠ 0 → ∃ k : ZMod 5, q = k • p := by decide
  obtain ⟨factor, hfactor, hrequest, -⟩ :=
    @requests_hide_password samplePoints _ _ hgenerates samplePoints_first samplePoints_second
  have hnever : World.NeverExhausted samplePoints (Sample.world 0) :=
    fun _ => ⟨0, by decide, show tapeScalar samplePoints (fun _ => 1) 0 ≠ 0 by decide⟩
  obtain ⟨_, s, w, -, -, -, -, hrun⟩ :=
    @createRegistrationRequest_run samplePoints [1] f samplePoints_first rfl hnever
  obtain ⟨_, s', w', -, -, -, -, hrun'⟩ :=
    @createRegistrationRequest_run samplePoints [2] f samplePoints_second rfl hnever
  obtain ⟨offset, -, hsent⟩ := hrequest _ _ hrun
  have htape : Reblinds samplePoints factor offset f.world.tape
      (Function.update f.world.tape offset (UInt8.ofNat (ZMod.val (n := 5) factor))) := by
    constructor
    · intro i hi
      refine Function.update_of_ne ?_ _ _
      have hlength : 0 < hashLength := by decide
      omega
    · have hbyte : ∀ k : ZMod 5, ((UInt8.ofNat k.val).toNat : ZMod 5) = k * 1 := by decide
      change ((Function.update f.world.tape offset _ (0 + offset)).toNat : ZMod 5) = _
      rw [Nat.zero_add, Function.update_self]
      exact hbyte factor
  obtain ⟨key, keyLen, blind, hother⟩ := hsent _ htape
  exact ⟨offset, _, _, _, _, hrun, hother, rfl, hrun', samplePoints_differ rfl rfl hrun hrun'⟩

end AuraOpaque.Agent
