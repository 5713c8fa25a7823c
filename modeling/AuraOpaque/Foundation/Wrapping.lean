import AuraOpaque.Foundation.Grips

/-!
# Runs of a wrapper

Routines that abide, run on any number of threads: the calls that they make are a
run of the library, in which every promise of its callers is kept, and none of
them finds a handle busy.
-/

namespace AuraOpaque.Foundation

variable {ι ω χ κ δ ρ α : Type}

section Steps

variable [DecidableEq ι] [DecidableEq ω] [DecidableEq κ] [DecidableEq ρ] [Inhabited χ]
  {L : Library ω χ κ δ ρ} {Q : ι → α → Grip ω ρ → Prop} {w w' : Wrapper ι ω χ κ δ ρ α}
  {g : ι → Grip ω ρ} {i j : ι} {o : ω} {history : List (Label ι κ δ ρ)} {c : χ}
  {next : ρ → Routine ω χ δ ρ α} {r r' : Running κ δ ρ} {s' : Shared κ δ} {e : Event κ ρ}

namespace Wrapper.Safe

omit [Inhabited χ] in
/-- A routine at a call that it has not begun. -/
theorem enter (hs : Safe L Q g w) (law : L.Lawful) (hi : w.routine i = .call c next)
    (hpending : w.pool.status i = .pending) :
    Safe L Q g { w with
      call := Function.update w.call i (some c)
      pool := w.pool.set i (.running ⟨L.program c, [], .none⟩) w.pool.shared } := by
  have hrunning : (w.pool.set i (.running ⟨L.program c, [], .none⟩) w.pool.shared).status i =
      .running ⟨L.program c, [], .none⟩ := by
    rw [Pool.status_set, if_pos rfl]
  refine ⟨fun j => ?_, hs.apart, hs.settled, hs.unmade⟩
  by_cases hj : j = i
  · subst hj
    refine { hs.fits j with unborn := ?_, doomed := ?_, accords := ?_ }
    · intro o _ hp
      rw [hrunning] at hp
      cases hp
    · intro o _ hp
      rw [hrunning] at hp
      cases hp
    · change Grip.Accords L _ j (g j) ((w.pool.set j _ w.pool.shared).status j)
      rw [hrunning]
      refine ⟨c, next, hi, Function.update_self _ _ _, ⟨[], law.answers c, ?_⟩, nofun⟩
      simp [Running.holds]
  · exact (hs.fits j).frame rfl (Function.update_of_ne hj _ _)
      ((Pool.status_set _ _ _ _ _).trans (if_neg hj)) (fun _ => Iff.rfl) (fun _ => id)
      (fun _ _ => .inl rfl) fun _ _ => ⟨rfl, rfl, rfl⟩

/-- A step of a call changes no variable but its own. -/
theorem slots_kept (hs : Safe L Q g w) (law : L.Lawful)
    (ho : Orderly (w.calls L) (w.posts L) history w.pool) (hr : w.pool.status i = .running r)
    (hmove : Moves r w.pool.shared e r' s')
    (hstake : (g i).stake ≠ .unborn o ∧ (g i).stake ≠ .doomed o) :
    s'.slots (L.place o) = w.pool.shared.slots (L.place o) := by
  obtain ⟨gh, hgh⟩ := ho.outlined i r hr
  refine hmove.slots hgh.outline fun hslot => ?_
  obtain ⟨o', hplace, hstaked⟩ := hs.slot_staked hr hslot
  rw [← law.place_injective hplace] at hstaked
  rcases hstaked with h | h
  · exact hstake.1 h
  · exact hstake.2 h

theorem native (hs : Safe L Q g w) (law : L.Lawful)
    (ho : Orderly (w.calls L) (w.posts L) history w.pool) (hr : w.pool.status i = .running r)
    (hmove : Moves r w.pool.shared e r' s') :
    Safe L Q g { w with pool := w.pool.set i (.running r') s' } := by
  obtain ⟨c, next, hi, hcall, hanswers, hguards⟩ := hs.running_call hr
  have hrunning : (w.pool.set i (.running r') s').status i = .running r' := by
    rw [Pool.status_set, if_pos rfl]
  refine ⟨fun j => ?_, hs.apart, fun o hfree => ?_, hs.unmade⟩
  · by_cases hj : j = i
    · subst hj
      refine { hs.fits j with
        unborn := ?_, born := ?_, fetched := ?_, doomed := ?_, accords := ?_ }
      · intro o _ hp
        rw [hrunning] at hp
        cases hp
      · intro o hborn
        have hkept := hs.slots_kept law ho hr hmove (o := o) (by simp [hborn])
        exact fun hzero => (hs.fits j).born o hborn (hkept.symm.trans hzero)
      · intro o address hfetched
        have hkept := hs.slots_kept law ho hr hmove (o := o) (by simp [hfetched])
        obtain ⟨hne, hslot⟩ := (hs.fits j).fetched o address hfetched
        exact ⟨hne, hkept.trans hslot⟩
      · intro o _ hp
        rw [hrunning] at hp
        cases hp
      · change Grip.Accords L _ j (g j) ((w.pool.set j (.running r') s').status j)
        rw [hrunning]
        refine ⟨c, next, hi, hcall, ?_, hmove.guards_used hanswers hguards⟩
        rcases hmove.answers hanswers trivial with hanswers' | ⟨-, h, hrefused⟩
        · exact hanswers'
        · exact absurd hrefused (hs.not_refused law ho hr hcall)
    · refine (hs.fits j).frame rfl rfl ((Pool.status_set _ _ _ _ _).trans (if_neg hj))
        (fun _ => Iff.rfl) (fun _ => id) (fun _ _ => .inl rfl) fun o hstake => ⟨rfl, rfl, ?_⟩
      refine hs.slots_kept law ho hr hmove (Stake.ne_of_object? fun hown => ?_)
      exact hj (hs.apart j i o hstake hown)
  · exact (hs.slots_kept law ho hr hmove (Stake.ne_of_object? (hfree i))).trans (hs.settled o hfree)

/-- What the call has left in the place of the object that it was given. -/
theorem returned_slot (hs : Safe L Q g w) (law : L.Lawful)
    (ho : Orderly (w.calls L) (w.posts L) history w.pool) {program : Program κ δ ρ ρ}
    {claim : Claim κ} {code : ρ} (hr : w.pool.status i = .running ⟨program, [], claim⟩)
    (hcode : program.code = some code) (hcall : w.call i = some c) :
    L.codes c code ∧
      (∀ o, L.effect c = .creates o →
        (w.pool.shared.slots (L.place o) ≠ 0 ↔ code = L.success)) ∧
      ∀ o, L.effect c = .destroys o → w.pool.shared.slots (L.place o) = 0 := by
  obtain ⟨c', next, hi, hcall', ⟨tried, hanswers, -⟩, -⟩ := hs.running_call hr
  obtain rfl : c' = c := Option.some.inj (hcall'.symm.trans hcall)
  have hcodes := hanswers.of_code hcode
  obtain ⟨gh, hgh⟩ := ho.outlined i _ hr
  have hpost : L.post c' code gh := by
    have hpost := (hgh.outline.of_code hcode).2
    rwa [posts, hcall] at hpost
  have hslot : (w.calls L).slot i = L.slot c' := by simp [calls, hcall]
  have hcontent : ∀ o, (L.effect c').object? = some o →
      gh.content = w.pool.shared.slots (L.place o) := by
    intro o heffect
    rw [hgh.fits.content, hslot, Library.slot, heffect]
    rfl
  refine ⟨hcodes, fun o heffect => ?_, fun o heffect => ?_⟩
  · rw [← hcontent o (by rw [heffect]; rfl)]
    exact law.created heffect hpost
  · rw [← hcontent o (by rw [heffect]; rfl)]
    exact law.destroyed heffect hcodes hpost

theorem leave (hs : Safe L Q g w) (law : L.Lawful)
    (ho : Orderly (w.calls L) (w.posts L) history w.pool) {program : Program κ δ ρ ρ}
    {claim : Claim κ} {code : ρ} (hi : w.routine i = .call c next)
    (hr : w.pool.status i = .running ⟨program, [], claim⟩) (hcode : program.code = some code) :
    Safe L Q (Function.update g i ((g i).after L c code))
      { w.goto i (next code) with pool := w.pool.set i (.returned code) w.pool.shared } := by
  have hfits := hs.fits i
  obtain ⟨c', next', hi', hcall, -⟩ := hs.running_call hr
  rw [hi] at hi'
  cases hi'
  obtain ⟨hcodes, hcreated, hdestroyed⟩ := hs.returned_slot law ho hr hcode hcall
  have habides := hfits.abides
  rw [hi] at habides
  obtain ⟨-, hentitled, hnext⟩ := habides
  have hreturned : (w.pool.set i (.returned code) w.pool.shared).status i = .returned code := by
    rw [Pool.status_set, if_pos rfl]
  refine hs.update ?_ (fun j hj => ?_) (fun o ho j hj hown => ?_) (fun o ho hothers => ?_)
    hs.unmade
  · refine { hfits with
      abides := ?_, making := ?_, staked := ?_, unborn := ?_, born := ?_, fetched := ?_,
      doomed := ?_, accords := ?_ }
    · exact (w.goto_routine_self i _).symm ▸ hnext code hcodes
    · exact fun o ho => hfits.making o (hentitled.making?_of_after ho)
    · exact fun o ho => hfits.staked o (hentitled.object?_of_after ho)
    · intro o _ hp
      rw [hreturned] at hp
      cases hp
    · intro o hborn
      rcases hentitled.born_of_after hborn with hborn | ⟨heffect, hsuccess⟩
      · exact hfits.born o hborn
      · exact (hcreated o heffect).mpr hsuccess
    · exact fun o address ho => hfits.fetched o address (hentitled.fetched_of_after ho)
    · intro o _ hp
      rw [hreturned] at hp
      cases hp
    · change Grip.Accords L _ i _ ((w.pool.set i (.returned code) w.pool.shared).status i)
      rw [hreturned]
      exact ⟨rfl, c, hcall, hcodes⟩
  · exact (hs.fits j).frame (w.goto_routine_of_ne _ hj) rfl
      ((Pool.status_set _ _ _ _ _).trans (if_neg hj)) (fun _ => Iff.rfl) (fun _ => id)
      (fun _ _ => .inl rfl) fun _ _ => ⟨rfl, rfl, rfl⟩
  · exact hj (hs.apart j i o hown (hentitled.object?_of_after ho))
  · by_cases hstake : (g i).stake.object? = some o
    · have hzero : w.pool.shared.slots (L.place o) = 0 := by
        rcases hentitled.settled_of_after hstake ho with ⟨heffect, hfailed⟩ | heffect
        · exact not_not.mp fun hne => hfailed ((hcreated o heffect).mp hne)
        · exact hdestroyed o heffect
      exact hzero.trans (hfits.staked o hstake).symm
    · refine hs.settled o fun j => ?_
      by_cases hj : j = i
      · rw [hj]
        exact hstake
      · exact hothers j hj

theorem step {a : Act ι κ δ ρ} (hs : Safe L Q g w) (law : L.Lawful)
    (ho : Orderly (w.calls L) (w.posts L) history w.pool) (hstep : Step L w a w') :
    ∃ g', Safe L Q g' w' := by
  cases hstep with
  | refer hi hmade => exact ⟨_, hs.refer hi hmade⟩
  | lock hi hfree => exact ⟨_, hs.lock hi hfree⟩
  | unlock hi howner => exact ⟨_, hs.unlock hi⟩
  | get hi => exact ⟨_, hs.get hi⟩
  | clear hi => exact ⟨_, hs.clear hi⟩
  | fetch hi => exact ⟨_, hs.fetch hi⟩
  | make hi => exact ⟨_, hs.make hi⟩
  | look hi => exact ⟨_, hs.look hi _⟩
  | enter hi hpending => exact ⟨_, hs.enter law hi hpending⟩
  | native hr hmove => exact ⟨_, hs.native law ho hr hmove⟩
  | leave hi hr hcode => exact ⟨_, hs.leave law ho hi hr hcode⟩

end Wrapper.Safe

end Steps

/-! ## A call that is left alone -/

section Alone

variable [DecidableEq ι] [DecidableEq ω] [DecidableEq κ] {L : Library ω χ κ δ ρ}
  {start w : Wrapper ι ω χ κ δ ρ α} {past : List (Act ι κ δ ρ)} {i : ι} {c : χ}
  {next : ρ → Routine ω χ δ ρ α} {x y : Running κ δ ρ × Shared κ δ} {events : List (Event κ ρ)}

theorem Wrapper.lift_alone (hrun : Run Alone x events y) (hi : w.pool.status i = .running x.1)
    (hs : w.pool.shared = x.2) : ∃ history, Run (Wrapper.Step L) w history
      { w with pool := w.pool.set i (.running y.1) y.2 } := by
  induction hrun with
  | nil =>
      rw [Pool.set_self hi hs]
      exact ⟨[], .nil⟩
  | @snoc events y z e hrun hlast ih =>
      obtain ⟨history, hhistory⟩ := ih
      have hstep := @Wrapper.Step.native _ _ _ _ _ _ _ _ _ _ L
        { w with pool := w.pool.set i (.running y.1) y.2 } i _ e _ _
        ((Pool.status_set _ _ _ _ _).trans (if_pos rfl)) hlast
      rw [Pool.set_set] at hstep
      exact ⟨_, hhistory.snoc hstep⟩

/-- A routine makes its call while the others wait. -/
theorem Wrapper.run_call {p : Program κ δ ρ ρ} {claim : Claim κ} {code : ρ} {s : Shared κ δ}
    (hw : Run (Wrapper.Step L) start past w) (hi : w.routine i = .call c next)
    (hpending : w.pool.status i = .pending)
    (hrun : Run Alone (⟨L.program c, [], .none⟩, w.pool.shared) events (⟨p, [], claim⟩, s))
    (hcode : p.code = some code) : ∃ history, Run (Wrapper.Step L) start history
      { w.goto i (next code) with
        call := Function.update w.call i (some c)
        pool := w.pool.set i (.returned code) s } := by
  have hbegun := @Wrapper.Step.enter _ _ _ _ _ _ _ _ _ _ L w i c next hi hpending
  obtain ⟨history, hhistory⟩ := @Wrapper.lift_alone _ _ _ _ _ _ _ _ _ _ L
    { w with
      call := Function.update w.call i (some c)
      pool := w.pool.set i (.running ⟨L.program c, [], .none⟩) w.pool.shared } i _ _ _ hrun
    ((Pool.status_set _ _ _ _ _).trans (if_pos rfl)) rfl
  rw [Pool.set_set] at hhistory
  have hleft := @Wrapper.Step.leave _ _ _ _ _ _ _ _ _ _ L
    { w with
      call := Function.update w.call i (some c)
      pool := w.pool.set i (.running ⟨p, [], claim⟩) s } i c next p claim code hi
    ((Pool.status_set _ _ _ _ _).trans (if_pos rfl)) hcode
  rw [Pool.set_set] at hleft
  exact ⟨_, ((hw.snoc hbegun).append hhistory).snoc hleft⟩

end Alone

/-! ## Calls on one object -/

section Uses

variable [DecidableEq ω] [DecidableEq κ] [DecidableEq ρ] {L : Library ω χ κ δ ρ}
  {Q : ι → α → Grip ω ρ → Prop} {w : Wrapper ι ω χ κ δ ρ α} {g : ι → Grip ω ρ} {i j : ι}

namespace Wrapper

/-- The call that the routine has under way works on the object. -/
def Works (L : Library ω χ κ δ ρ) (w : Wrapper ι ω χ κ δ ρ α) (i : ι) (h : Handle κ) : Prop :=
  ∃ r c, w.pool.status i = .running r ∧ w.call i = some c ∧ h ∈ L.uses c

namespace Safe

variable {h : Handle κ}

/-- The routine has the lock of the object that keeps the pointer. -/
theorem works_owner (hs : Safe L Q g w) (hworks : w.Works L i h) :
    ∃ o, w.owner o = some i ∧ w.field o = h.address ∧ h.address ≠ 0 ∧ h.kind = (L.place o).kind ∧
      w.pool.shared.slots (L.place o) = h.address := by
  obtain ⟨r, c, hr, hcall, hh⟩ := hworks
  obtain ⟨c', next, hi, hcall', -⟩ := hs.running_call hr
  obtain rfl : c' = c := Option.some.inj (hcall'.symm.trans hcall)
  obtain ⟨o, hheld, hfield, hne, hkind⟩ := (hs.fits i).uses_field hi hh
  have hpointer := hs.pointer (by rw [hfield]; exact hne)
  exact ⟨o, ((hs.fits i).owner o).mp hheld, hfield, hne, hkind, hpointer.trans hfield⟩

variable [DecidableEq ι] [Inhabited χ] {history : List (Label ι κ δ ρ)}

theorem works_exclusive (hs : Safe L Q g w) (law : L.Lawful)
    (ho : Orderly (w.calls L) (w.posts L) history w.pool) (hi : w.Works L i h)
    (hj : w.Works L j h) : i = j := by
  obtain ⟨o, howner, hfield, hne, hkind, hslot⟩ := hs.works_owner hi
  obtain ⟨o', howner', -, -, hkind', hslot'⟩ := hs.works_owner hj
  have hplace := ho.slotsApart (L.place o) (L.place o') (hkind.symm.trans hkind')
    (by rw [hslot]; exact hne) (hslot.trans hslot'.symm)
  rw [← law.place_injective hplace, howner] at howner'
  exact Option.some.inj howner'

theorem works_live (hs : Safe L Q g w) (ho : Orderly (w.calls L) (w.posts L) history w.pool)
    (hi : w.Works L i h) : w.pool.shared.live h = true := by
  obtain ⟨o, -, -, hne, hkind, hslot⟩ := hs.works_owner hi
  have hlive := ho.slotsLive (L.place o) (by rw [hslot]; exact hne)
  rwa [hslot, ← hkind] at hlive

/-- Nobody is about to destroy an object that a call works on. -/
theorem works_unclaimed (hs : Safe L Q g w) (law : L.Lawful)
    (ho : Orderly (w.calls L) (w.posts L) history w.pool) (hi : w.Works L i h)
    {r : Running κ δ ρ} (hr : w.pool.status j = .running r) : r.claim ≠ .taken h := by
  intro hclaim
  obtain ⟨o, -, hfield, hne, hkind, hslot⟩ := hs.works_owner hi
  have hmine := ho.claims j r h (L.place o) hr hclaim hkind.symm (by rw [hslot]; exact hne) hslot
  obtain ⟨o', hplace, hstake⟩ := hs.slot_staked hr hmine
  obtain rfl := law.place_injective hplace
  have hzero := (hs.fits j).staked o (by rcases hstake with h | h <;> rw [h] <;> rfl)
  exact hne (hfield.symm.trans hzero)

end Safe

end Wrapper

end Uses

/-! ## The calls that a wrapper makes -/

section Congruence

variable [DecidableEq ι] [DecidableEq κ] {calls calls' : Calls ι κ δ ρ}
  {start pool pool' : Pool ι κ δ ρ} {history : List (Label ι κ δ ρ)} {l : Label ι κ δ ρ}

/-- A call that has begun stays begun. -/
theorem Interleaves.pending_before (hstep : Interleaves calls pool l pool') {i : ι}
    (hi : pool'.status i = .pending) : pool.status i = .pending := by
  cases hstep with
  | start hpending hslot =>
      rw [Pool.status_set] at hi
      split at hi
      · cases hi
      · exact hi
  | move hrunning hmove =>
      rw [Pool.status_set] at hi
      split at hi
      · cases hi
      · exact hi
  | finish hrunning hcode =>
      rw [Pool.status_set] at hi
      split at hi
      · cases hi
      · exact hi

/-- Only the calls that have begun matter. -/
theorem Interleaves.congr (hstep : Interleaves calls pool l pool')
    (hsame : ∀ i, pool'.status i ≠ .pending →
      calls'.program i = calls.program i ∧ calls'.slot i = calls.slot i) :
    Interleaves calls' pool l pool' := by
  cases hstep with
  | @start i hpending hslot =>
      have hbegun : ∀ j r, pool.status j = .running r → calls'.slot j = calls.slot j := by
        intro j r hr
        refine (hsame j ?_).2
        rw [Pool.status_set]
        split
        · simp
        · simp [hr]
      obtain ⟨hprogram, hslot'⟩ := hsame i (by simp [Pool.status_set])
      rw [← hprogram]
      refine .start hpending fun j r k hr hk => ?_
      rw [hbegun j r hr]
      exact hslot j r k hr (hslot'.symm.trans hk)
  | move hrunning hmove => exact .move hrunning hmove
  | finish hrunning hcode => exact .finish hrunning hcode

theorem run_congr (hrun : Run (Interleaves calls) start history pool)
    (hsame : ∀ i, pool.status i ≠ .pending →
      calls'.program i = calls.program i ∧ calls'.slot i = calls.slot i) :
    Run (Interleaves calls') start history pool := by
  induction hrun with
  | nil => exact .nil
  | snoc _ hlast ih =>
      exact (ih fun i hi => hsame i (mt hlast.pending_before hi)).snoc (hlast.congr hsame)

end Congruence

section Runs

variable [DecidableEq ι] [DecidableEq ω] [DecidableEq κ] [DecidableEq ρ] [Inhabited χ]
  {L : Library ω χ κ δ ρ} {Q : ι → α → Grip ω ρ → Prop} {creates : ι → Option ω}
  {start w w' : Wrapper ι ω χ κ δ ρ α} {history : List (Act ι κ δ ρ)}

/-- Before the first step: no object has been made, and each is to be made once at most. -/
structure Wrapper.Fresh (L : Library ω χ κ δ ρ) (Q : ι → α → Grip ω ρ → Prop)
    (creates : ι → Option ω) (w : Wrapper ι ω χ κ δ ρ α) : Prop where
  abides : ∀ i, (w.routine i).Abides L (Q i) (.before (creates i))
  apart : ∀ i j o, creates i = some o → creates j = some o → i = j
  owner : ∀ o, w.owner o = none
  field : ∀ o, w.field o = 0
  made : ∀ o, w.made o = false
  call : ∀ i, w.call i = none
  quiet : w.pool.Quiet
  slots : ∀ o, w.pool.shared.slots (L.place o) = 0

omit [DecidableEq ι] [DecidableEq ω] [DecidableEq κ] [DecidableEq ρ] [Inhabited χ] in
theorem Grip.before_stake {creates : Option ω} {stake : Stake ω}
    (h : (Grip.before creates : Grip ω ρ).stake = stake) :
    (creates = none ∧ stake = .none) ∨ ∃ o, creates = some o ∧ stake = .unborn o := by
  cases creates with
  | none => exact .inl ⟨rfl, h.symm⟩
  | some o => exact .inr ⟨o, rfl, h.symm⟩

omit [DecidableEq ι] [DecidableEq ω] [DecidableEq κ] [DecidableEq ρ] [Inhabited χ] in
theorem Grip.creates_of_before {creates : Option ω} {o : ω}
    (h : (Grip.before creates : Grip ω ρ).stake.object? = some o) : creates = some o := by
  cases creates with
  | none => cases h
  | some o' => exact h

omit [DecidableEq ι] [Inhabited χ] in
theorem Wrapper.Fresh.safe (h : start.Fresh L Q creates) :
    start.Safe L Q fun i => .before (creates i) where
  fits i := {
    abides := h.abides i
    owner := fun o => by simp [Grip.before, h.owner o]
    nodup := List.nodup_nil
    refs := nofun
    held := nofun
    known := nofun
    missing := nofun
    making := fun o _ => h.made o
    staked := fun o _ => h.field o
    unborn := fun o _ _ => h.slots o
    born := fun o ho => by
      rcases Grip.before_stake ho with ⟨-, hstake⟩ | ⟨o', -, hstake⟩ <;> cases hstake
    fetched := fun o address ho => by
      rcases Grip.before_stake ho with ⟨-, hstake⟩ | ⟨o', -, hstake⟩ <;> cases hstake
    doomed := fun o ho => by
      rcases Grip.before_stake ho with ⟨-, hstake⟩ | ⟨o', -, hstake⟩ <;> cases hstake
    accords := by
      rw [h.quiet.pending i]
      exact ⟨rfl, h.call i⟩ }
  apart i j o hi hj := h.apart i j o (Grip.creates_of_before hi) (Grip.creates_of_before hj)
  settled o _ := (h.slots o).trans (h.field o).symm
  unmade o _ := h.field o

omit [DecidableEq ω] [DecidableEq ρ] in
theorem run_calls_orderly (law : L.Lawful) (hquiet : start.pool.Quiet)
    {past : List (Label ι κ δ ρ)} (hrun : Run (Interleaves (w.calls L)) start.pool past w.pool) :
    Orderly (w.calls L) (w.posts L) past w.pool :=
  run_orderly hquiet (fun _ content => law.outline _ content) hrun

omit [DecidableEq ρ] [Inhabited χ] in
theorem Wrapper.Step.own_pool {i : ι} (hstep : Wrapper.Step L w (.own i) w') :
    w'.call = w.call ∧ w'.pool = w.pool := by
  cases hstep <;> exact ⟨rfl, rfl⟩

/-- A step of the wrapper that the library sees is a step of its calls. -/
theorem Wrapper.Safe.native_step {g : ι → Grip ω ρ} {l : Label ι κ δ ρ}
    {past : List (Label ι κ δ ρ)} (hs : w.Safe L Q g) (law : L.Lawful)
    (hrun : Run (Interleaves (w.calls L)) start.pool past w.pool)
    (hstep : Wrapper.Step L w (.native l) w') :
    Run (Interleaves (w'.calls L)) start.pool (past ++ [l]) w'.pool := by
  cases hstep with
  | @enter i c next hi hpending =>
      -- no other call under way has been given the variable of this one
      have hbefore : Run (Interleaves
          (Wrapper.calls L { w with call := Function.update w.call i (some c) }))
          start.pool past w.pool := by
        refine run_congr hrun fun j hj => ?_
        have hji : j ≠ i := by
          rintro rfl
          exact hj hpending
        simp [Wrapper.calls, Function.update_of_ne hji]
      have hprogram : L.program c = (Wrapper.calls L { w with
          call := Function.update w.call i (some c) }).program i := by
        simp [Wrapper.calls]
      rw [hprogram]
      refine hbefore.snoc (.start hpending fun j r k hr hk hk' => ?_)
      have hji : j ≠ i := by
        rintro rfl
        rw [hpending] at hr
        cases hr
      simp only [Wrapper.calls, Function.update_self, Option.getD_some] at hk
      simp only [Wrapper.calls, Function.update_of_ne hji] at hk'
      obtain ⟨o, rfl, hstake⟩ := (hs.fits i).slot_staked hi hk
      obtain ⟨o', hplace, hstake'⟩ := hs.slot_staked hr hk'
      rw [← law.place_injective hplace] at hstake'
      refine hji (hs.apart j i o ?_ ?_)
      · rcases hstake' with h | h <;> rw [h] <;> rfl
      · rcases hstake with h | h <;> rw [h] <;> rfl
  | native hr hmove => exact hrun.snoc (.move hr hmove)
  | leave hi hr hcode => exact hrun.snoc (.finish hr hcode)

/--
However the routines are interleaved, their grips fit, and the calls that they make
are a run of the library's calls.
-/
theorem run_safe (law : L.Lawful) (hfresh : start.Fresh L Q creates)
    (hrun : Run (Wrapper.Step L) start history w) :
    (∃ g, w.Safe L Q g) ∧
      Run (Interleaves (w.calls L)) start.pool (history.filterMap Act.native?) w.pool := by
  induction hrun with
  | nil => exact ⟨⟨_, hfresh.safe⟩, .nil⟩
  | @snoc history w w' a _ hlast ih =>
      obtain ⟨⟨g, hs⟩, hcalls⟩ := ih
      have ho := run_calls_orderly law hfresh.quiet hcalls
      refine ⟨hs.step law ho hlast, ?_⟩
      rw [List.filterMap_append]
      cases a with
      | own i =>
          obtain ⟨hcall, hpool⟩ := hlast.own_pool
          have hsame : w'.calls L = w.calls L := by simp only [Wrapper.calls, hcall]
          rw [hsame, hpool, List.filterMap_cons_none rfl, List.filterMap_nil, List.append_nil]
          exact hcalls
      | native l => exact hs.native_step law hcalls hlast

end Runs

end AuraOpaque.Foundation
