import AuraOpaque.Foundation.Ownership
import AuraOpaque.Foundation.Wrapping
import Mathlib.Data.DFinsupp.WellFounded

/-!
# Routines come to their end

Routines that take their locks in order cannot block one another, and each step
leaves a routine less to do.  So every schedule of finitely many routines comes
to an end, at which each of them has its result, or has not been called because
there is no object to call it on.
-/

namespace AuraOpaque.Foundation

variable {ι ω χ κ δ ρ α : Type}

/-! ## Calls -/

namespace Program

/-- The program drops its guards at its end, not before. -/
def Scoped : Program κ δ ρ α → Prop
  | .ret _ => True
  | .exit _ => True
  | .acquire _ next => ∀ taken, (next taken).Scoped
  | .release _ _ => False
  | .act _ next => ∀ b, (next b).Scoped
  | .load _ next => ∀ address, (next address).Scoped
  | .clear _ next => next.Scoped
  | .claim _ next => ∀ taken, (next taken).Scoped
  | .publish _ _ next => next.Scoped
  | .dispose _ _ next => next.Scoped

theorem Plain.scoped {p : Program κ δ ρ ρ} {live : Handle κ → Bool} (hp : p.Plain live) :
    p.Scoped := by
  induction p with
  | ret code => trivial
  | exit code => trivial
  | acquire h next ih => exact fun taken => ih taken (hp.2 taken)
  | act step next ih => exact fun b => ih b (hp b)
  | _ => cases hp

theorem Unguarded.scoped {p : Program κ δ ρ ρ} (hp : p.Unguarded) : p.Scoped := by
  induction p with
  | ret code => trivial
  | exit code => trivial
  | acquire h next ih => cases hp
  | release h next ih => cases hp
  | act step next ih => exact fun b => ih b (hp b)
  | load slot next ih => exact fun address => ih address (hp address)
  | clear slot next ih => exact ih hp
  | claim h next ih => exact fun taken => ih taken (hp taken)
  | publish slot create next ih => exact ih hp
  | dispose h wipe next ih => exact ih hp

end Program

section Calls

variable [DecidableEq κ] {r r' : Running κ δ ρ} {s s' : Shared κ δ} {e : Event κ ρ}

theorem Moves.scoped (hmove : Moves r s e r' s') (hr : r.program.Scoped) : r'.program.Scoped := by
  cases hmove with
  | acquire => exact hr true
  | busy => exact hr false
  | release => cases hr
  | act => exact hr _
  | fail => trivial
  | load => exact hr _
  | clear => exact hr
  | claim => exact hr true
  | refused => exact hr false
  | publish => exact hr
  | dispose => exact hr
  | drop => exact hr

/-- Some address is not taken. -/
def Shared.Roomy (s : Shared κ δ) : Prop := ∀ kind, ∃ address ≠ 0, s.live ⟨kind, address⟩ = false

/-- A call can always go on, or it has come to its end. -/
theorem Running.moves_or_ends {slot : Option (Slot κ)} {Q : ρ → Ghost κ → Prop} {g : Ghost κ}
    (hscoped : r.program.Scoped) (houtline : Outline slot Q r.program g) (hfits : g.Fits slot r s)
    (hlive : ∀ h next, r.program = .acquire h next → s.live h = true) (hroom : s.Roomy) :
    (∃ e r' s', Moves r s e r' s') ∨
      ∃ program claim code, r = ⟨program, [], claim⟩ ∧ program.code = some code := by
  obtain ⟨program, guards, claim⟩ := r
  -- at the end, guards are left to be dropped or not
  have hend : ∀ code, program.code = some code →
      (∃ e r' s', Moves ⟨program, guards, claim⟩ s e r' s') ∨
      ∃ program' claim' code, (⟨program, guards, claim⟩ : Running κ δ ρ) = ⟨program', [], claim'⟩ ∧
        program'.code = some code := by
    intro code hcode
    cases guards with
    | nil => exact .inr ⟨program, claim, code, rfl, hcode⟩
    | cons h guards => exact .inl ⟨_, _, _, .drop hcode⟩
  cases program with
  | ret code => exact hend code rfl
  | exit code => exact hend code rfl
  | acquire h next =>
      have hthere := hlive h next rfl
      cases hflag : s.inUse h with
      | false => exact .inl ⟨_, _, _, .acquire hthere hflag⟩
      | true => exact .inl ⟨_, _, _, .busy hthere hflag⟩
  | release h next => cases hscoped
  | act step next =>
      rcases hstep : step s.data with ⟨code | b, data⟩
      · exact .inl ⟨_, _, _, .fail hstep⟩
      · exact .inl ⟨_, _, _, .act hstep⟩
  | load slot next => exact .inl ⟨_, _, _, .load⟩
  | clear slot next => exact .inl ⟨_, _, _, .clear⟩
  | claim h next =>
      have hnone : claim = .none := hfits.claim.symm.trans houtline.1
      subst hnone
      cases hflag : s.inUse h with
      | false => exact .inl ⟨_, _, _, .claim hflag⟩
      | true => exact .inl ⟨_, _, _, .refused hflag⟩
  | publish slot create next =>
      obtain ⟨address, hne, hfresh⟩ := hroom slot.kind
      exact .inl ⟨_, _, _, .publish hne hfresh⟩
  | dispose h wipe next =>
      have htaken : claim = .taken h := hfits.claim.symm.trans houtline.1
      subst htaken
      exact .inl ⟨_, _, _, .dispose⟩

/-! ## Room for new objects -/

abbrev Shared.FewLive (s : Shared κ δ) : Prop := {h | s.live h = true}.Finite

omit [DecidableEq κ] in
theorem Shared.FewLive.roomy (hs : s.FewLive) : s.Roomy := by
  intro kind
  have hpre : {address | s.live ⟨kind, address⟩ = true}.Finite := by
    refine Set.Finite.preimage (f := fun address => (⟨kind, address⟩ : Handle κ)) ?_ hs
    intro a _ b _ hab
    exact congrArg Handle.address hab
  obtain ⟨address, hout⟩ := (hpre.union (Set.finite_singleton 0)).exists_notMem
  simp only [Set.mem_union, Set.mem_ofPred_eq, Set.mem_singleton_iff, not_or,
    Bool.not_eq_true] at hout
  exact ⟨address, hout.2, hout.1⟩

theorem Moves.fewLive (hmove : Moves r s e r' s') (hs : s.FewLive) : s'.FewLive := by
  cases hmove with
  | @publish slot create next guards claim s address hne hfresh =>
      refine (hs.insert ⟨slot.kind, address⟩).subset fun h hlive => ?_
      by_cases hh : h = ⟨slot.kind, address⟩
      · exact .inl hh
      · exact .inr ((Shared.publish_live_of_ne hh).symm.trans hlive)
  | @dispose h' wipe next guards s =>
      refine hs.subset fun h hlive => ?_
      by_cases hh : h = h'
      · subst hh
        rw [Set.mem_ofPred_eq, Shared.dispose_live_self] at hlive
        cases hlive
      · exact (Shared.dispose_live_of_ne hh).symm.trans hlive
  | _ => exact hs

/-! ## Every step is one of finitely many -/

/-- A call makes finitely many steps, whatever it finds. -/
theorem Moves.acc (r : Running κ δ ρ) : Acc (fun r' r => ∃ s e s', Moves r s e r' s') r := by
  obtain ⟨program, guards, claim⟩ := r
  -- what is left at the end is the list of guards
  have hend : ∀ (program : Program κ δ ρ ρ) code, program.code = some code →
      ∀ guards claim, Acc (fun r' r => ∃ s e s', Moves r s e r' s') ⟨program, guards, claim⟩ := by
    intro program code hcode guards claim
    induction guards with
    | nil =>
        refine ⟨_, fun r' ⟨s, e, s', hmove⟩ => ?_⟩
        cases hmove <;> cases hcode
    | cons h guards ih =>
        refine ⟨_, fun r' ⟨s, e, s', hmove⟩ => ?_⟩
        cases hmove <;> first | exact ih | cases hcode
  induction program generalizing guards claim with
  | ret code => exact hend _ code rfl guards claim
  | exit code => exact hend _ code rfl guards claim
  | acquire h next ih =>
      refine ⟨_, fun r' ⟨s, e, s', hmove⟩ => ?_⟩
      cases hmove with
      | acquire => exact ih true _ _
      | busy => exact ih false _ _
      | drop hcode => cases hcode
  | release h next ih =>
      refine ⟨_, fun r' ⟨s, e, s', hmove⟩ => ?_⟩
      cases hmove with
      | release => exact ih _ _
      | drop hcode => cases hcode
  | act step next ih =>
      refine ⟨_, fun r' ⟨s, e, s', hmove⟩ => ?_⟩
      cases hmove with
      | act => exact ih _ _ _
      | fail => exact hend _ _ rfl _ _
      | drop hcode => cases hcode
  | load slot next ih =>
      refine ⟨_, fun r' ⟨s, e, s', hmove⟩ => ?_⟩
      cases hmove with
      | load => exact ih _ _ _
      | drop hcode => cases hcode
  | clear slot next ih =>
      refine ⟨_, fun r' ⟨s, e, s', hmove⟩ => ?_⟩
      cases hmove with
      | clear => exact ih _ _
      | drop hcode => cases hcode
  | claim h next ih =>
      refine ⟨_, fun r' ⟨s, e, s', hmove⟩ => ?_⟩
      cases hmove with
      | claim => exact ih true _ _
      | refused => exact ih false _ _
      | drop hcode => cases hcode
  | publish slot create next ih =>
      refine ⟨_, fun r' ⟨s, e, s', hmove⟩ => ?_⟩
      cases hmove with
      | publish => exact ih _ _
      | drop hcode => cases hcode
  | dispose h wipe next ih =>
      refine ⟨_, fun r' ⟨s, e, s', hmove⟩ => ?_⟩
      cases hmove with
      | dispose => exact ih _ _
      | drop hcode => cases hcode

/-- A call that has begun goes on. -/
inductive Status.Later : Status κ δ ρ → Status κ δ ρ → Prop where
  | begun {r : Running κ δ ρ} : Later (.running r) .pending
  | moved {r r' : Running κ δ ρ} {s s' : Shared κ δ} {e : Event κ ρ} (hmove : Moves r s e r' s') :
      Later (.running r') (.running r)

theorem Status.later_wf :
    WellFounded (Status.Later : Status κ δ ρ → Status κ δ ρ → Prop) := by
  have hrunning : ∀ r : Running κ δ ρ, Acc Status.Later (.running r) := by
    intro r
    induction Moves.acc r with
    | intro r _ ih =>
        refine ⟨_, fun status hlater => ?_⟩
        cases hlater with
        | moved hmove => exact ih _ ⟨_, _, _, hmove⟩
  refine ⟨fun status => ?_⟩
  cases status with
  | running r => exact hrunning r
  | pending =>
      refine ⟨_, fun status hlater => ?_⟩
      cases hlater with
      | begun => exact hrunning _
  | returned code =>
      refine ⟨_, fun status hlater => ?_⟩
      cases hlater

end Calls

/-! ## Routines -/

section Routines

/-- What is left of a routine after a step. -/
inductive Routine.Rest : Routine ω χ δ ρ α → Routine ω χ δ ρ α → Prop where
  | refer {o next} : Rest next (.refer o next)
  | lock {o next} : Rest next (.lock o next)
  | unlock {o next} : Rest next (.unlock o next)
  | get {o next address} : Rest (next address) (.get o next)
  | clear {o next} : Rest next (.clear o next)
  | call {c next code} : Rest (next code) (.call c next)
  | fetch {o next address} : Rest (next address) (.fetch o next)
  | make {o address next} : Rest next (.make o address next)
  | look {β : Type} {view : δ → β} {next b} : Rest (next b) (.look view next)

theorem Routine.rest_wf :
    WellFounded (Routine.Rest : Routine ω χ δ ρ α → Routine ω χ δ ρ α → Prop) := by
  refine ⟨fun routine => ?_⟩
  induction routine with
  | done a =>
      refine ⟨_, fun rest hrest => ?_⟩
      cases hrest
  | refer o next ih =>
      refine ⟨_, fun rest hrest => ?_⟩
      cases hrest with
      | refer => exact ih
  | lock o next ih =>
      refine ⟨_, fun rest hrest => ?_⟩
      cases hrest with
      | lock => exact ih
  | unlock o next ih =>
      refine ⟨_, fun rest hrest => ?_⟩
      cases hrest with
      | unlock => exact ih
  | get o next ih =>
      refine ⟨_, fun rest hrest => ?_⟩
      cases hrest with
      | get => exact ih _
  | clear o next ih =>
      refine ⟨_, fun rest hrest => ?_⟩
      cases hrest with
      | clear => exact ih
  | call c next ih =>
      refine ⟨_, fun rest hrest => ?_⟩
      cases hrest with
      | call => exact ih _
  | fetch o next ih =>
      refine ⟨_, fun rest hrest => ?_⟩
      cases hrest with
      | fetch => exact ih _
  | make o address next ih =>
      refine ⟨_, fun rest hrest => ?_⟩
      cases hrest with
      | make => exact ih
  | look view next ih =>
      refine ⟨_, fun rest hrest => ?_⟩
      cases hrest with
      | look => exact ih _

variable [DecidableEq ι] [DecidableEq ω] [DecidableEq κ] {L : Library ω χ κ δ ρ}
  {w w' : Wrapper ι ω χ κ δ ρ α} {a : Act ι κ δ ρ}

/-- What a routine has to do, and its call. -/
def Wrapper.task (w : Wrapper ι ω χ κ δ ρ α) (i : ι) : Routine ω χ δ ρ α × Status κ δ ρ :=
  (w.routine i, w.pool.status i)

/-- A step leaves one routine less to do, and the others as much as before. -/
theorem Wrapper.Step.task (hstep : Wrapper.Step L w a w') :
    ∃ i, Prod.Lex Routine.Rest Status.Later (w'.task i) (w.task i) ∧
      ∀ j ≠ i, w'.task j = w.task j := by
  -- an own step of a routine leaves the pool alone
  have hown : ∀ i (rest : Routine ω χ δ ρ α) (w' : Wrapper ι ω χ κ δ ρ α),
      w'.routine = (w.goto i rest).routine → w'.pool = w.pool →
      Routine.Rest rest (w.routine i) →
      ∃ i, Prod.Lex Routine.Rest Status.Later (w'.task i) (w.task i) ∧
        ∀ j ≠ i, w'.task j = w.task j := by
    intro i rest w' hroutine hpool hrest
    refine ⟨i, ?_, fun j hj => ?_⟩
    · unfold Wrapper.task
      rw [hroutine, goto_routine_self]
      exact .left _ _ hrest
    · unfold Wrapper.task
      rw [hroutine, hpool, goto_routine_of_ne _ _ hj]
  cases hstep with
  | refer hi => exact hown _ _ _ rfl rfl (hi ▸ .refer)
  | lock hi => exact hown _ _ _ rfl rfl (hi ▸ .lock)
  | unlock hi => exact hown _ _ _ rfl rfl (hi ▸ .unlock)
  | get hi => exact hown _ _ _ rfl rfl (hi ▸ .get)
  | clear hi => exact hown _ _ _ rfl rfl (hi ▸ .clear)
  | fetch hi => exact hown _ _ _ rfl rfl (hi ▸ .fetch)
  | make hi => exact hown _ _ _ rfl rfl (hi ▸ .make)
  | look hi => exact hown _ _ _ rfl rfl (hi ▸ .look)
  | @enter i c next hi hpending =>
      refine ⟨i, ?_, fun j hj => ?_⟩
      · unfold Wrapper.task
        rw [hpending, Pool.status_set, if_pos rfl]
        exact .right _ .begun
      · unfold Wrapper.task
        rw [Pool.status_set, if_neg hj]
  | @native i r e r' s' hr hmove =>
      refine ⟨i, ?_, fun j hj => ?_⟩
      · unfold Wrapper.task
        rw [hr, Pool.status_set, if_pos rfl]
        exact .right _ (.moved hmove)
      · unfold Wrapper.task
        rw [Pool.status_set, if_neg hj]
  | @leave i c next program claim code hi hr hcode =>
      refine ⟨i, ?_, fun j hj => ?_⟩
      · unfold Wrapper.task
        refine .left _ _ ?_
        rw [hi]
        exact (w.goto_routine_self i (next code)).symm ▸ .call
      · unfold Wrapper.task
        rw [Pool.status_set, if_neg hj, goto_routine_of_ne _ _ hj]

/-- Finitely many routines take finitely many steps, in any order. -/
theorem Wrapper.step_wf [Finite ι] (L : Library ω χ κ δ ρ) :
    WellFounded fun w' w : Wrapper ι ω χ κ δ ρ α => ∃ a, Wrapper.Step L w a w' := by
  have htask : WellFounded (Prod.Lex Routine.Rest Status.Later :
      Routine ω χ δ ρ α × Status κ δ ρ → Routine ω χ δ ρ α × Status κ δ ρ → Prop) :=
    WellFounded.prod_lex Routine.rest_wf Status.later_wf
  have htasks := Pi.Lex.wellFounded (WellOrderingRel (α := ι)) fun _ : ι => htask
  refine Subrelation.wf ?_ (InvImage.wf Wrapper.task htasks)
  rintro w' w ⟨a, hstep⟩
  obtain ⟨i, hless, hothers⟩ := hstep.task
  refine ⟨i, fun j hj => hothers j ?_, hless⟩
  rintro rfl
  exact irrefl j hj

end Routines

/-! ## No routine blocks another for good -/

section Progress

variable [DecidableEq ι] [DecidableEq ω] [DecidableEq κ] [DecidableEq ρ] [Inhabited χ]
  {L : Library ω χ κ δ ρ} {Q : ι → α → Grip ω ρ → Prop} {w : Wrapper ι ω χ κ δ ρ α}
  {g : ι → Grip ω ρ} {i : ι} {history : List (Label ι κ δ ρ)}

namespace Wrapper

/-- The routine has its result, or there is no object that it could be called on. -/
def Finished (w : Wrapper ι ω χ κ δ ρ α) (i : ι) : Prop :=
  (∃ a, w.routine i = .done a) ∨ ∃ o next, w.routine i = .refer o next ∧ w.made o = false

/-- Nothing can happen any more. -/
def Stuck (L : Library ω χ κ δ ρ) (w : Wrapper ι ω χ κ δ ρ α) : Prop :=
  ∀ a w', ¬ Step L w a w'

/-- A call under way can go on. -/
theorem Safe.call_moves (hs : Safe L Q g w)
    (ho : Orderly (w.calls L) (w.posts L) history w.pool) {r : Running κ δ ρ}
    (hr : w.pool.status i = .running r) (hscoped : r.program.Scoped)
    (hroom : w.pool.shared.Roomy) : ¬ Stuck L w := by
  intro hstuck
  obtain ⟨c, next, hi, hcall, ⟨tried, hanswers, -⟩, -⟩ := hs.running_call hr
  obtain ⟨gh, hgh⟩ := ho.outlined i r hr
  -- what the call tries is there: its pointer is in a field
  have hlive : ∀ h next, r.program = .acquire h next → w.pool.shared.live h = true := by
    intro h next hprogram
    rw [hprogram] at hanswers
    obtain ⟨o, -, hfield, hne, hkind⟩ := (hs.fits i).uses_field hi hanswers.1
    have hpointer := hs.pointer (by rw [hfield]; exact hne)
    have hthere := ho.slotsLive (L.place o) (by rw [hpointer, hfield]; exact hne)
    rw [hpointer, hfield, ← hkind] at hthere
    exact hthere
  rcases Running.moves_or_ends hscoped hgh.outline hgh.fits hlive hroom with
    ⟨e, r', s', hmove⟩ | ⟨program, claim, code, rfl, hcode⟩
  · exact hstuck _ _ (.native hr hmove)
  · exact hstuck _ _ (.leave hi hr hcode)

/-- Where nothing can happen, a routine that is not finished waits for a lock. -/
theorem Safe.waits_of_stuck (hs : Safe L Q g w)
    (ho : Orderly (w.calls L) (w.posts L) history w.pool)
    (hscoped : ∀ i r, w.pool.status i = .running r → r.program.Scoped)
    (hroom : w.pool.shared.Roomy) (hstuck : Stuck L w) (i : ι) :
    w.Finished i ∨ ∃ o next j, w.routine i = .lock o next ∧ w.owner o = some j := by
  have habides := (hs.fits i).abides
  cases hi : w.routine i with
  | done a => exact .inl (.inl ⟨a, hi⟩)
  | refer o next =>
      cases hmade : w.made o with
      | false => exact .inl (.inr ⟨o, next, hi, hmade⟩)
      | true => exact absurd (.refer hi hmade) (hstuck _ _)
  | lock o next =>
      cases howner : w.owner o with
      | none => exact absurd (.lock hi howner) (hstuck _ _)
      | some j => exact .inr ⟨o, next, j, rfl, howner⟩
  | unlock o next =>
      rw [hi] at habides
      exact absurd (.unlock hi (((hs.fits i).owner o).mp habides.1)) (hstuck _ _)
  | get o next => exact absurd (.get hi) (hstuck _ _)
  | clear o next => exact absurd (.clear hi) (hstuck _ _)
  | fetch o next => exact absurd (.fetch hi) (hstuck _ _)
  | make o address next => exact absurd (.make hi) (hstuck _ _)
  | look view next => exact absurd (.look hi) (hstuck _ _)
  | call c next =>
      cases hstatus : w.pool.status i with
      | pending => exact absurd (.enter hi hstatus) (hstuck _ _)
      | running r =>
          exact absurd hstuck (hs.call_moves ho hstatus (hscoped i r hstatus) hroom)
      | returned code =>
          have haccords := (hs.fits i).accords
          rw [hstatus] at haccords
          rw [hi] at habides
          have hcode := haccords.1
          rw [habides.1] at hcode
          cases hcode

/-- Whoever has a lock waits for one of higher rank at most, so nobody waits for good. -/
theorem Safe.finished_of_stuck (hs : Safe L Q g w)
    (ho : Orderly (w.calls L) (w.posts L) history w.pool)
    (hscoped : ∀ i r, w.pool.status i = .running r → r.program.Scoped)
    (hroom : w.pool.shared.Roomy) {top : ℕ} (htop : ∀ o, L.rank o ≤ top) (hstuck : Stuck L w)
    (i : ι) : w.Finished i := by
  have hwaits := hs.waits_of_stuck ho hscoped hroom hstuck
  -- the owner of a lock that is waited for waits for one of higher rank
  have hhigher : ∀ i o next, w.routine i = .lock o next →
      ∃ j o' next', w.routine j = .lock o' next' ∧ L.rank o < L.rank o' := by
    intro i o next hi
    rcases hwaits i with (⟨a, hdone⟩ | ⟨o', next', hrefer, -⟩) | ⟨o', next', j, hlock, howner⟩
    · rw [hi] at hdone
      cases hdone
    · rw [hi] at hrefer
      cases hrefer
    · rw [hi] at hlock
      cases hlock
      have hheld := ((hs.fits j).owner o).mpr howner
      have habides := (hs.fits j).abides
      rcases hwaits j with (⟨a, hj⟩ | ⟨o', next', hj, -⟩) | ⟨o', next', k, hj, -⟩ <;>
        rw [hj] at habides
      · rw [habides.1] at hheld
        cases hheld
      · rw [habides.1] at hheld
        cases hheld
      · exact ⟨j, o', next', hj, habides.2.1 o hheld⟩
  have hnone : ∀ n i o next, w.routine i = .lock o next → top < L.rank o + n → False := by
    intro n
    induction n with
    | zero =>
        intro i o next _ hlt
        exact absurd (htop o) (Nat.not_le.mpr hlt)
    | succ n ih =>
        intro i o next hi hlt
        obtain ⟨j, o', next', hj, hrank⟩ := hhigher i o next hi
        exact ih j o' next' hj (by omega)
  rcases hwaits i with hfinished | ⟨o, next, j, hi, -⟩
  · exact hfinished
  · exact (hnone (top + 1) i o next hi (by omega)).elim

end Wrapper

variable {creates : ι → Option ω} {start : Wrapper ι ω χ κ δ ρ α}

omit [DecidableEq ω] [DecidableEq ρ] [Inhabited χ] in
theorem run_fewLive {calls : Calls ι κ δ ρ} {before pool : Pool ι κ δ ρ}
    (hfew : before.shared.FewLive) (hrun : Run (Interleaves calls) before history pool) :
    pool.shared.FewLive := by
  induction hrun with
  | nil => exact hfew
  | snoc _ hlast ih =>
      cases hlast with
      | start => exact ih
      | move hr hmove => exact hmove.fewLive ih
      | finish => exact ih

/-- What a schedule of the routines comes to. -/
structure Wrapper.Completes (L : Library ω χ κ δ ρ) (start : Wrapper ι ω χ κ δ ρ α) : Prop where
  /-- No schedule goes on for ever. -/
  ends : ∀ f : ℕ → Wrapper ι ω χ κ δ ρ α, f 0 = start → ¬ ∀ n, ∃ a, Step L (f n) a (f (n + 1))
  /-- It does not end before every routine has its result, or cannot be called. -/
  finished : ∀ history w, Run (Step L) start history w → Stuck L w → ∀ i, w.Finished i

theorem run_completes [Finite ι] (law : L.Lawful) (hscoped : ∀ c, (L.program c).Scoped) {top : ℕ}
    (htop : ∀ o, L.rank o ≤ top) (hfew : start.pool.shared.FewLive)
    (hfresh : start.Fresh L Q creates) : start.Completes L where
  ends f _ hf := by
    have hwf : WellFounded fun w' w : Wrapper ι ω χ κ δ ρ α => ∃ a, Wrapper.Step L w a w' :=
      Wrapper.step_wf L
    exact (wellFounded_iff_isEmpty_descending_chain.mp hwf).false ⟨f, hf⟩
  finished history w hrun hstuck := by
    obtain ⟨⟨g, hs⟩, hcalls⟩ := run_safe law hfresh hrun
    have hroom := (run_fewLive hfew hcalls).roomy
    have ho := run_calls_orderly law hfresh.quiet hcalls
    refine hs.finished_of_stuck ho (fun i r hr => ?_) hroom htop hstuck
    exact run_running (I := fun _ r => r.program.Scoped) hfresh.quiet (fun i => hscoped _)
      (fun _ _ _ _ _ _ hp hmove => hmove.scoped hp) hcalls hr

end Progress

end AuraOpaque.Foundation
