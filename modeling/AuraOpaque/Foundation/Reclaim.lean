import AuraOpaque.Foundation.Completion

/-!
# Nothing is left behind

A call is thrifty when it does not overwrite the only pointer to an object.  Every
object that thrifty calls of a wrapper have created is in a field, or in the hands
of a routine that is not at its end: once all routines are, the objects of the
library that are there are those that a field of the wrapper points to.
-/

namespace AuraOpaque.Foundation

variable {ι ω χ κ δ ρ α : Type}

/-! ## Thrifty calls -/

namespace Program

/--
With a pointer in its slot, a program clears the slot only after it has taken the
object for good; it publishes a new object only into an empty one.
-/
def Thrifty : Program κ δ ρ α → (content : ℕ) → Claim κ → Prop
  | .ret _, _, _ => True
  | .exit _, _, _ => True
  | .acquire _ next, content, own => ∀ taken, (next taken).Thrifty content own
  | .release _ next, content, own => next.Thrifty content own
  | .act _ next, content, own => ∀ b, (next b).Thrifty content own
  | .load _ next, content, own => (next content).Thrifty content own
  | .clear k next, content, own =>
      (content ≠ 0 → own = .taken ⟨k.kind, content⟩) ∧ next.Thrifty 0 own
  | .claim h next, content, own =>
      (next false).Thrifty content own ∧ (next true).Thrifty content (.taken h)
  | .publish _ _ next, content, own => content = 0 ∧ ∀ address, next.Thrifty address own
  | .dispose h _ next, content, _ => next.Thrifty content (.freed h)

theorem Thrifty.of_code {p : Program κ δ ρ ρ} {code : ρ} (hcode : p.code = some code)
    {content : ℕ} {own : Claim κ} : p.Thrifty content own := by
  cases p with
  | ret c => trivial
  | exit c => trivial
  | _ => cases hcode

/-- A program that works on data under guards has no pointer to lose. -/
theorem Plain.thrifty {p : Program κ δ ρ ρ} {live : Handle κ → Bool} (hp : p.Plain live)
    (content : ℕ) (own : Claim κ) : p.Thrifty content own := by
  induction p with
  | ret code => trivial
  | exit code => trivial
  | acquire h next ih => exact fun taken => ih taken (hp.2 taken)
  | act step next ih => exact fun b => ih b (hp b)
  | _ => cases hp

end Program

section Steps

variable [DecidableEq κ] {r r' : Running κ δ ρ} {s s' : Shared κ δ} {e : Event κ ρ}
  {slot : Option (Slot κ)} {Q : ρ → Ghost κ → Prop} {g : Ghost κ} {h : Handle κ}

theorem Moves.thrifty (hmove : Moves r s e r' s')
    (hr : r.program.Thrifty (s.content slot) r.claim) (houtline : Outline slot Q r.program g) :
    r'.program.Thrifty (s'.content slot) r'.claim := by
  cases hmove with
  | acquire => exact hr true
  | busy => exact hr false
  | release => exact hr
  | act => exact hr _
  | fail => trivial
  | load =>
      obtain ⟨rfl, -⟩ := houtline
      exact hr
  | clear =>
      obtain ⟨rfl, -⟩ := houtline
      have hzero : (s.clear ‹Slot κ›).content (some ‹Slot κ›) = 0 := by
        simp [Shared.content, Shared.clear]
      rw [hzero]
      exact hr.2
  | claim => exact hr.2
  | refused => exact hr.1
  | publish => exact hr.2 _
  | dispose => exact hr
  | drop hcode => exact .of_code hcode

/-- The call is in charge of the object: its slot points there, or it has taken it for good. -/
def Running.Minds (r : Running κ δ ρ) (slot : Option (Slot κ)) (s : Shared κ δ)
    (h : Handle κ) : Prop :=
  (∃ k, slot = some k ∧ s.slots k ≠ 0 ∧ h = ⟨k.kind, s.slots k⟩) ∨ r.claim = .taken h

/-- What is there after a step of a thrifty call is its own affair, or was not before. -/
theorem Moves.minds (hmove : Moves r s e r' s')
    (hr : r.program.Thrifty (s.content slot) r.claim) (houtline : Outline slot Q r.program g)
    (hlive : s'.live h = true) :
    r'.Minds slot s' h ∨ (s.live h = true ∧ ¬ r.Minds slot s h) := by
  cases hmove with
  | @clear k next guards claim s =>
      obtain ⟨rfl, -⟩ := houtline
      by_cases hmine : (⟨.clear k next, guards, claim⟩ : Running κ δ ρ).Minds (some k) s h
      · refine .inl (.inr ?_)
        rcases hmine with ⟨k', hk, hne, rfl⟩ | hclaim
        · cases hk
          exact hr.1 hne
        · exact hclaim
      · exact .inr ⟨hlive, hmine⟩
  | @claim h' next guards s hfree =>
      by_cases hmine : (⟨.claim h' next, guards, .none⟩ : Running κ δ ρ).Minds slot s h
      · rcases hmine with hslot | hclaim
        · exact .inl (.inl hslot)
        · cases hclaim
      · exact .inr ⟨hlive, hmine⟩
  | @publish k create next guards claim s address hne hfresh =>
      obtain ⟨rfl, -⟩ := houtline
      have hempty : s.slots k = 0 := hr.1
      by_cases hh : h = ⟨k.kind, address⟩
      · refine .inl (.inl ⟨k, rfl, ?_, ?_⟩)
        · rwa [Shared.publish_slots_self]
        · rwa [Shared.publish_slots_self]
      · rw [Shared.publish_live_of_ne hh] at hlive
        by_cases hclaim : claim = .taken h
        · exact .inl (.inr hclaim)
        · refine .inr ⟨hlive, ?_⟩
          rintro (⟨k', hk, hfull, -⟩ | hmine)
          · cases hk
            exact hfull hempty
          · exact hclaim hmine
  | @dispose h' wipe next guards s =>
      have hh : h ≠ h' := by
        rintro rfl
        rw [Shared.dispose_live_self] at hlive
        cases hlive
      rw [Shared.dispose_live_of_ne hh] at hlive
      by_cases hmine : (⟨.dispose h' wipe next, guards, .taken h'⟩ : Running κ δ ρ).Minds slot s h
      · rcases hmine with hslot | hclaim
        · exact .inl (.inl hslot)
        · cases hclaim
          exact absurd rfl hh
      · exact .inr ⟨hlive, hmine⟩
  | _ => exact Classical.or_iff_not_imp_left.mpr fun hmine => ⟨hlive, hmine⟩

end Steps

/-! ## Wrappers -/

section Wrappers

variable [DecidableEq ι] [DecidableEq ω] [DecidableEq κ] [DecidableEq ρ] [Inhabited χ]
  {L : Library ω χ κ δ ρ} {Q : ι → α → Grip ω ρ → Prop} {w w' : Wrapper ι ω χ κ δ ρ α}
  {g : ι → Grip ω ρ} {i : ι} {history : List (Label ι κ δ ρ)}

/-- The calls of the library are thrifty, the creating ones when they find their slot empty. -/
def Library.Thrifty (L : Library ω χ κ δ ρ) : Prop :=
  ∀ c content, (∀ o, L.effect c = .creates o → content = 0) → (L.program c).Thrifty content .none

namespace Wrapper

/-- Every object that is there is pointed to, or a call is about to dispose of it. -/
structure Accounted (L : Library ω χ κ δ ρ) (w : Wrapper ι ω χ κ δ ρ α) : Prop where
  thrifty : ∀ i r, w.pool.status i = .running r →
    r.program.Thrifty (w.pool.shared.content ((w.calls L).slot i)) r.claim
  placed : ∀ h, w.pool.shared.live h = true →
    (∃ o, w.pool.shared.slots (L.place o) ≠ 0 ∧
      h = ⟨(L.place o).kind, w.pool.shared.slots (L.place o)⟩) ∨
    ∃ i r, w.pool.status i = .running r ∧ r.claim = .taken h

namespace Accounted

omit [DecidableEq ρ] in
theorem own (ha : Accounted L w) (hstep : Step L w (.own i) w') : Accounted L w' := by
  obtain ⟨hcall, hpool⟩ := hstep.own_pool
  have hcalls : w'.calls L = w.calls L := by simp only [calls, hcall]
  constructor
  · rw [hcalls, hpool]
    exact ha.thrifty
  · rw [hpool]
    exact ha.placed

theorem enter {c : χ} {next : ρ → Routine ω χ δ ρ α} (ha : Accounted L w) (hs : Safe L Q g w)
    (hthrifty : L.Thrifty) (hi : w.routine i = .call c next)
    (hpending : w.pool.status i = .pending) :
    Accounted L { w with
      call := Function.update w.call i (some c)
      pool := w.pool.set i (.running ⟨L.program c, [], .none⟩) w.pool.shared } where
  thrifty j r hr := by
    rcases Pool.running_set hr with ⟨rfl, rfl⟩ | ⟨hj, hold⟩
    · simp only [calls, Function.update_self, Option.getD_some]
      refine hthrifty c _ fun o heffect => ?_
      have hentitled := (hs.fits j).entitled hi
      simp only [Grip.Entitled, heffect] at hentitled
      have hempty := (hs.fits j).unborn o hentitled hpending
      simpa [Library.slot, heffect, Effect.object?, Shared.content, Pool.set] using hempty
    · have hkept := ha.thrifty j r hold
      simpa only [calls, Function.update_of_ne hj, Pool.set] using hkept
  placed h hlive := by
    rcases ha.placed h hlive with hplaced | ⟨j, r, hr, hclaim⟩
    · exact .inl hplaced
    · have hj : j ≠ i := by
        rintro rfl
        rw [hpending] at hr
        cases hr
      exact .inr ⟨j, r, by rwa [Pool.status_set, if_neg hj], hclaim⟩

theorem native {r r' : Running κ δ ρ} {e : Event κ ρ} {s' : Shared κ δ} (ha : Accounted L w)
    (hs : Safe L Q g w) (ho : Orderly (w.calls L) (w.posts L) history w.pool)
    (hr : w.pool.status i = .running r) (hmove : Moves r w.pool.shared e r' s') :
    Accounted L { w with pool := w.pool.set i (.running r') s' } := by
  obtain ⟨gh, hgh⟩ := ho.outlined i r hr
  have hthrifty := ha.thrifty i r hr
  -- the slots of the other calls are not touched
  have hkept : ∀ k, (w.calls L).slot i ≠ some k → s'.slots k = w.pool.shared.slots k :=
    fun k hk => hmove.slots hgh.outline hk
  constructor
  · intro j q hq
    rcases Pool.running_set hq with ⟨rfl, rfl⟩ | ⟨hj, hold⟩
    · exact hmove.thrifty hthrifty hgh.outline
    · have hother := ha.thrifty j q hold
      have hsame : s'.content ((w.calls L).slot j) =
          w.pool.shared.content ((w.calls L).slot j) := by
        cases hslot : (w.calls L).slot j with
        | none => rfl
        | some k => exact hkept k fun hk => hj (ho.apart j i q r k hold hr hslot hk)
      change q.program.Thrifty (s'.content ((w.calls L).slot j)) q.claim
      rwa [hsame]
  · intro h hlive
    have hrunning : (w.pool.set i (.running r') s').status i = .running r' := by
      rw [Pool.status_set, if_pos rfl]
    rcases hmove.minds hthrifty hgh.outline hlive with
      (⟨k, hslot, hne, hh⟩ | hclaim) | ⟨hbefore, hmine⟩
    · obtain ⟨o, rfl, -⟩ := hs.slot_staked hr hslot
      exact .inl ⟨o, hne, hh⟩
    · exact .inr ⟨i, r', hrunning, hclaim⟩
    · rcases ha.placed h hbefore with ⟨o, hne, hh⟩ | ⟨j, q, hq, hclaim⟩
      · have hsame := hkept (L.place o) fun hslot => hmine (.inl ⟨_, hslot, hne, hh⟩)
        refine .inl ⟨o, ?_, ?_⟩
        · exact fun hzero => hne (hsame.symm.trans hzero)
        · change h = ⟨(L.place o).kind, s'.slots (L.place o)⟩
          rw [hsame]
          exact hh
      · have hj : j ≠ i := by
          rintro rfl
          rw [hr] at hq
          cases hq
          exact hmine (.inr hclaim)
        exact .inr ⟨j, q, (Pool.status_set _ _ _ _ _).trans ((if_neg hj).trans hq), hclaim⟩

omit [DecidableEq ω] [DecidableEq ρ] in
theorem leave {next : ρ → Routine ω χ δ ρ α} {program : Program κ δ ρ ρ} {claim : Claim κ}
    {code : ρ} (ha : Accounted L w) (ho : Orderly (w.calls L) (w.posts L) history w.pool)
    (hr : w.pool.status i = .running ⟨program, [], claim⟩) (hcode : program.code = some code) :
    Accounted L
      { w.goto i (next code) with pool := w.pool.set i (.returned code) w.pool.shared } where
  thrifty j r hj := by
    have hold : w.pool.status j = .running r := by
      have hset := hj
      rw [Pool.status_set] at hset
      split at hset
      · cases hset
      · exact hset
    exact ha.thrifty j r hold
  placed h hlive := by
    rcases ha.placed h hlive with hplaced | ⟨j, r, hj, hclaim⟩
    · exact .inl hplaced
    · -- a call does not leave with what it has taken for good
      have hji : j ≠ i := by
        rintro rfl
        rw [hr] at hj
        cases hj
        obtain ⟨gh, hgh⟩ := ho.outlined j _ hr
        exact (hgh.outline.of_code hcode).1 h (hgh.fits.claim.trans hclaim)
      exact .inr ⟨j, r, (Pool.status_set _ _ _ _ _).trans ((if_neg hji).trans hj), hclaim⟩

theorem step {a : Act ι κ δ ρ} (ha : Accounted L w) (hs : Safe L Q g w) (hthrifty : L.Thrifty)
    (ho : Orderly (w.calls L) (w.posts L) history w.pool) (hstep : Step L w a w') :
    Accounted L w' := by
  cases a with
  | own i => exact ha.own hstep
  | native l =>
      cases hstep with
      | enter hi hpending => exact ha.enter hs hthrifty hi hpending
      | native hr hmove => exact ha.native hs ho hr hmove
      | leave hi hr hcode => exact ha.leave ho hr hcode

end Accounted

end Wrapper

variable {creates : ι → Option ω} {start : Wrapper ι ω χ κ δ ρ α} {past : List (Act ι κ δ ρ)}

theorem run_accounted (law : L.Lawful) (hthrifty : L.Thrifty) (hfresh : start.Fresh L Q creates)
    (hnone : ∀ h, start.pool.shared.live h = false) (hrun : Run (Wrapper.Step L) start past w) :
    w.Accounted L := by
  induction hrun with
  | nil =>
      constructor
      · intro i r hr
        rw [hfresh.quiet.pending i] at hr
        cases hr
      · intro h hlive
        rw [hnone h] at hlive
        cases hlive
  | snoc hrun hlast ih =>
      obtain ⟨⟨g, hs⟩, hcalls⟩ := run_safe law hfresh hrun
      exact ih.step hs hthrifty (run_calls_orderly law hfresh.quiet hcalls) hlast

omit [DecidableEq ι] [Inhabited χ] in
/-- At its end a routine answers for no pointer. -/
theorem Wrapper.Safe.nothing_at_stake (hs : w.Safe L Q g) (hi : w.Finished i) :
    (g i).stake = .none ∧ ∀ r, w.pool.status i ≠ .running r := by
  have habides := (hs.fits i).abides
  rcases hi with ⟨a, hdone⟩ | ⟨o, next, hrefer, -⟩
  · rw [hdone] at habides
    exact ⟨habides.2.1, (hs.fits i).not_running fun c next => by simp [hdone]⟩
  · rw [hrefer] at habides
    exact ⟨habides.2.1, (hs.fits i).not_running fun c next => by simp [hrefer]⟩

/--
When all routines are at their end, the objects of the library that are there are those
that a field points to.
-/
theorem run_reclaims (law : L.Lawful) (hthrifty : L.Thrifty) (hfresh : start.Fresh L Q creates)
    (hnone : ∀ h, start.pool.shared.live h = false) (hrun : Run (Wrapper.Step L) start past w)
    (hfinished : ∀ i, w.Finished i) (h : Handle κ) :
    w.pool.shared.live h = true ↔
      ∃ o, w.made o = true ∧ w.field o ≠ 0 ∧ h = ⟨(L.place o).kind, w.field o⟩ := by
  obtain ⟨⟨g, hs⟩, hcalls⟩ := run_safe law hfresh hrun
  have ho := run_calls_orderly law hfresh.quiet hcalls
  have hsettled : ∀ o, w.pool.shared.slots (L.place o) = w.field o := by
    intro o
    refine hs.settled o fun i => ?_
    rw [(hs.nothing_at_stake (hfinished i)).1]
    nofun
  constructor
  · intro hlive
    rcases (run_accounted law hthrifty hfresh hnone hrun).placed h hlive with
      ⟨o, hne, hh⟩ | ⟨i, r, hr, -⟩
    · rw [hsettled] at hne hh
      refine ⟨o, ?_, hne, hh⟩
      by_contra hmade
      exact hne (hs.unmade o (Bool.not_eq_true _ ▸ hmade))
    · exact absurd hr ((hs.nothing_at_stake (hfinished i)).2 r)
  · rintro ⟨o, -, hne, rfl⟩
    have hthere := ho.slotsLive (L.place o) (by rwa [hsettled])
    rwa [hsettled] at hthere

end Wrappers

end AuraOpaque.Foundation
