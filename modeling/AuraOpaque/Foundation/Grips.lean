import AuraOpaque.Foundation.Monitors

/-!
# What a routine has in hand

A routine of a wrapper knows which locks it has and what it read under them, and
it may be the one that a pointer is entrusted to while no field has it.  A
routine abides by this when it calls the library with nothing else.  However
routines that abide are interleaved, the calls that they make keep the promises
which the library asks of its callers, and no call ever finds a flag set.
-/

namespace AuraOpaque.Foundation

variable {ι ω χ κ δ ρ α : Type}

/-! ## Grips -/

/-- The pointer that a routine alone answers for. -/
inductive Stake (ω : Type) where
  | none
  /-- The object is to be created. -/
  | unborn (o : ω)
  /-- The library has handed out the pointer. -/
  | born (o : ω)
  | fetched (o : ω) (address : ℕ)
  /-- The pointer was taken out of its field, to be given back. -/
  | doomed (o : ω)

namespace Stake

def object? : Stake ω → Option ω
  | .none => Option.none
  | .unborn o => some o
  | .born o => some o
  | .fetched o _ => some o
  | .doomed o => some o

/-- The object that the routine is making. -/
def making? : Stake ω → Option ω
  | .unborn o => some o
  | .born o => some o
  | .fetched o _ => some o
  | _ => Option.none

theorem object?_of_making? {stake : Stake ω} {o : ω} (h : stake.making? = some o) :
    stake.object? = some o := by
  cases stake <;> first | exact h | cases h

theorem ne_of_object? {stake : Stake ω} {o : ω} (h : stake.object? ≠ some o) :
    stake ≠ .unborn o ∧ stake ≠ .doomed o := by
  constructor <;> rintro rfl <;> exact h rfl

end Stake

structure Grip (ω ρ : Type) where
  refs : List ω
  held : List ω
  known : ω → Option ℕ
  stake : Stake ω
  /-- What the call of the library returned. -/
  code : Option ρ
  /-- An object whose field was found empty. -/
  missing : Option ω

namespace Grip

variable (L : Library ω χ κ δ ρ) (g : Grip ω ρ)

/-- Before its first step a routine has nothing, or an object to create. -/
def before (creates : Option ω) : Grip ω ρ :=
  ⟨[], [], fun _ => none, creates.elim .none .unborn, none, none⟩

section Fields

variable [DecidableEq ω]

def drop (o : ω) : Grip ω ρ :=
  { g with held := g.held.erase o, known := Function.update g.known o none }

def learn (o : ω) (address : ℕ) : Grip ω ρ where
  refs := g.refs
  held := g.held
  known := Function.update g.known o (some address)
  stake := g.stake
  code := g.code
  missing := if address = 0 then some o else g.missing

def takeOut (o : ω) (address : ℕ) : Grip ω ρ where
  refs := g.refs
  held := g.held
  known := Function.update g.known o (some 0)
  stake := if address = 0 then .none else .doomed o
  code := g.code
  missing := g.missing

end Fields

/-- The pointer was read under the lock, and is not nil. -/
def Reaches (h : Handle κ) : Prop :=
  ∃ o ∈ g.held, g.known o = some h.address ∧ h.address ≠ 0 ∧ h.kind = (L.place o).kind

def Entitled (c : χ) : Prop :=
  match L.effect c with
  | .uses handles => ∀ h ∈ handles, g.Reaches L h
  | .creates o => g.stake = .unborn o
  | .destroys o => g.stake = .doomed o

variable [DecidableEq ρ]

def after (c : χ) (code : ρ) : Grip ω ρ where
  refs := g.refs
  held := g.held
  known := g.known
  stake :=
    match L.effect c with
    | .uses _ => g.stake
    | .creates o => if code = L.success then .born o else .none
    | .destroys _ => .none
  code := some code
  missing := g.missing

section After

variable {L g} {c : χ} {code : ρ} {o : ω}

/-- What becomes of the stake when the call returns. -/
theorem Entitled.after_cases (h : g.Entitled L c) (code : ρ) :
    (g.after L c code).stake = g.stake ∨
    (∃ o, L.effect c = .creates o ∧ g.stake = .unborn o ∧
      (code = L.success ∧ (g.after L c code).stake = .born o ∨
        code ≠ L.success ∧ (g.after L c code).stake = .none)) ∨
    ∃ o, L.effect c = .destroys o ∧ g.stake = .doomed o ∧ (g.after L c code).stake = .none := by
  unfold Entitled at h
  unfold after
  cases heffect : L.effect c with
  | uses handles => exact .inl (by simp only)
  | creates o =>
      rw [heffect] at h
      refine .inr (.inl ⟨o, rfl, h, ?_⟩)
      by_cases hsuccess : code = L.success
      · exact .inl ⟨hsuccess, if_pos hsuccess⟩
      · exact .inr ⟨hsuccess, if_neg hsuccess⟩
  | destroys o =>
      rw [heffect] at h
      exact .inr (.inr ⟨o, rfl, h, rfl⟩)

/-- A routine does not come by an object through a call. -/
theorem Entitled.of_after {f : Stake ω → Option ω} (h : g.Entitled L c) (hnone : f .none = none)
    (hborn : ∀ o, f (.born o) = f (.unborn o)) (ho : f (g.after L c code).stake = some o) :
    f g.stake = some o := by
  rcases h.after_cases code with hsame | ⟨o', -, hunborn, ⟨-, hafter⟩ | ⟨-, hafter⟩⟩ |
    ⟨o', -, -, hafter⟩
  · rwa [hsame] at ho
  · rw [hafter, hborn] at ho
    rwa [hunborn]
  · rw [hafter, hnone] at ho
    cases ho
  · rw [hafter, hnone] at ho
    cases ho

theorem Entitled.object?_of_after (h : g.Entitled L c)
    (ho : (g.after L c code).stake.object? = some o) : g.stake.object? = some o :=
  h.of_after rfl (fun _ => rfl) ho

theorem Entitled.making?_of_after (h : g.Entitled L c)
    (ho : (g.after L c code).stake.making? = some o) : g.stake.making? = some o :=
  h.of_after rfl (fun _ => rfl) ho

theorem Entitled.fetched_of_after {address : ℕ} (h : g.Entitled L c)
    (ho : (g.after L c code).stake = .fetched o address) : g.stake = .fetched o address := by
  rcases h.after_cases code with hsame | ⟨o', -, -, ⟨-, hborn⟩ | ⟨-, hnone⟩⟩ | ⟨o', -, -, hnone⟩
  · rwa [hsame] at ho
  · rw [hborn] at ho
    cases ho
  · rw [hnone] at ho
    cases ho
  · rw [hnone] at ho
    cases ho

theorem Entitled.born_of_after (h : g.Entitled L c) (ho : (g.after L c code).stake = .born o) :
    g.stake = .born o ∨ L.effect c = .creates o ∧ code = L.success := by
  rcases h.after_cases code with hsame | ⟨o', heffect, -, ⟨hsuccess, hborn⟩ | ⟨-, hnone⟩⟩ |
    ⟨o', -, -, hnone⟩
  · exact .inl (hsame.symm.trans ho)
  · rw [hborn] at ho
    cases ho
    exact .inr ⟨heffect, hsuccess⟩
  · rw [hnone] at ho
    cases ho
  · rw [hnone] at ho
    cases ho

/-- A stake is settled by a call that creates nothing, or by one that destroys. -/
theorem Entitled.settled_of_after (h : g.Entitled L c) (hbefore : g.stake.object? = some o)
    (hafter : (g.after L c code).stake.object? ≠ some o) :
    L.effect c = .creates o ∧ code ≠ L.success ∨ L.effect c = .destroys o := by
  rcases h.after_cases code with hsame | ⟨o', heffect, hunborn, ⟨-, hborn⟩ | ⟨hfailed, -⟩⟩ |
    ⟨o', heffect, hdoomed, -⟩
  · rw [hsame] at hafter
    exact absurd hbefore hafter
  · rw [hunborn] at hbefore
    rw [hborn] at hafter
    exact absurd hbefore hafter
  · rw [hunborn] at hbefore
    cases hbefore
    exact .inl ⟨heffect, hfailed⟩
  · rw [hdoomed] at hbefore
    cases hbefore
    exact .inr heffect

end After

end Grip

section Abides

variable [DecidableEq ω] [DecidableEq ρ]

/--
The routine takes locks in order and gives them back, works under them, makes one
call that it is entitled to, and leaves no pointer behind; it ends with a result
and a grip in `Q`.
-/
def Routine.Abides (L : Library ω χ κ δ ρ) (Q : α → Grip ω ρ → Prop) :
    Routine ω χ δ ρ α → Grip ω ρ → Prop
  | .done a, g => g.held = [] ∧ g.stake = .none ∧ Q a g
  | .refer o next, g => g.held = [] ∧ g.stake = .none ∧
      Abides L Q next { g with refs := o :: g.refs }
  | .lock o next, g => o ∈ g.refs ∧ (∀ o' ∈ g.held, L.rank o' < L.rank o) ∧
      Abides L Q next { g with held := o :: g.held }
  | .unlock o next, g => o ∈ g.held ∧ Abides L Q next (g.drop o)
  | .get o next, g => o ∈ g.held ∧ ∀ address, Abides L Q (next address) (g.learn o address)
  | .clear o next, g => o ∈ g.held ∧ g.stake = .none ∧
      ∃ address, g.known o = some address ∧ Abides L Q next (g.takeOut o address)
  | .call c next, g => g.code = none ∧ g.Entitled L c ∧
      ∀ code, L.codes c code → Abides L Q (next code) (g.after L c code)
  | .fetch o next, g => g.stake = .born o ∧
      ∀ address, address ≠ 0 → Abides L Q (next address) { g with stake := .fetched o address }
  | .make o address next, g => g.stake = .fetched o address ∧
      Abides L Q next { g with stake := .none }
  | .look view next, g => ∀ data, Abides L Q (next (view data)) g

end Abides

/-! ## The invariant -/

section Invariant

variable [DecidableEq ω] [DecidableEq κ] [DecidableEq ρ] {L : Library ω χ κ δ ρ}
  {Q : ι → α → Grip ω ρ → Prop} {w w' : Wrapper ι ω χ κ δ ρ α} {g : ι → Grip ω ρ} {i j : ι} {o : ω}

/-- The call of the library that the routine makes, by its status. -/
def Grip.Accords (L : Library ω χ κ δ ρ) (w : Wrapper ι ω χ κ δ ρ α) (i : ι) (g : Grip ω ρ) :
    Status κ δ ρ → Prop
  | .pending => g.code = none ∧ w.call i = none
  | .running r => ∃ c next, w.routine i = .call c next ∧ w.call i = some c ∧
      r.Answers (fun _ => True) (· ∈ L.uses c) (L.codes c) L.busy ∧ ∀ h ∈ r.guards, h ∈ L.uses c
  | .returned code => g.code = some code ∧ ∃ c, w.call i = some c ∧ L.codes c code

/-- The grip fits the routine and what the routine sees. -/
structure Grip.Fits (L : Library ω χ κ δ ρ) (Q : α → Grip ω ρ → Prop)
    (w : Wrapper ι ω χ κ δ ρ α) (i : ι) (g : Grip ω ρ) : Prop where
  abides : (w.routine i).Abides L Q g
  owner : ∀ o, o ∈ g.held ↔ w.owner o = some i
  nodup : g.held.Nodup
  refs : ∀ o ∈ g.refs, w.made o = true
  held : ∀ o ∈ g.held, o ∈ g.refs
  known : ∀ o address, g.known o = some address → o ∈ g.held ∧ w.field o = address
  missing : ∀ o, g.missing = some o → o ∈ g.refs ∧ w.field o = 0
  making : ∀ o, g.stake.making? = some o → w.made o = false
  staked : ∀ o, g.stake.object? = some o → w.field o = 0
  unborn : ∀ o, g.stake = .unborn o → w.pool.status i = .pending →
    w.pool.shared.slots (L.place o) = 0
  born : ∀ o, g.stake = .born o → w.pool.shared.slots (L.place o) ≠ 0
  fetched : ∀ o address, g.stake = .fetched o address →
    address ≠ 0 ∧ w.pool.shared.slots (L.place o) = address
  doomed : ∀ o, g.stake = .doomed o → w.pool.status i = .pending →
    w.pool.shared.slots (L.place o) ≠ 0
  accords : g.Accords L w i (w.pool.status i)

/-- All grips fit, and a pointer is where its field says unless a routine answers for it. -/
structure Wrapper.Safe (L : Library ω χ κ δ ρ) (Q : ι → α → Grip ω ρ → Prop)
    (g : ι → Grip ω ρ) (w : Wrapper ι ω χ κ δ ρ α) : Prop where
  fits : ∀ i, (g i).Fits L (Q i) w i
  apart : ∀ i j o, (g i).stake.object? = some o → (g j).stake.object? = some o → i = j
  settled : ∀ o, (∀ i, (g i).stake.object? ≠ some o) →
    w.pool.shared.slots (L.place o) = w.field o
  unmade : ∀ o, w.made o = false → w.field o = 0

/-- A routine whose own steps these are not keeps its grip. -/
theorem Grip.Fits.frame {g : Grip ω ρ} {Q : α → Grip ω ρ → Prop} (h : g.Fits L Q w j)
    (hroutine : w'.routine j = w.routine j) (hcall : w'.call j = w.call j)
    (hstatus : w'.pool.status j = w.pool.status j)
    (howner : ∀ o, w'.owner o = some j ↔ w.owner o = some j)
    (hmade : ∀ o, w.made o = true → w'.made o = true)
    (hfield : ∀ o, w.made o = true → w'.field o = w.field o ∨ o ∉ g.held ∧ w'.field o = 0)
    (hstake : ∀ o, g.stake.object? = some o → w'.field o = w.field o ∧ w'.made o = w.made o ∧
      w'.pool.shared.slots (L.place o) = w.pool.shared.slots (L.place o)) :
    g.Fits L Q w' j where
  abides := hroutine ▸ h.abides
  owner o := (h.owner o).trans (howner o).symm
  nodup := h.nodup
  refs o ho := hmade o (h.refs o ho)
  held := h.held
  known o address ho := by
    obtain ⟨hmem, hknown⟩ := h.known o address ho
    rcases hfield o (h.refs o (h.held o hmem)) with hsame | ⟨hout, -⟩
    · exact ⟨hmem, hsame.trans hknown⟩
    · exact absurd hmem hout
  missing o ho := by
    obtain ⟨hmem, hnil⟩ := h.missing o ho
    rcases hfield o (h.refs o hmem) with hsame | ⟨-, hzero⟩
    · exact ⟨hmem, hsame.trans hnil⟩
    · exact ⟨hmem, hzero⟩
  making o ho := (hstake o (Stake.object?_of_making? ho)).2.1.trans (h.making o ho)
  staked o ho := (hstake o ho).1.trans (h.staked o ho)
  unborn o ho hp := by
    rw [(hstake o (by rw [ho]; rfl)).2.2]
    exact h.unborn o ho (hstatus ▸ hp)
  born o ho := by
    rw [(hstake o (by rw [ho]; rfl)).2.2]
    exact h.born o ho
  fetched o address ho := by
    rw [(hstake o (by rw [ho]; rfl)).2.2]
    exact h.fetched o address ho
  doomed o ho hp := by
    rw [(hstake o (by rw [ho]; rfl)).2.2]
    exact h.doomed o ho (hstatus ▸ hp)
  accords := by
    rw [hstatus]
    unfold Grip.Accords
    rw [hroutine, hcall]
    exact h.accords

/-! ## What follows from the grips -/

section Calls

variable {c : χ} {next : ρ → Routine ω χ δ ρ α} {r : Running κ δ ρ} {h : Handle κ} {k : Slot κ}

theorem Grip.Fits.entitled {g : Grip ω ρ} {Q : α → Grip ω ρ → Prop} (hg : g.Fits L Q w i)
    (hi : w.routine i = .call c next) : g.Entitled L c := by
  have habides := hg.abides
  rw [hi] at habides
  exact habides.2.1

/-- The routine answers for the object that its call creates or destroys. -/
theorem Grip.Fits.slot_staked {g : Grip ω ρ} {Q : α → Grip ω ρ → Prop} (hg : g.Fits L Q w i)
    (hi : w.routine i = .call c next) (hk : L.slot c = some k) :
    ∃ o, k = L.place o ∧ (g.stake = .unborn o ∨ g.stake = .doomed o) := by
  have hentitled := hg.entitled hi
  unfold Grip.Entitled at hentitled
  unfold Library.slot at hk
  cases heffect : L.effect c with
  | uses handles =>
      rw [heffect] at hk
      cases hk
  | creates o =>
      rw [heffect] at hk hentitled
      cases hk
      exact ⟨o, rfl, .inl hentitled⟩
  | destroys o =>
      rw [heffect] at hk hentitled
      cases hk
      exact ⟨o, rfl, .inr hentitled⟩

theorem Grip.Fits.uses_field {g : Grip ω ρ} {Q : α → Grip ω ρ → Prop} (hg : g.Fits L Q w i)
    (hi : w.routine i = .call c next) (hh : h ∈ L.uses c) :
    ∃ o ∈ g.held, w.field o = h.address ∧ h.address ≠ 0 ∧ h.kind = (L.place o).kind := by
  have hentitled := hg.entitled hi
  unfold Grip.Entitled at hentitled
  unfold Library.uses at hh
  cases heffect : L.effect c with
  | uses handles =>
      rw [heffect] at hh hentitled
      obtain ⟨o, hheld, hknown, hne, hkind⟩ := hentitled h hh
      exact ⟨o, hheld, (hg.known o _ hknown).2, hne, hkind⟩
  | creates o =>
      rw [heffect] at hh
      cases hh
  | destroys o =>
      rw [heffect] at hh
      cases hh

section Idle

variable {f : Grip ω ρ} {R : α → Grip ω ρ → Prop}

/-- A routine that is not at a call has none under way. -/
theorem Grip.Fits.not_running (hf : f.Fits L R w i) (hidle : ∀ c next, w.routine i ≠ .call c next)
    (r : Running κ δ ρ) : w.pool.status i ≠ .running r := by
  intro hr
  have haccords := hf.accords
  rw [hr] at haccords
  obtain ⟨c, next, hi, -⟩ := haccords
  exact hidle c next hi

theorem Grip.Fits.call_eq_none (hf : f.Fits L R w i)
    (hidle : ∀ c next, w.routine i ≠ .call c next) (hcode : f.code = none) : w.call i = none := by
  have haccords := hf.accords
  cases hstatus : w.pool.status i with
  | pending =>
      rw [hstatus] at haccords
      exact haccords.2
  | running r => exact absurd hstatus (hf.not_running hidle r)
  | returned code =>
      rw [hstatus] at haccords
      cases hcode.symm.trans haccords.1

theorem Grip.Fits.returned (hf : f.Fits L R w i) (hidle : ∀ c next, w.routine i ≠ .call c next)
    {code : ρ} (hcode : f.code = some code) : w.pool.status i = .returned code := by
  have haccords := hf.accords
  cases hstatus : w.pool.status i with
  | pending =>
      rw [hstatus] at haccords
      cases hcode.symm.trans haccords.1
  | running r => exact absurd hstatus (hf.not_running hidle r)
  | returned code' =>
      rw [hstatus] at haccords
      cases hcode.symm.trans haccords.1
      rfl

end Idle

namespace Wrapper.Safe

theorem unstaked (hs : Safe L Q g w) (hne : w.field o ≠ 0) (i : ι) :
    (g i).stake.object? ≠ some o :=
  fun ho => hne ((hs.fits i).staked o ho)

/-- A pointer in a field is also in the place where the library left it. -/
theorem pointer (hs : Safe L Q g w) (hne : w.field o ≠ 0) :
    w.pool.shared.slots (L.place o) = w.field o :=
  hs.settled o (hs.unstaked hne)

theorem running_call (hs : Safe L Q g w) (hr : w.pool.status i = .running r) :
    ∃ c next, w.routine i = .call c next ∧ w.call i = some c ∧
      r.Answers (fun _ => True) (· ∈ L.uses c) (L.codes c) L.busy ∧
        ∀ h ∈ r.guards, h ∈ L.uses c := by
  have haccords := (hs.fits i).accords
  rw [hr] at haccords
  exact haccords

/-- Who has the flag of an object has the lock around it, or is destroying it. -/
theorem holder (hs : Safe L Q g w) (hheld : 0 < (w.pool.status i).holds h) :
    (∃ o ∈ (g i).held, w.field o = h.address ∧ h.address ≠ 0 ∧ h.kind = (L.place o).kind) ∨
      ∃ r, w.pool.status i = .running r ∧ r.claim = .taken h := by
  cases hstatus : w.pool.status i with
  | pending =>
      rw [hstatus] at hheld
      cases hheld
  | returned code =>
      rw [hstatus] at hheld
      cases hheld
  | running r =>
      rw [hstatus] at hheld
      obtain ⟨c, next, hi, -, -, hguards⟩ := hs.running_call hstatus
      by_cases hclaim : r.claim = .taken h
      · exact .inr ⟨r, rfl, hclaim⟩
      · simp only [Status.holds, Running.holds, if_neg hclaim, Nat.add_zero] at hheld
        have hmem := hguards h (List.count_pos_iff.mp hheld)
        exact .inl ((hs.fits i).uses_field hi hmem)

theorem slot_staked [Inhabited χ] (hs : Safe L Q g w) (hr : w.pool.status i = .running r)
    (hk : (w.calls L).slot i = some k) :
    ∃ o, k = L.place o ∧ ((g i).stake = .unborn o ∨ (g i).stake = .doomed o) := by
  obtain ⟨c, next, hi, hcall, -⟩ := hs.running_call hr
  simp only [Wrapper.calls, hcall, Option.getD_some] at hk
  exact (hs.fits i).slot_staked hi hk

/-- A routine under way with a call has nothing else to do. -/
theorem accords_of_own (hs : Safe L Q g w) (hi : ∀ c next, w.routine i ≠ .call c next)
    {g' : Grip ω ρ} (hcode : g'.code = (g i).code) (hcall : w'.call = w.call) :
    g'.Accords L w' i (w.pool.status i) := by
  have haccords := (hs.fits i).accords
  cases hstatus : w.pool.status i with
  | pending =>
      rw [hstatus] at haccords
      exact ⟨hcode.trans haccords.1, hcall ▸ haccords.2⟩
  | running r => exact absurd hstatus ((hs.fits i).not_running hi r)
  | returned code =>
      rw [hstatus] at haccords
      exact ⟨hcode.trans haccords.1, hcall ▸ haccords.2⟩

end Wrapper.Safe

end Calls

/-! ## Steps of a routine -/

variable [DecidableEq ι]

namespace Wrapper

section Goto

omit [DecidableEq ω] [DecidableEq κ] [DecidableEq ρ]

@[simp] theorem goto_routine_self (w : Wrapper ι ω χ κ δ ρ α) (i : ι)
    (next : Routine ω χ δ ρ α) : (w.goto i next).routine i = next :=
  Function.update_self _ _ _

theorem goto_routine_of_ne (w : Wrapper ι ω χ κ δ ρ α) (next : Routine ω χ δ ρ α)
    (h : j ≠ i) : (w.goto i next).routine j = w.routine j :=
  Function.update_of_ne h _ _

end Goto

namespace Safe

/-- One routine has a new grip, and the others keep theirs. -/
theorem update {g' : Grip ω ρ} (h : Safe L Q g w) (hfits : g'.Fits L (Q i) w' i)
    (hothers : ∀ j ≠ i, (g j).Fits L (Q j) w' j)
    (hapart : ∀ o, g'.stake.object? = some o → ∀ j ≠ i, (g j).stake.object? ≠ some o)
    (hsettled : ∀ o, g'.stake.object? ≠ some o → (∀ j ≠ i, (g j).stake.object? ≠ some o) →
      w'.pool.shared.slots (L.place o) = w'.field o)
    (hunmade : ∀ o, w'.made o = false → w'.field o = 0) :
    Safe L Q (Function.update g i g') w' := by
  refine ⟨fun j => ?_, fun j k o hj hk => ?_, fun o ho => ?_, hunmade⟩
  · by_cases hji : j = i
    · subst hji
      rw [Function.update_self]
      exact hfits
    · rw [Function.update_of_ne hji]
      exact hothers j hji
  · by_cases hji : j = i <;> by_cases hki : k = i
    · rw [hji, hki]
    · subst hji
      rw [Function.update_self] at hj
      rw [Function.update_of_ne hki] at hk
      exact absurd hk (hapart o hj k hki)
    · subst hki
      rw [Function.update_self] at hk
      rw [Function.update_of_ne hji] at hj
      exact absurd hj (hapart o hk j hji)
    · rw [Function.update_of_ne hji] at hj
      rw [Function.update_of_ne hki] at hk
      exact h.apart j k o hj hk
  · refine hsettled o ?_ fun j hji => ?_
    · have hi := ho i
      rwa [Function.update_self] at hi
    · have hj := ho j
      rwa [Function.update_of_ne hji] at hj

/-- The routine goes on, and no field changes. -/
theorem quiet {g' : Grip ω ρ} (h : Safe L Q g w) (hroutine : ∀ j ≠ i, w'.routine j = w.routine j)
    (hcall : w'.call = w.call) (hpool : w'.pool = w.pool) (hfield : w'.field = w.field)
    (hmade : w'.made = w.made)
    (howner : ∀ j ≠ i, ∀ o, w'.owner o = some j ↔ w.owner o = some j)
    (hstake : g'.stake.object? = (g i).stake.object?) (hfits : g'.Fits L (Q i) w' i) :
    Safe L Q (Function.update g i g') w' := by
  refine h.update hfits (fun j hj => ?_) (fun o ho j hji hj => ?_) (fun o ho hothers => ?_) ?_
  · refine (h.fits j).frame (hroutine j hj) (by rw [hcall]) (by rw [hpool]) (howner j hj) ?_ ?_ ?_
    · simp [hmade]
    · simp [hfield]
    · simp [hfield, hmade, hpool]
  · rw [hstake] at ho
    exact hji (h.apart j i o hj ho)
  · rw [hpool, hfield]
    refine h.settled o fun j => ?_
    by_cases hji : j = i
    · rw [hji, ← hstake]
      exact ho
    · exact hothers j hji
  · rw [hmade, hfield]
    exact h.unmade

theorem refer {next : Routine ω χ δ ρ α} (h : Safe L Q g w) (hi : w.routine i = .refer o next)
    (hmade : w.made o = true) :
    Safe L Q (Function.update g i { g i with refs := o :: (g i).refs }) (w.goto i next) := by
  have hfits := h.fits i
  have habides := hfits.abides
  rw [hi] at habides
  refine h.quiet (fun j hj => w.goto_routine_of_ne next hj) rfl rfl rfl rfl (fun _ _ _ => Iff.rfl)
    rfl ?_
  refine { hfits with abides := ?_, refs := ?_, held := ?_, missing := ?_, accords := ?_ }
  · rw [goto_routine_self]
    exact habides.2.2
  · intro o' ho'
    rcases List.mem_cons.mp ho' with rfl | ho'
    · exact hmade
    · exact hfits.refs o' ho'
  · exact fun o' ho' => List.mem_cons_of_mem o (hfits.held o' ho')
  · intro o' ho'
    obtain ⟨hmem, hnil⟩ := hfits.missing o' ho'
    exact ⟨List.mem_cons_of_mem o hmem, hnil⟩
  · exact h.accords_of_own (by simp [hi]) rfl rfl

theorem lock {next : Routine ω χ δ ρ α} (h : Safe L Q g w) (hi : w.routine i = .lock o next)
    (hfree : w.owner o = none) :
    Safe L Q (Function.update g i { g i with held := o :: (g i).held })
      { w.goto i next with owner := Function.update w.owner o (some i) } := by
  have hfits := h.fits i
  have habides := hfits.abides
  rw [hi] at habides
  obtain ⟨href, -, hnext⟩ := habides
  have hnew : o ∉ (g i).held := by
    intro ho
    rw [hfits.owner, hfree] at ho
    cases ho
  refine h.quiet (fun j hj => w.goto_routine_of_ne next hj) rfl rfl rfl rfl (fun j hj o' => ?_)
    rfl ?_
  · by_cases ho : o' = o
    · subst ho
      simp [hfree, Ne.symm hj]
    · simp [ho]
  · refine { hfits with
      abides := ?_, owner := ?_, nodup := ?_, held := ?_, known := ?_, accords := ?_ }
    · exact (w.goto_routine_self i next).symm ▸ hnext
    · intro o'
      by_cases ho : o' = o
      · simp [ho]
      · simp [ho, hfits.owner o']
    · exact List.nodup_cons.mpr ⟨hnew, hfits.nodup⟩
    · intro o' ho'
      rcases List.mem_cons.mp ho' with rfl | ho'
      · exact href
      · exact hfits.held o' ho'
    · intro o' address ho'
      obtain ⟨hmem, hfield⟩ := hfits.known o' address ho'
      exact ⟨List.mem_cons_of_mem o hmem, hfield⟩
    · exact h.accords_of_own (by simp [hi]) rfl rfl

theorem unlock {next : Routine ω χ δ ρ α} (h : Safe L Q g w) (hi : w.routine i = .unlock o next) :
    Safe L Q (Function.update g i ((g i).drop o))
      { w.goto i next with owner := Function.update w.owner o none } := by
  have hfits := h.fits i
  have habides := hfits.abides
  rw [hi] at habides
  obtain ⟨hheld, hnext⟩ := habides
  have howner := (hfits.owner o).mp hheld
  refine h.quiet (fun j hj => w.goto_routine_of_ne next hj) rfl rfl rfl rfl (fun j hj o' => ?_)
    rfl ?_
  · by_cases ho : o' = o
    · subst ho
      simp [howner, Ne.symm hj]
    · simp [ho]
  · refine { hfits with
      abides := ?_, owner := ?_, nodup := ?_, held := ?_, known := ?_, accords := ?_ }
    · exact (w.goto_routine_self i next).symm ▸ hnext
    · intro o'
      by_cases ho : o' = o
      · simp [Grip.drop, ho, hfits.nodup.not_mem_erase]
      · simp [Grip.drop, ho, List.mem_erase_of_ne ho, hfits.owner o']
    · exact hfits.nodup.erase o
    · exact fun o' ho' => hfits.held o' (List.mem_of_mem_erase ho')
    · intro o' address ho'
      by_cases ho : o' = o
      · simp [Grip.drop, ho] at ho'
      · simp only [Grip.drop, Function.update_of_ne ho] at ho'
        obtain ⟨hmem, hfield⟩ := hfits.known o' address ho'
        exact ⟨(List.mem_erase_of_ne ho).mpr hmem, hfield⟩
    · exact h.accords_of_own (by simp [hi]) rfl rfl

theorem get {next : ℕ → Routine ω χ δ ρ α} (h : Safe L Q g w) (hi : w.routine i = .get o next) :
    Safe L Q (Function.update g i ((g i).learn o (w.field o)))
      (w.goto i (next (w.field o))) := by
  have hfits := h.fits i
  have habides := hfits.abides
  rw [hi] at habides
  obtain ⟨hheld, hnext⟩ := habides
  refine h.quiet (fun j hj => w.goto_routine_of_ne _ hj) rfl rfl rfl rfl (fun _ _ _ => Iff.rfl)
    rfl ?_
  refine { hfits with abides := ?_, known := ?_, missing := ?_, accords := ?_ }
  · exact (w.goto_routine_self i _).symm ▸ hnext (w.field o)
  · intro o' address ho'
    by_cases ho : o' = o
    · subst ho
      simp only [Grip.learn, Function.update_self, Option.some.injEq] at ho'
      exact ⟨hheld, ho'⟩
    · simp only [Grip.learn, Function.update_of_ne ho] at ho'
      exact hfits.known o' address ho'
  · intro o' ho'
    simp only [Grip.learn] at ho'
    split at ho'
    · next hnil =>
        cases ho'
        exact ⟨hfits.held o hheld, hnil⟩
    · exact hfits.missing o' ho'
  · exact h.accords_of_own (by simp [hi]) rfl rfl

theorem look {β : Type} {view : δ → β} {next : β → Routine ω χ δ ρ α} (h : Safe L Q g w)
    (hi : w.routine i = .look view next) (data : δ) :
    Safe L Q (Function.update g i (g i)) (w.goto i (next (view data))) := by
  have hfits := h.fits i
  have habides := hfits.abides
  rw [hi] at habides
  refine h.quiet (fun j hj => w.goto_routine_of_ne _ hj) rfl rfl rfl rfl (fun _ _ _ => Iff.rfl)
    rfl ?_
  refine { hfits with abides := ?_, accords := ?_ }
  · exact (w.goto_routine_self i _).symm ▸ habides data
  · exact h.accords_of_own (by simp [hi]) rfl rfl

theorem fetch {next : ℕ → Routine ω χ δ ρ α} (h : Safe L Q g w) (hi : w.routine i = .fetch o next) :
    Safe L Q
      (Function.update g i
        { g i with stake := .fetched o (w.pool.shared.slots (L.place o)) })
      (w.goto i (next (w.pool.shared.slots (L.place o)))) := by
  have hfits := h.fits i
  have habides := hfits.abides
  rw [hi] at habides
  obtain ⟨hborn, hnext⟩ := habides
  have hne := hfits.born o hborn
  refine h.quiet (fun j hj => w.goto_routine_of_ne _ hj) rfl rfl rfl rfl (fun _ _ _ => Iff.rfl)
    (by rw [hborn]; rfl) ?_
  refine { hfits with
    abides := ?_, making := ?_, staked := ?_, unborn := nofun, born := nofun, fetched := ?_,
    doomed := nofun, accords := ?_ }
  · exact (w.goto_routine_self i _).symm ▸ hnext _ hne
  · intro o' ho'
    exact hfits.making o' (by rw [hborn]; exact ho')
  · intro o' ho'
    exact hfits.staked o' (by rw [hborn]; exact ho')
  · intro o' address ho'
    cases ho'
    exact ⟨hne, rfl⟩
  · exact h.accords_of_own (by simp [hi]) rfl rfl

theorem clear {next : Routine ω χ δ ρ α} (h : Safe L Q g w) (hi : w.routine i = .clear o next) :
    Safe L Q (Function.update g i ((g i).takeOut o (w.field o)))
      { w.goto i next with field := Function.update w.field o 0 } := by
  have hfits := h.fits i
  have habides := hfits.abides
  rw [hi] at habides
  obtain ⟨hheld, hnone, address, hknown, hnext⟩ := habides
  obtain ⟨-, rfl⟩ := hfits.known o address hknown
  -- what the routine answers for now, it has taken out of the field
  have hstake : ∀ o', ((g i).takeOut o (w.field o)).stake.object? = some o' →
      o' = o ∧ w.field o ≠ 0 := by
    intro o' ho'
    simp only [Grip.takeOut] at ho'
    split at ho'
    · cases ho'
    · next hne =>
        cases ho'
        exact ⟨rfl, hne⟩
  refine h.update ?_ (fun j hj => ?_) (fun o' ho' j hj => ?_) (fun o' ho' hothers => ?_) ?_
  · refine { hfits with
      abides := ?_, known := ?_, missing := ?_, making := ?_, staked := ?_, unborn := ?_,
      born := ?_, fetched := ?_, doomed := ?_, accords := ?_ }
    · exact (w.goto_routine_self i next).symm ▸ hnext
    · intro o' address ho'
      by_cases ho : o' = o
      · subst ho
        simp only [Grip.takeOut, Function.update_self, Option.some.injEq] at ho'
        exact ⟨hheld, by simpa using ho'⟩
      · simp only [Grip.takeOut, Function.update_of_ne ho] at ho'
        obtain ⟨hmem, hfield⟩ := hfits.known o' address ho'
        exact ⟨hmem, (Function.update_of_ne ho _ _).trans hfield⟩
    · intro o' ho'
      obtain ⟨hmem, hnil⟩ := hfits.missing o' ho'
      refine ⟨hmem, ?_⟩
      by_cases ho : o' = o
      · simp [ho]
      · simpa [ho] using hnil
    · intro o' ho'
      simp only [Grip.takeOut] at ho'
      split at ho' <;> cases ho'
    · intro o' ho'
      obtain ⟨rfl, -⟩ := hstake o' ho'
      exact Function.update_self _ _ _
    · intro o' ho'
      simp only [Grip.takeOut] at ho'
      split at ho' <;> cases ho'
    · intro o' ho'
      simp only [Grip.takeOut] at ho'
      split at ho' <;> cases ho'
    · intro o' address ho'
      simp only [Grip.takeOut] at ho'
      split at ho' <;> cases ho'
    · intro o' ho' _
      obtain ⟨rfl, hne⟩ := hstake o' (by rw [ho']; rfl)
      have hsettled := h.settled o' (h.unstaked hne)
      exact fun hzero => hne (hsettled.symm.trans hzero)
    · exact h.accords_of_own (by simp [hi]) rfl rfl
  · refine (h.fits j).frame (w.goto_routine_of_ne next hj) rfl rfl (fun _ => Iff.rfl)
      (fun _ => id) (fun o' _ => ?_) fun o' ho' => ?_
    · by_cases ho : o' = o
      · subst ho
        refine .inr ⟨fun hmem => ?_, Function.update_self _ _ _⟩
        have howner := (hfits.owner o').mp hheld
        rw [((h.fits j).owner o').mp hmem] at howner
        exact hj (Option.some.inj howner)
      · exact .inl (Function.update_of_ne ho _ _)
    · refine ⟨?_, rfl, rfl⟩
      by_cases ho : o' = o
      · subst ho
        exact (Function.update_self _ _ _).trans ((h.fits j).staked o' ho').symm
      · exact Function.update_of_ne ho _ _
  · obtain ⟨rfl, hne⟩ := hstake o' ho'
    exact h.unstaked hne j
  · have hsettled := h.settled o' fun j => ?_
    · by_cases ho : o' = o
      · subst ho
        have hzero : w.field o' = 0 := by
          by_contra hne
          exact ho' (by simp [Grip.takeOut, hne, Stake.object?])
        exact (hsettled.trans hzero).trans (Function.update_self o' 0 w.field).symm
      · exact hsettled.trans (Function.update_of_ne ho 0 w.field).symm
    · by_cases hj : j = i
      · rw [hj, hnone]
        nofun
      · exact hothers j hj
  · intro o' hmade
    by_cases ho : o' = o
    · simp [ho]
    · simpa [ho] using h.unmade o' hmade

theorem make {address : ℕ} {next : Routine ω χ δ ρ α} (h : Safe L Q g w)
    (hi : w.routine i = .make o address next) :
    Safe L Q (Function.update g i { g i with stake := .none })
      { w.goto i next with
        field := Function.update w.field o address
        made := Function.update w.made o true } := by
  have hfits := h.fits i
  have habides := hfits.abides
  rw [hi] at habides
  obtain ⟨hfetched, hnext⟩ := habides
  have hmaking := hfits.making o (by rw [hfetched]; rfl)
  have hobject : (g i).stake.object? = some o := by rw [hfetched]; rfl
  have hne : ∀ o', w.made o' = true → o' ≠ o := by
    rintro o' hmade rfl
    rw [hmaking] at hmade
    cases hmade
  refine h.update ?_ (fun j hj => ?_) nofun (fun o' _ hothers => ?_) ?_
  · refine { hfits with
      abides := ?_, refs := ?_, known := ?_, missing := ?_, making := nofun, staked := nofun,
      unborn := nofun, born := nofun, fetched := nofun, doomed := nofun, accords := ?_ }
    · exact (w.goto_routine_self i next).symm ▸ hnext
    · intro o' ho'
      have hmade := hfits.refs o' ho'
      exact (Function.update_of_ne (hne o' hmade) _ _).trans hmade
    · intro o' known ho'
      obtain ⟨hmem, hfield⟩ := hfits.known o' known ho'
      have hmade := hfits.refs o' (hfits.held o' hmem)
      exact ⟨hmem, (Function.update_of_ne (hne o' hmade) _ _).trans hfield⟩
    · intro o' ho'
      obtain ⟨hmem, hnil⟩ := hfits.missing o' ho'
      exact ⟨hmem, (Function.update_of_ne (hne o' (hfits.refs o' hmem)) _ _).trans hnil⟩
    · exact h.accords_of_own (by simp [hi]) rfl rfl
  · refine (h.fits j).frame (w.goto_routine_of_ne next hj) rfl rfl (fun _ => Iff.rfl)
      (fun o' hmade => ?_) (fun o' hmade => ?_) fun o' ho' => ?_
    · exact (Function.update_of_ne (hne o' hmade) _ _).trans hmade
    · exact .inl (Function.update_of_ne (hne o' hmade) _ _)
    · have ho : o' ≠ o := by
        rintro rfl
        exact hj (h.apart j i o' ho' hobject)
      exact ⟨Function.update_of_ne ho _ _, Function.update_of_ne ho _ _, rfl⟩
  · by_cases ho : o' = o
    · subst ho
      have hslot := (hfits.fetched o' address hfetched).2
      exact hslot.trans (Function.update_self o' address w.field).symm
    · refine (h.settled o' fun j => ?_).trans (Function.update_of_ne ho address w.field).symm
      by_cases hj : j = i
      · rw [hj, hobject]
        exact fun heq => ho (Option.some.inj heq).symm
      · exact hothers j hj
  · intro o' hmade
    by_cases ho : o' = o
    · simp [ho] at hmade
    · simp only [Function.update_of_ne ho] at hmade ⊢
      exact h.unmade o' hmade

end Safe

end Wrapper

/-! ## Calls under way -/

section Calls

variable [Inhabited χ] {history : List (Label ι κ δ ρ)} {c : χ} {next : ρ → Routine ω χ δ ρ α}
  {r : Running κ δ ρ} {h : Handle κ} {k : Slot κ}

namespace Wrapper.Safe

/-- The flag of an object whose pointer is in a field is free but for the owner of the lock. -/
theorem holder_owns (hs : Safe L Q g w) (law : L.Lawful)
    (ho : Orderly (w.calls L) (w.posts L) history w.pool) (hfield : w.field o = h.address)
    (hne : h.address ≠ 0) (hkind : h.kind = (L.place o).kind)
    (hheld : 0 < (w.pool.status i).holds h) : w.owner o = some i := by
  have hpointer := hs.pointer (hfield ▸ hne)
  rcases hs.holder hheld with ⟨o', hmem, hfield', -, hkind'⟩ | ⟨r, hr, hclaim⟩
  · have hpointer' := hs.pointer (hfield' ▸ hne)
    have hplace := ho.slotsApart (L.place o) (L.place o') (hkind.symm.trans hkind')
      (by rw [hpointer, hfield]; exact hne) (by rw [hpointer, hpointer', hfield, hfield'])
    rw [law.place_injective hplace]
    exact ((hs.fits i).owner o').mp hmem
  · have hslot := ho.claims i r h (L.place o) hr hclaim hkind.symm
      (by rw [hpointer, hfield]; exact hne) (hpointer.trans hfield)
    obtain ⟨o', hplace, hstake⟩ := hs.slot_staked hr hslot
    rw [law.place_injective hplace] at hfield
    have hzero := (hs.fits i).staked o' (by rcases hstake with h | h <;> rw [h] <;> rfl)
    exact absurd (hfield.symm.trans hzero) hne

/-- No call finds a flag set. -/
theorem not_refused (hs : Safe L Q g w) (law : L.Lawful)
    (ho : Orderly (w.calls L) (w.posts L) history w.pool) (hr : w.pool.status i = .running r)
    (hcall : w.call i = some c) : ¬ r.Refused (· ∈ L.uses c) w.pool.shared h := by
  rintro ⟨hfree, hset, -, hused⟩
  have hother : ∀ j, 0 < (w.pool.status j).holds h → j ≠ i := by
    rintro j hj rfl
    rw [hr] at hj
    exact absurd hj (by simp [Status.holds, hfree])
  rcases hused with ⟨hmem, hlive⟩ | ⟨next', hprogram⟩
  · obtain ⟨j, hj⟩ := (ho.flags h hlive).mp hset
    obtain ⟨c', next, hi, hcall', -⟩ := hs.running_call hr
    obtain rfl : c' = c := Option.some.inj (hcall'.symm.trans hcall)
    obtain ⟨o, hheld, hfield, hne, hkind⟩ := (hs.fits i).uses_field hi hmem
    have howner := hs.holder_owns law ho hfield hne hkind hj
    rw [((hs.fits i).owner o).mp hheld] at howner
    exact hother j hj (Option.some.inj howner).symm
  · -- the flag of the object that the call is to destroy
    obtain ⟨gh, hgh⟩ := ho.outlined i r hr
    have houtline := hgh.outline
    rw [hprogram] at houtline
    obtain ⟨-, hne, ⟨k, hslot, rfl⟩, -⟩ := houtline
    have hcontent : gh.content = w.pool.shared.slots k := by
      rw [hgh.fits.content, hslot]
      rfl
    rw [hcontent] at hne hset hother
    obtain ⟨j, hj⟩ := (ho.flags _ (ho.slotsLive k hne)).mp hset
    obtain ⟨o, rfl, hstake⟩ := hs.slot_staked hr hslot
    have hzero := (hs.fits i).staked o (by rcases hstake with h | h <;> rw [h] <;> rfl)
    rcases hs.holder hj with ⟨o', hmem, hfield', -, hkind'⟩ | ⟨r', hr', hclaim'⟩
    · have hpointer' := hs.pointer (by rw [hfield']; exact hne)
      have hplace := ho.slotsApart (L.place o) (L.place o') hkind' hne
        (by rw [hpointer', hfield'])
      rw [← law.place_injective hplace, hzero] at hfield'
      exact hne hfield'.symm
    · have hslot' := ho.claims j r' _ (L.place o) hr' hclaim' rfl hne rfl
      exact hother j hj (ho.apart j i r' r (L.place o) hr' hr hslot' hslot)

end Wrapper.Safe

end Calls

end Invariant

end AuraOpaque.Foundation
