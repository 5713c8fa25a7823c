import AuraOpaque.Foundation.Handles
import AuraOpaque.Foundation.Run
import Mathlib.Data.List.Count

/-!
# Interleaved calls

Any number of calls take their steps in any order.  A step on a flag is a step on
a live object, and two calls do not share a slot while they run: callers promise
both.  The outline of a program follows what its own slot holds, what it took
for good and what it changed; no other call can disturb it.  From the outlines
the file derives that a flag has one holder, that a call leaves with nothing
held, and that an object is disposed of once.
-/

namespace AuraOpaque.Foundation

variable {κ δ ρ ι : Type}

/-! ## The steps of one call -/

/-- What a call did with a flag that it took for good. -/
inductive Claim (κ : Type) where
  | none
  | taken (h : Handle κ)
  | freed (h : Handle κ)
  deriving DecidableEq

/-- What a step is to the other calls. -/
inductive Event (κ ρ : Type) where
  | started
  | acquired (h : Handle κ)
  | released (h : Handle κ)
  | freed (h : Handle κ)
  | worked
  | returned (code : ρ)
  deriving DecidableEq

def Event.acquired? : Event κ ρ → Option (Handle κ)
  | .acquired h => some h
  | _ => none

def Event.released? : Event κ ρ → Option (Handle κ)
  | .released h => some h
  | _ => none

def Event.freed? : Event κ ρ → Option (Handle κ)
  | .freed h => some h
  | _ => none

/-- A call that is under way, with the guards that it holds. -/
structure Running (κ δ ρ : Type) : Type 1 where
  program : Program κ δ ρ ρ
  guards : List (Handle κ)
  claim : Claim κ

/-! ## Outlines -/

/-- What a call knows of itself: its slot, its claim, and whether it changed anything. -/
structure Ghost (κ : Type) where
  content : ℕ
  claim : Claim κ
  touched : Prop
  wrote : Prop

/--
Whatever the others do, the program ends with a code and a ghost in `Q`.  It
writes no slot but its own, takes for good only what its slot points to, and
disposes of it after the slot was cleared.
-/
def Outline (slot : Option (Slot κ)) (Q : ρ → Ghost κ → Prop) :
    Program κ δ ρ ρ → Ghost κ → Prop
  | .ret code, g => (∀ h, g.claim ≠ .taken h) ∧ Q code g
  | .exit code, g => (∀ h, g.claim ≠ .taken h) ∧ Q code g
  | .acquire _ next, g => ∀ taken, Outline slot Q (next taken) g
  | .release _ next, g => Outline slot Q next g
  | .act step next, g => ∀ data,
      match step data with
      | (.ok b, data') => Outline slot Q (next b) { g with touched := g.touched ∨ data' ≠ data }
      | (.error code, data') =>
          (∀ h, g.claim ≠ .taken h) ∧ Q code { g with touched := g.touched ∨ data' ≠ data }
  | .load k next, g => slot = some k ∧ Outline slot Q (next g.content) g
  | .clear k next, g => slot = some k ∧ Outline slot Q next { g with content := 0, wrote := True }
  | .claim h next, g =>
      g.claim = .none ∧ g.content ≠ 0 ∧ (∃ k, slot = some k ∧ h = ⟨k.kind, g.content⟩) ∧
        Outline slot Q (next false) g ∧ Outline slot Q (next true) { g with claim := .taken h }
  | .publish k _ next, g => slot = some k ∧ ∀ address, address ≠ 0 →
      Outline slot Q next { g with content := address, touched := True, wrote := True }
  | .dispose h _ next, g => g.claim = .taken h ∧ g.content = 0 ∧
      Outline slot Q next { g with claim := .freed h, touched := True }

/-- What the slot of a call holds; nothing when the call has no slot. -/
def Shared.content (s : Shared κ δ) (slot : Option (Slot κ)) : ℕ := slot.elim 0 s.slots

/-- The ghost fits the call and what the call sees. -/
structure Ghost.Fits (g : Ghost κ) (slot : Option (Slot κ)) (r : Running κ δ ρ)
    (s : Shared κ δ) : Prop where
  content : g.content = s.content slot
  claim : g.claim = r.claim

/-- The changes between two states are on record. -/
structure Ghost.Records (g : Ghost κ) (s s' : Shared κ δ) : Prop where
  data : s'.data ≠ s.data → g.touched
  live : s'.live ≠ s.live → g.touched
  slots : s'.slots ≠ s.slots → g.wrote

theorem Ghost.Records.same {g : Ghost κ} {s s' : Shared κ δ} (hdata : s'.data = s.data)
    (hlive : s'.live = s.live) (hslots : s'.slots = s.slots) : g.Records s s' :=
  ⟨fun h => absurd hdata h, fun h => absurd hlive h, fun h => absurd hslots h⟩

/-- A later ghost: what was on record stays on record. -/
structure Ghost.Extends (g g' : Ghost κ) : Prop where
  touched : g.touched → g'.touched
  wrote : g.wrote → g'.wrote

theorem Ghost.Records.mono {g g' : Ghost κ} {s s' : Shared κ δ} (h : g.Records s s')
    (hext : g.Extends g') : g'.Records s s' :=
  ⟨fun hne => hext.touched (h.data hne), fun hne => hext.touched (h.live hne),
    fun hne => hext.wrote (h.slots hne)⟩

/-- A program that has only its guards left to drop ends in `Q`. -/
theorem Outline.of_code {slot : Option (Slot κ)} {Q : ρ → Ghost κ → Prop}
    {program : Program κ δ ρ ρ} {g : Ghost κ} {code : ρ} (h : Outline slot Q program g)
    (hcode : program.code = some code) : (∀ h, g.claim ≠ .taken h) ∧ Q code g := by
  cases program with
  | ret c => cases hcode; exact h
  | exit c => cases hcode; exact h
  | _ => cases hcode

/-! ## Steps -/

variable [DecidableEq κ]

/-- The own steps of a call.  The flag of an object that is gone cannot be tried. -/
inductive Moves : Running κ δ ρ → Shared κ δ → Event κ ρ → Running κ δ ρ → Shared κ δ → Prop where
  | acquire {h next guards claim s} (hlive : s.live h = true) (hfree : s.inUse h = false) :
      Moves ⟨.acquire h next, guards, claim⟩ s (.acquired h)
        ⟨next true, h :: guards, claim⟩ (s.lock h)
  | busy {h next guards claim s} (hlive : s.live h = true) (hbusy : s.inUse h = true) :
      Moves ⟨.acquire h next, guards, claim⟩ s .worked ⟨next false, guards, claim⟩ s
  | release {h next guards claim s} (hheld : h ∈ guards) :
      Moves ⟨.release h next, guards, claim⟩ s (.released h)
        ⟨next, guards.erase h, claim⟩ (s.unlock h)
  | act {β : Type} {step : δ → Except ρ β × δ} {next b guards claim s data}
      (hstep : step s.data = (.ok b, data)) :
      Moves ⟨.act step next, guards, claim⟩ s .worked ⟨next b, guards, claim⟩ { s with data }
  | fail {β : Type} {step : δ → Except ρ β × δ} {next code guards claim s data}
      (hstep : step s.data = (.error code, data)) :
      Moves ⟨.act step next, guards, claim⟩ s .worked
        ⟨.exit code, guards, claim⟩ { s with data }
  | load {slot next guards claim s} :
      Moves ⟨.load slot next, guards, claim⟩ s .worked ⟨next (s.slots slot), guards, claim⟩ s
  | clear {slot next guards claim s} :
      Moves ⟨.clear slot next, guards, claim⟩ s .worked ⟨next, guards, claim⟩ (s.clear slot)
  | claim {h next guards s} (hfree : s.inUse h = false) :
      Moves ⟨.claim h next, guards, .none⟩ s (.acquired h) ⟨next true, guards, .taken h⟩ (s.lock h)
  | refused {h next guards claim s} (hbusy : s.inUse h = true) :
      Moves ⟨.claim h next, guards, claim⟩ s .worked ⟨next false, guards, claim⟩ s
  | publish {slot create next guards claim s address} (hne : address ≠ 0)
      (hfresh : s.live ⟨slot.kind, address⟩ = false) :
      Moves ⟨.publish slot create next, guards, claim⟩ s .worked
        ⟨next, guards, claim⟩ (s.publish slot address create)
  | dispose {h wipe next guards s} :
      Moves ⟨.dispose h wipe next, guards, .taken h⟩ s (.freed h)
        ⟨next, guards, .freed h⟩ (s.dispose h wipe)
  | drop {program : Program κ δ ρ ρ} {code h guards claim s} (hcode : program.code = some code) :
      Moves ⟨program, h :: guards, claim⟩ s (.released h) ⟨program, guards, claim⟩ (s.unlock h)

namespace Running

def holds (r : Running κ δ ρ) (h : Handle κ) : ℕ :=
  r.guards.count h + if r.claim = .taken h then 1 else 0

end Running

namespace Event

def takes (e : Event κ ρ) (h : Handle κ) : ℕ :=
  match e with
  | .acquired h' => if h' = h then 1 else 0
  | _ => 0

def gives (e : Event κ ρ) (h : Handle κ) : ℕ :=
  match e with
  | .released h' => if h' = h then 1 else 0
  | .freed h' => if h' = h then 1 else 0
  | _ => 0

end Event

variable {r r' : Running κ δ ρ} {s s' : Shared κ δ} {e : Event κ ρ}

/-- What is held grows and shrinks with the events. -/
theorem Moves.balance (hmove : Moves r s e r' s') (h : Handle κ) :
    r'.holds h + e.gives h = r.holds h + e.takes h := by
  cases hmove with
  | @acquire h' _ guards claim _ =>
      simp only [Running.holds, Event.gives, Event.takes, List.count_cons, beq_iff_eq]
      omega
  | @release h' _ guards claim _ hheld =>
      have hcount : (guards.erase h').count h =
          guards.count h - if (h' == h) = true then 1 else 0 := List.count_erase
      have hpos := List.count_pos_iff.mpr hheld
      simp only [Running.holds, Event.gives, Event.takes, beq_iff_eq] at hcount ⊢
      by_cases hh : h' = h
      · subst hh
        simp only [if_true] at hcount ⊢
        omega
      · simp only [if_neg hh] at hcount ⊢
        omega
  | @claim h' _ guards _ _ =>
      simp only [Running.holds, Event.gives, Event.takes, Claim.taken.injEq, reduceCtorEq,
        if_false]
      omega
  | @dispose h' _ _ guards _ =>
      simp only [Running.holds, Event.gives, Event.takes, Claim.taken.injEq, reduceCtorEq,
        if_false]
      omega
  | @drop _ _ h' guards claim _ _ =>
      simp only [Running.holds, Event.gives, Event.takes, List.count_cons, beq_iff_eq]
      omega
  | _ => rfl

section OutlineSteps

variable {slot : Option (Slot κ)} {Q : ρ → Ghost κ → Prop} {g : Ghost κ}

theorem Moves.outline (hmove : Moves r s e r' s') (houtline : Outline slot Q r.program g)
    (hfits : g.Fits slot r s) :
    ∃ g' : Ghost κ, Outline slot Q r'.program g' ∧ g'.Fits slot r' s' ∧ g.Extends g' ∧
      g'.Records s s' := by
  obtain ⟨hcontent, hclaim⟩ := hfits
  cases hmove with
  | acquire hlive hfree =>
      exact ⟨g, houtline true, ⟨hcontent, hclaim⟩, ⟨id, id⟩, .same rfl rfl rfl⟩
  | busy hlive hbusy =>
      exact ⟨g, houtline false, ⟨hcontent, hclaim⟩, ⟨id, id⟩, .same rfl rfl rfl⟩
  | release hheld => exact ⟨g, houtline, ⟨hcontent, hclaim⟩, ⟨id, id⟩, .same rfl rfl rfl⟩
  | act hstep =>
      have hnext := houtline s.data
      rw [hstep] at hnext
      exact ⟨_, hnext, ⟨hcontent, hclaim⟩, ⟨.inl, id⟩, .inr, fun h => absurd rfl h,
        fun h => absurd rfl h⟩
  | @fail β step next code guards claim s data hstep =>
      have hnext := houtline s.data
      rw [hstep] at hnext
      exact ⟨{ g with touched := g.touched ∨ data ≠ s.data }, hnext, ⟨hcontent, hclaim⟩,
        ⟨.inl, id⟩, .inr, fun h => absurd rfl h, fun h => absurd rfl h⟩
  | load =>
      obtain ⟨rfl, hnext⟩ := houtline
      rw [hcontent] at hnext
      exact ⟨g, hnext, ⟨hcontent, hclaim⟩, ⟨id, id⟩, .same rfl rfl rfl⟩
  | clear =>
      obtain ⟨rfl, hnext⟩ := houtline
      refine ⟨_, hnext, ⟨?_, hclaim⟩, ⟨id, fun _ => trivial⟩, fun h => absurd rfl h,
        fun h => absurd rfl h, fun _ => trivial⟩
      simp [Shared.content, Shared.clear]
  | claim hfree =>
      obtain ⟨-, -, -, -, hnext⟩ := houtline
      exact ⟨_, hnext, ⟨hcontent, rfl⟩, ⟨id, id⟩, .same rfl rfl rfl⟩
  | refused hbusy =>
      obtain ⟨-, -, -, hnext, -⟩ := houtline
      exact ⟨g, hnext, ⟨hcontent, hclaim⟩, ⟨id, id⟩, .same rfl rfl rfl⟩
  | publish hne hfresh =>
      obtain ⟨rfl, hnext⟩ := houtline
      refine ⟨_, hnext _ hne, ⟨?_, hclaim⟩, ⟨fun _ => trivial, fun _ => trivial⟩,
        fun _ => trivial, fun _ => trivial, fun _ => trivial⟩
      simp [Shared.content, Shared.publish]
  | dispose =>
      obtain ⟨-, -, hnext⟩ := houtline
      exact ⟨_, hnext, ⟨hcontent, rfl⟩, ⟨fun _ => trivial, id⟩, fun _ => trivial,
        fun _ => trivial, fun h => absurd rfl h⟩
  | drop hcode => exact ⟨g, houtline, ⟨hcontent, hclaim⟩, ⟨id, id⟩, .same rfl rfl rfl⟩

theorem Moves.slots (hmove : Moves r s e r' s') (houtline : Outline slot Q r.program g)
    {k : Slot κ} (hk : slot ≠ some k) : s'.slots k = s.slots k := by
  cases hmove with
  | clear =>
      obtain ⟨rfl, -⟩ := houtline
      exact Shared.clear_slots_of_ne fun h => hk (congrArg some h.symm)
  | publish =>
      obtain ⟨rfl, -⟩ := houtline
      exact Shared.publish_slots_of_ne fun h => hk (congrArg some h.symm)
  | _ => rfl

end OutlineSteps

/-! ## A call on its own -/

section Alone

variable {p : Program κ δ ρ ρ}

abbrev Alone : Running κ δ ρ × Shared κ δ → Event κ ρ → Running κ δ ρ × Shared κ δ → Prop :=
  fun x e y => Moves x.1 x.2 e y.1 y.2

theorem Moves.alone {events : List (Event κ ρ)} {y : Running κ δ ρ × Shared κ δ}
    (hmove : Moves r s e r' s') (hrun : Run Alone (r', s') events y) :
    Run Alone (r, s) (e :: events) y :=
  hrun.cons hmove

/-- The program tries flags of live objects under guards, and works on the data. -/
def Program.Plain (live : Handle κ → Bool) : Program κ δ ρ ρ → Prop
  | .ret _ => True
  | .exit _ => True
  | .acquire h next => live h = true ∧ ∀ taken, (next taken).Plain live
  | .act _ next => ∀ b, (next b).Plain live
  | _ => False

theorem drops {code : ρ} (hcode : p.code = some code) (guards : List (Handle κ))
    (s : Shared κ δ) : ∃ history : List (Event κ ρ), history.filterMap Event.acquired? = [] ∧
      Run Alone (⟨p, guards, .none⟩, s) history (⟨p, [], .none⟩, s.unlockAll guards) := by
  induction guards generalizing s with
  | nil => exact ⟨[], rfl, .nil⟩
  | cons h guards ih =>
      obtain ⟨history, hnone, hrun⟩ := ih (s.unlock h)
      exact ⟨.released h :: history, hnone, hrun.cons (Moves.drop hcode)⟩

/-- What `exec` computes are the steps of the call on its own. -/
theorem Program.Plain.exec_run (hp : p.Plain s.live) (fresh : Shared κ δ → ℕ)
    (guards acquired : List (Handle κ)) : ∃ history q,
      Run Alone (⟨p, guards, .none⟩, s) history
        (⟨q, [], .none⟩, (p.exec fresh guards acquired s).shared) ∧
      q.code = some (p.exec fresh guards acquired s).code ∧
      (p.exec fresh guards acquired s).acquired =
        acquired ++ history.filterMap Event.acquired? := by
  induction p generalizing guards acquired s with
  | ret code =>
      obtain ⟨history, hnone, hrun⟩ := drops (p := .ret code) rfl guards s
      exact ⟨history, _, hrun, rfl, by simp [Program.exec, hnone]⟩
  | exit code =>
      obtain ⟨history, hnone, hrun⟩ := drops (p := .exit code) rfl guards s
      exact ⟨history, _, hrun, rfl, by simp [Program.exec, hnone]⟩
  | acquire h next ih =>
      obtain ⟨hlive, hnext⟩ := hp
      cases hflag : s.inUse h <;> simp only [Program.exec, hflag]
      · obtain ⟨history, q, hrun, hcode, hacquired⟩ :=
          @ih true (s.lock h) (hnext true) (h :: guards) (acquired ++ [h])
        refine ⟨.acquired h :: history, q, hrun.cons (Moves.acquire hlive hflag), hcode, ?_⟩
        rw [hacquired]
        simp [Event.acquired?]
      · obtain ⟨history, q, hrun, hcode, hacquired⟩ := @ih false s (hnext false) guards acquired
        exact ⟨.worked :: history, q, hrun.cons (Moves.busy hlive hflag), hcode, hacquired⟩
  | act step next ih =>
      rcases hstep : step s.data with ⟨code | b, data⟩ <;> simp only [Program.exec, hstep]
      · obtain ⟨history, hnone, hrun⟩ := drops (p := .exit code) rfl guards { s with data }
        refine ⟨.worked :: history, _, hrun.cons (Moves.fail hstep), rfl, ?_⟩
        rw [List.filterMap_cons_none rfl, hnone, List.append_nil]
      · obtain ⟨history, q, hrun, hcode, hacquired⟩ :=
          @ih b { s with data } (hp b) guards acquired
        exact ⟨.worked :: history, q, hrun.cons (Moves.act hstep), hcode, hacquired⟩
  | _ => cases hp

/-- Such a program makes no object and destroys none. -/
theorem Program.Plain.exec_live {live : Handle κ → Bool} (hp : p.Plain live)
    (fresh : Shared κ δ → ℕ) (guards acquired : List (Handle κ)) (hs : s.live = live) :
    (p.exec fresh guards acquired s).shared.live = live := by
  induction p generalizing s guards acquired with
  | ret code => rwa [Program.exec, Shared.unlockAll_live]
  | exit code => rwa [Program.exec, Shared.unlockAll_live]
  | acquire h next ih =>
      cases hflag : s.inUse h <;> simp only [Program.exec, hflag]
      · exact ih true (hp.2 true) _ _ hs
      · exact ih false (hp.2 false) _ _ hs
  | act step next ih =>
      rcases hstep : step s.data with ⟨code | b, data⟩ <;> simp only [Program.exec, hstep]
      · rwa [Shared.unlockAll_live]
      · exact ih b (hp b) _ _ hs
  | _ => cases hp

end Alone

/-! ## Calls in any order -/

/-- The calls to be made, each with the slot that it was given. -/
structure Calls (ι κ δ ρ : Type) : Type 1 where
  program : ι → Program κ δ ρ ρ
  slot : ι → Option (Slot κ)

inductive Status (κ δ ρ : Type) : Type 1 where
  | pending
  | running (r : Running κ δ ρ)
  | returned (code : ρ)

structure Pool (ι κ δ ρ : Type) : Type 1 where
  status : ι → Status κ δ ρ
  shared : Shared κ δ

structure Label (ι κ δ ρ : Type) where
  call : ι
  event : Event κ ρ
  before : Shared κ δ
  after : Shared κ δ

variable [DecidableEq ι]

def Pool.set (pool : Pool ι κ δ ρ) (i : ι) (status : Status κ δ ρ) (shared : Shared κ δ) :
    Pool ι κ δ ρ where
  status := Function.update pool.status i status
  shared := shared

/-- One step of one call.  While a call has a slot, no other call is given it. -/
inductive Interleaves (calls : Calls ι κ δ ρ) :
    Pool ι κ δ ρ → Label ι κ δ ρ → Pool ι κ δ ρ → Prop where
  | start {pool i} (hpending : pool.status i = .pending)
      (hslot : ∀ j r k, pool.status j = .running r → calls.slot i = some k →
        calls.slot j ≠ some k) :
      Interleaves calls pool ⟨i, .started, pool.shared, pool.shared⟩
        (pool.set i (.running ⟨calls.program i, [], .none⟩) pool.shared)
  | move {pool i r e r' s'} (hrunning : pool.status i = .running r)
      (hmove : Moves r pool.shared e r' s') :
      Interleaves calls pool ⟨i, e, pool.shared, s'⟩ (pool.set i (.running r') s')
  | finish {pool i program claim code}
      (hrunning : pool.status i = .running ⟨program, [], claim⟩)
      (hcode : program.code = some code) :
      Interleaves calls pool ⟨i, .returned code, pool.shared, pool.shared⟩
        (pool.set i (.returned code) pool.shared)

namespace Pool

/-- The flag was taken by the call, which still has it. -/
def Holds (pool : Pool ι κ δ ρ) (i : ι) (h : Handle κ) : Prop :=
  ∃ r, pool.status i = .running r ∧ 0 < r.holds h

/-- Before the first call: no flag is set, and every slot holds nothing or an object of its own. -/
structure Quiet (pool : Pool ι κ δ ρ) : Prop where
  pending : ∀ i, pool.status i = .pending
  flags : ∀ h, pool.shared.live h = true → pool.shared.inUse h = false
  slotsLive : ∀ k, pool.shared.slots k ≠ 0 →
    pool.shared.live ⟨k.kind, pool.shared.slots k⟩ = true
  slotsApart : ∀ k k', k.kind = k'.kind → pool.shared.slots k ≠ 0 →
    pool.shared.slots k = pool.shared.slots k' → k = k'

end Pool

/-! ## What one step does to the flags and the slots -/

section Shared

variable {slot : Option (Slot κ)} {Q : ρ → Ghost κ → Prop} {g : Ghost κ}

/-- The changes to flags, objects and slots, step by step. -/
theorem Moves.shared_cases (hmove : Moves r s e r' s') (houtline : Outline slot Q r.program g)
    (hfits : g.Fits slot r s) :
    (∃ h, e = .acquired h ∧ s.inUse h = false ∧ s' = s.lock h ∧
      (s.live h = true ∧ r'.claim = r.claim ∨
        r'.claim = .taken h ∧ ∃ k, slot = some k ∧ s.slots k ≠ 0 ∧ h = ⟨k.kind, s.slots k⟩)) ∨
    (∃ h, e = .released h ∧ s' = s.unlock h ∧ r'.claim = r.claim) ∨
    (∃ h wipe, e = .freed h ∧ s' = s.dispose h wipe ∧ r.claim = .taken h ∧
      r'.claim = .freed h ∧ s.content slot = 0) ∨
    (∃ k address create, e = .worked ∧ slot = some k ∧ address ≠ 0 ∧
      s.live ⟨k.kind, address⟩ = false ∧ s' = s.publish k address create ∧
      r'.claim = r.claim) ∨
    (e = .worked ∧ s'.inUse = s.inUse ∧ s'.live = s.live ∧ r'.claim = r.claim ∧
      ∀ k, s'.slots k = s.slots k ∨ s'.slots k = 0) := by
  obtain ⟨hcontent, hclaim⟩ := hfits
  cases hmove with
  | acquire hlive hfree => exact .inl ⟨_, rfl, hfree, rfl, .inl ⟨hlive, rfl⟩⟩
  | release => exact .inr (.inl ⟨_, rfl, rfl, rfl⟩)
  | drop => exact .inr (.inl ⟨_, rfl, rfl, rfl⟩)
  | claim hfree =>
      obtain ⟨-, hne, ⟨k, rfl, hk⟩, -⟩ := houtline
      rw [hcontent] at hne hk
      exact .inl ⟨_, rfl, hfree, rfl, .inr ⟨rfl, k, rfl, hne, hk⟩⟩
  | dispose =>
      obtain ⟨-, hzero, -⟩ := houtline
      exact .inr (.inr (.inl ⟨_, _, rfl, rfl, rfl, rfl, hcontent ▸ hzero⟩))
  | publish hne hfresh =>
      obtain ⟨rfl, -⟩ := houtline
      exact .inr (.inr (.inr (.inl ⟨_, _, _, rfl, rfl, hne, hfresh, rfl, rfl⟩)))
  | @clear k =>
      refine .inr (.inr (.inr (.inr ⟨rfl, rfl, rfl, rfl, fun k' => ?_⟩)))
      by_cases hk : k' = k
      · exact .inr (by simp [hk, Shared.clear])
      · exact .inl (Shared.clear_slots_of_ne hk)
  | _ => exact .inr (.inr (.inr (.inr ⟨rfl, rfl, rfl, rfl, fun _ => .inl rfl⟩)))

end Shared

end AuraOpaque.Foundation
