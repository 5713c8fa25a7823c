import Mathlib.Logic.Function.Basic
import Mathlib.Data.List.Basic

/-!
# Calls on locked handles

A library hands out pointers to objects, each with a flag for exclusive use.  A
call is a program of atomic steps: it tries a flag, works on the data, reads or
writes a slot in which the caller keeps a pointer.  A flag taken under a guard
is given back when the call leaves, whichever way it leaves; a flag taken to
destroy an object is not.
-/

namespace AuraOpaque.Foundation

/-- A pointer to an object of some kind. -/
structure Handle (κ : Type) where
  kind : κ
  address : ℕ
  deriving DecidableEq

/-- A place of the caller's that holds a pointer of some kind. -/
structure Slot (κ : Type) where
  kind : κ
  address : ℕ
  deriving DecidableEq

/-- What all calls work on.  A slot that holds zero holds no pointer. -/
structure Shared (κ δ : Type) where
  inUse : Handle κ → Bool
  live : Handle κ → Bool
  slots : Slot κ → ℕ
  data : δ

namespace Shared

variable {κ δ : Type} [DecidableEq κ] (s : Shared κ δ)

def lock (h : Handle κ) : Shared κ δ := { s with inUse := Function.update s.inUse h true }

def unlock (h : Handle κ) : Shared κ δ := { s with inUse := Function.update s.inUse h false }

def clear (slot : Slot κ) : Shared κ δ := { s with slots := Function.update s.slots slot 0 }

/-- A new object, with a clear flag, and the pointer to it. -/
def publish (slot : Slot κ) (address : ℕ) (create : ℕ → δ → δ) : Shared κ δ where
  inUse := Function.update s.inUse ⟨slot.kind, address⟩ false
  live := Function.update s.live ⟨slot.kind, address⟩ true
  slots := Function.update s.slots slot address
  data := create address s.data

def dispose (h : Handle κ) (wipe : δ → δ) : Shared κ δ :=
  { s with live := Function.update s.live h false, data := wipe s.data }

@[simp] theorem lock_data (h : Handle κ) : (s.lock h).data = s.data := rfl

@[simp] theorem unlock_data (h : Handle κ) : (s.unlock h).data = s.data := rfl

section Updates

variable {s} {h h' : Handle κ} {slot slot' : Slot κ} {address : ℕ} {create : ℕ → δ → δ}
  {wipe : δ → δ}

@[simp] theorem lock_inUse_self : (s.lock h).inUse h = true := Function.update_self _ _ _

theorem lock_inUse_of_ne (hne : h' ≠ h) : (s.lock h).inUse h' = s.inUse h' :=
  Function.update_of_ne hne _ _

@[simp] theorem unlock_inUse_self : (s.unlock h).inUse h = false := Function.update_self _ _ _

theorem unlock_inUse_of_ne (hne : h' ≠ h) : (s.unlock h).inUse h' = s.inUse h' :=
  Function.update_of_ne hne _ _

theorem clear_slots_of_ne (hne : slot' ≠ slot) : (s.clear slot).slots slot' = s.slots slot' :=
  Function.update_of_ne hne _ _

@[simp] theorem publish_inUse_self :
    (s.publish slot address create).inUse ⟨slot.kind, address⟩ = false :=
  Function.update_self _ _ _

theorem publish_inUse_of_ne (hne : h ≠ ⟨slot.kind, address⟩) :
    (s.publish slot address create).inUse h = s.inUse h :=
  Function.update_of_ne hne _ _

@[simp] theorem publish_live_self :
    (s.publish slot address create).live ⟨slot.kind, address⟩ = true :=
  Function.update_self _ _ _

theorem publish_live_of_ne (hne : h ≠ ⟨slot.kind, address⟩) :
    (s.publish slot address create).live h = s.live h :=
  Function.update_of_ne hne _ _

@[simp] theorem publish_slots_self : (s.publish slot address create).slots slot = address :=
  Function.update_self _ _ _

theorem publish_slots_of_ne (hne : slot' ≠ slot) :
    (s.publish slot address create).slots slot' = s.slots slot' :=
  Function.update_of_ne hne _ _

@[simp] theorem dispose_live_self : (s.dispose h wipe).live h = false :=
  Function.update_self _ _ _

theorem dispose_live_of_ne (hne : h' ≠ h) : (s.dispose h wipe).live h' = s.live h' :=
  Function.update_of_ne hne _ _

end Updates

def unlockAll (guards : List (Handle κ)) : Shared κ δ := guards.foldl unlock s

@[simp] theorem unlockAll_data (guards : List (Handle κ)) :
    (s.unlockAll guards).data = s.data := by
  unfold unlockAll
  induction guards generalizing s with
  | nil => rfl
  | cons h guards ih => exact ih (s.unlock h)

@[simp] theorem unlockAll_live (guards : List (Handle κ)) :
    (s.unlockAll guards).live = s.live := by
  unfold unlockAll
  induction guards generalizing s with
  | nil => rfl
  | cons h guards ih => exact ih (s.unlock h)

end Shared

/--
A call that goes on with an `α`, or leaves early with a code.  Taking a flag
either way is one compare-exchange, whose success the program goes on with.
-/
inductive Program (κ δ ρ α : Type) : Type 1 where
  | ret (value : α)
  | exit (code : ρ)
  /-- Take the flag under a guard. -/
  | acquire (h : Handle κ) (next : Bool → Program κ δ ρ α)
  /-- Drop a guard before the end. -/
  | release (h : Handle κ) (next : Program κ δ ρ α)
  | act {β : Type} (step : δ → Except ρ β × δ) (next : β → Program κ δ ρ α)
  | load (slot : Slot κ) (next : ℕ → Program κ δ ρ α)
  | clear (slot : Slot κ) (next : Program κ δ ρ α)
  /-- Take the flag for good. -/
  | claim (h : Handle κ) (next : Bool → Program κ δ ρ α)
  | publish (slot : Slot κ) (create : ℕ → δ → δ) (next : Program κ δ ρ α)
  | dispose (h : Handle κ) (wipe : δ → δ) (next : Program κ δ ρ α)

namespace Program

variable {κ δ ρ α β : Type}

def bind : Program κ δ ρ α → (α → Program κ δ ρ β) → Program κ δ ρ β
  | .ret a, f => f a
  | .exit code, _ => .exit code
  | .acquire h next, f => .acquire h fun taken => (next taken).bind f
  | .release h next, f => .release h (next.bind f)
  | .act step next, f => .act step fun b => (next b).bind f
  | .load slot next, f => .load slot fun address => (next address).bind f
  | .clear slot next, f => .clear slot (next.bind f)
  | .claim h next, f => .claim h fun taken => (next taken).bind f
  | .publish slot create next, f => .publish slot create (next.bind f)
  | .dispose h wipe next, f => .dispose h wipe (next.bind f)

instance : Monad (Program κ δ ρ) where
  pure := .ret
  bind := bind

@[simp] theorem pure_eq (a : α) : (pure a : Program κ δ ρ α) = .ret a := rfl

section Bind

variable {f : α → Program κ δ ρ β}

@[simp] theorem ret_bind (a : α) : (.ret a >>= f : Program κ δ ρ β) = f a := rfl

@[simp] theorem exit_bind (code : ρ) : (.exit code >>= f : Program κ δ ρ β) = .exit code := rfl

@[simp] theorem acquire_bind (h : Handle κ) (next : Bool → Program κ δ ρ α) :
    (.acquire h next >>= f) = .acquire h fun taken => next taken >>= f := rfl

@[simp] theorem release_bind (h : Handle κ) (next : Program κ δ ρ α) :
    (.release h next >>= f) = .release h (next >>= f) := rfl

@[simp] theorem act_bind {γ : Type} (step : δ → Except ρ γ × δ) (next : γ → Program κ δ ρ α) :
    (.act step next >>= f) = .act step fun c => next c >>= f := rfl

@[simp] theorem load_bind (slot : Slot κ) (next : ℕ → Program κ δ ρ α) :
    (.load slot next >>= f) = .load slot fun address => next address >>= f := rfl

@[simp] theorem clear_bind (slot : Slot κ) (next : Program κ δ ρ α) :
    (.clear slot next >>= f) = .clear slot (next >>= f) := rfl

@[simp] theorem claim_bind (h : Handle κ) (next : Bool → Program κ δ ρ α) :
    (.claim h next >>= f) = .claim h fun taken => next taken >>= f := rfl

@[simp] theorem publish_bind (slot : Slot κ) (create : ℕ → δ → δ) (next : Program κ δ ρ α) :
    (.publish slot create next >>= f) = .publish slot create (next >>= f) := rfl

@[simp] theorem dispose_bind (h : Handle κ) (wipe : δ → δ) (next : Program κ δ ρ α) :
    (.dispose h wipe next >>= f) = .dispose h wipe (next >>= f) := rfl

theorem bind_assoc {γ : Type} (p : Program κ δ ρ α) (f : α → Program κ δ ρ β)
    (g : β → Program κ δ ρ γ) : (p >>= f) >>= g = p >>= fun a => f a >>= g := by
  induction p with
  | ret => rfl
  | exit => rfl
  | acquire h next ih => exact congrArg (Program.acquire h) (funext ih)
  | release h next ih => exact congrArg (Program.release h) ih
  | act step next ih => exact congrArg (Program.act step) (funext ih)
  | load slot next ih => exact congrArg (Program.load slot) (funext ih)
  | clear slot next ih => exact congrArg (Program.clear slot) ih
  | claim h next ih => exact congrArg (Program.claim h) (funext ih)
  | publish slot create next ih => exact congrArg (Program.publish slot create) ih
  | dispose h wipe next ih => exact congrArg (Program.dispose h wipe) ih

end Bind

/-- `if condition { return code }`. -/
def exitIf (condition : Prop) [Decidable condition] (code : ρ) : Program κ δ ρ Unit :=
  if condition then .exit code else .ret ()

/-- What holds of leaving here, and of going on, holds of the check. -/
theorem exitIf_cases {condition : Prop} [Decidable condition] {code : ρ}
    {next : Unit → Program κ δ ρ α} {motive : Program κ δ ρ α → Prop}
    (hexit : condition → motive (.exit code)) (hnext : ¬ condition → motive (next ())) :
    motive (exitIf condition code >>= next) := by
  unfold exitIf
  split
  · next h => exact hexit h
  · next h => exact hnext h

/-- The code with which the program leaves, when it has nothing else left to do. -/
def code : Program κ δ ρ ρ → Option ρ
  | .ret code => some code
  | .exit code => some code
  | _ => none

/-! ## A call on its own -/

structure Ending (κ δ ρ : Type) where
  code : ρ
  shared : Shared κ δ
  acquired : List (Handle κ)

section Exec

variable [DecidableEq κ]

/-- The call is run without interruption; `fresh` are the addresses of new objects. -/
def exec (fresh : Shared κ δ → ℕ) : Program κ δ ρ ρ → (guards acquired : List (Handle κ)) →
    Shared κ δ → Ending κ δ ρ
  | .ret code, guards, acquired, s => ⟨code, s.unlockAll guards, acquired⟩
  | .exit code, guards, acquired, s => ⟨code, s.unlockAll guards, acquired⟩
  | .acquire h next, guards, acquired, s =>
      match s.inUse h with
      | true => exec fresh (next false) guards acquired s
      | false => exec fresh (next true) (h :: guards) (acquired ++ [h]) (s.lock h)
  | .release h next, guards, acquired, s =>
      exec fresh next (guards.erase h) acquired (s.unlock h)
  | .act step next, guards, acquired, s =>
      match step s.data with
      | (.ok b, data) => exec fresh (next b) guards acquired { s with data }
      | (.error code, data) => ⟨code, ({ s with data } : Shared κ δ).unlockAll guards, acquired⟩
  | .load slot next, guards, acquired, s =>
      exec fresh (next (s.slots slot)) guards acquired s
  | .clear slot next, guards, acquired, s =>
      exec fresh next guards acquired (s.clear slot)
  | .claim h next, guards, acquired, s =>
      match s.inUse h with
      | true => exec fresh (next false) guards acquired s
      | false => exec fresh (next true) guards (acquired ++ [h]) (s.lock h)
  | .publish slot create next, guards, acquired, s =>
      exec fresh next guards acquired (s.publish slot (fresh s) create)
  | .dispose h wipe next, guards, acquired, s =>
      exec fresh next guards acquired (s.dispose h wipe)

section Admits

variable (good : ρ → δ → Prop) (data : δ)

/-- One step on the data, with a code and a result in `good`, and nothing after it. -/
def Performs : Program κ δ ρ ρ → Prop
  | .act step next =>
      match step data with
      | (.ok b, data') => ∃ code, (next b).code = some code ∧ good code data'
      | (.error code, data') => good code data'
  | _ => False

variable (h : Handle κ) (success : ρ)

/--
Nothing changes before the flag of `h` is taken, and the program then performs
its one step.  One that does not get there ends with another code than `success`.
-/
def Admits : Program κ δ ρ ρ → Prop
  | .ret code => code ≠ success
  | .exit code => code ≠ success
  | .acquire h' next =>
      (h' = h ∧ (∃ code, code ≠ success ∧ next false = .exit code) ∧
        Performs good data (next true)) ∨
        (h' ≠ h ∧ ∀ taken, Admits (next taken))
  | .act step next => (step data).2 = data ∧
      match (step data).1 with
      | .ok b => Admits (next b)
      | .error code => code ≠ success
  | _ => False

end Admits

variable {h : Handle κ} {success : ρ} {good : ρ → δ → Prop} {p : Program κ δ ρ ρ}

theorem exec_of_code {code : ρ} (hcode : p.code = some code) (fresh : Shared κ δ → ℕ)
    (guards acquired : List (Handle κ)) (s : Shared κ δ) :
    p.exec fresh guards acquired s = ⟨code, s.unlockAll guards, acquired⟩ := by
  cases p with
  | ret c => cases hcode; rfl
  | exit c => cases hcode; rfl
  | _ => cases hcode

theorem Performs.exec {s : Shared κ δ} (hp : Performs good s.data p) (fresh : Shared κ δ → ℕ)
    (guards acquired : List (Handle κ)) :
    (p.exec fresh guards acquired s).acquired = acquired ∧
      good (p.exec fresh guards acquired s).code
        (p.exec fresh guards acquired s).shared.data := by
  cases p with
  | act step next =>
      rcases hstep : step s.data with ⟨code | b, data⟩ <;> simp only [Performs, hstep] at hp
      · simp only [Program.exec, hstep]
        exact ⟨trivial, by simpa using hp⟩
      · obtain ⟨code, hcode, hgood⟩ := hp
        simp only [Program.exec, hstep]
        rw [exec_of_code hcode]
        exact ⟨rfl, by simpa using hgood⟩
  | _ => cases hp

/-- The call was turned away and changed nothing, or it was admitted and did its one step. -/
theorem Admits.exec {s : Shared κ δ} (hp : Admits good s.data h success p)
    (fresh : Shared κ δ → ℕ) {guards acquired : List (Handle κ)} (hnew : h ∉ acquired) :
    (h ∉ (p.exec fresh guards acquired s).acquired ∧
      (p.exec fresh guards acquired s).code ≠ success ∧
      (p.exec fresh guards acquired s).shared.data = s.data) ∨
    (h ∈ (p.exec fresh guards acquired s).acquired ∧
      good (p.exec fresh guards acquired s).code
        (p.exec fresh guards acquired s).shared.data) := by
  induction p generalizing guards acquired s with
  | ret code => exact .inl ⟨hnew, hp, by simp [Program.exec]⟩
  | exit code => exact .inl ⟨hnew, hp, by simp [Program.exec]⟩
  | acquire h' next ih =>
      rcases hp with ⟨rfl, ⟨code, hcode, hrefused⟩, hperforms⟩ | ⟨hother, hnext⟩
      · cases hflag : s.inUse h' <;> simp only [Program.exec, hflag]
        · obtain ⟨hacquired, hgood⟩ := @Performs.exec _ _ _ _ _ _ (s.lock h') hperforms fresh
            (h' :: guards) (acquired ++ [h'])
          exact .inr ⟨by simp [hacquired], hgood⟩
        · rw [hrefused]
          exact .inl ⟨hnew, hcode, by simp [Program.exec]⟩
      · cases hflag : s.inUse h' <;> simp only [Program.exec, hflag]
        · have hnew' : h ∉ acquired ++ [h'] := by simp [hnew, Ne.symm hother]
          exact @ih true (s.lock h') (hnext true) (h' :: guards) (acquired ++ [h']) hnew'
        · exact ih false (hnext false) hnew
  | act step next ih =>
      simp only [Admits] at hp
      obtain ⟨hsame, hnext⟩ := hp
      rcases hstep : step s.data with ⟨code | b, data⟩ <;> rw [hstep] at hsame hnext <;>
        dsimp only at hsame hnext <;> subst hsame <;> simp only [Program.exec, hstep]
      · exact .inl ⟨hnew, hnext, by simp⟩
      · exact ih b hnext hnew
  | _ => cases hp

end Exec

end Program

end AuraOpaque.Foundation
