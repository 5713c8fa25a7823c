import AuraOpaque.Foundation.Answers

/-!
# Wrappers of a library

A wrapper keeps the pointer to each object of a library in a field of an object
of its own, behind a lock.  Its routines run on any number of threads: they wait
for locks, read and clear the fields, and call the library.  A routine makes one
call of the library at most.
-/

namespace AuraOpaque.Foundation

variable {ι ω χ κ δ ρ α β γ : Type}

/-! ## Routines -/

/-- What is left of a routine, step by step. -/
inductive Routine (ω χ δ ρ α : Type) : Type 1 where
  | done (result : α)
  /-- The routine is called on an object that its initializer has returned. -/
  | refer (o : ω) (next : Routine ω χ δ ρ α)
  | lock (o : ω) (next : Routine ω χ δ ρ α)
  | unlock (o : ω) (next : Routine ω χ δ ρ α)
  /-- Read the field of the object. -/
  | get (o : ω) (next : ℕ → Routine ω χ δ ρ α)
  /-- Set the field to nil. -/
  | clear (o : ω) (next : Routine ω χ δ ρ α)
  | call (c : χ) (next : ρ → Routine ω χ δ ρ α)
  /-- Read the variable through which the library hands out the pointer. -/
  | fetch (o : ω) (next : ℕ → Routine ω χ δ ρ α)
  /-- Set the field to the pointer and return the object. -/
  | make (o : ω) (address : ℕ) (next : Routine ω χ δ ρ α)
  | look {β : Type} (view : δ → β) (next : β → Routine ω χ δ ρ α)

namespace Routine

def bind : Routine ω χ δ ρ α → (α → Routine ω χ δ ρ β) → Routine ω χ δ ρ β
  | .done a, f => f a
  | .refer o next, f => .refer o (next.bind f)
  | .lock o next, f => .lock o (next.bind f)
  | .unlock o next, f => .unlock o (next.bind f)
  | .get o next, f => .get o fun address => (next address).bind f
  | .clear o next, f => .clear o (next.bind f)
  | .call c next, f => .call c fun code => (next code).bind f
  | .fetch o next, f => .fetch o fun address => (next address).bind f
  | .make o address next, f => .make o address (next.bind f)
  | .look view next, f => .look view fun b => (next b).bind f

instance : Monad (Routine ω χ δ ρ) where
  pure := .done
  bind := bind

section Bind

variable {f : α → Routine ω χ δ ρ β}

@[simp] theorem pure_eq (a : α) : (pure a : Routine ω χ δ ρ α) = .done a := rfl

@[simp] theorem done_bind (a : α) : (.done a >>= f : Routine ω χ δ ρ β) = f a := rfl

@[simp] theorem refer_bind (o : ω) (next : Routine ω χ δ ρ α) :
    (.refer o next >>= f) = .refer o (next >>= f) := rfl

@[simp] theorem lock_bind (o : ω) (next : Routine ω χ δ ρ α) :
    (.lock o next >>= f) = .lock o (next >>= f) := rfl

@[simp] theorem unlock_bind (o : ω) (next : Routine ω χ δ ρ α) :
    (.unlock o next >>= f) = .unlock o (next >>= f) := rfl

@[simp] theorem get_bind (o : ω) (next : ℕ → Routine ω χ δ ρ α) :
    (.get o next >>= f) = .get o fun address => next address >>= f := rfl

@[simp] theorem clear_bind (o : ω) (next : Routine ω χ δ ρ α) :
    (.clear o next >>= f) = .clear o (next >>= f) := rfl

@[simp] theorem call_bind (c : χ) (next : ρ → Routine ω χ δ ρ α) :
    (.call c next >>= f) = .call c fun code => next code >>= f := rfl

@[simp] theorem fetch_bind (o : ω) (next : ℕ → Routine ω χ δ ρ α) :
    (.fetch o next >>= f) = .fetch o fun address => next address >>= f := rfl

@[simp] theorem make_bind (o : ω) (address : ℕ) (next : Routine ω χ δ ρ α) :
    (.make o address next >>= f) = .make o address (next >>= f) := rfl

@[simp] theorem look_bind (view : δ → γ) (next : γ → Routine ω χ δ ρ α) :
    (.look view next >>= f) = .look view fun b => next b >>= f := rfl

end Bind

end Routine

/-! ## The library -/

/-- What a call is to the objects of the wrapper. -/
inductive Effect (ω κ : Type) where
  /-- It works on objects of the library that exist. -/
  | uses (handles : List (Handle κ))
  | creates (o : ω)
  | destroys (o : ω)

def Effect.uses? : Effect ω κ → List (Handle κ)
  | .uses handles => handles
  | _ => []

/-- The object that the call creates or destroys. -/
def Effect.object? : Effect ω κ → Option ω
  | .uses _ => none
  | .creates o => some o
  | .destroys o => some o

/-- The library as its wrapper sees it. -/
structure Library (ω χ κ δ ρ : Type) : Type 1 where
  program : χ → Program κ δ ρ ρ
  effect : χ → Effect ω κ
  /-- The codes of a call that finds no flag set. -/
  codes : χ → ρ → Prop
  post : χ → ρ → Ghost κ → Prop
  /-- The variable through which the pointer to the object is handed out and given back. -/
  place : ω → Slot κ
  /-- Locks of lower rank are taken first. -/
  rank : ω → ℕ
  success : ρ
  busy : ρ

namespace Library

variable (L : Library ω χ κ δ ρ)

def uses (c : χ) : List (Handle κ) := (L.effect c).uses?

def slot (c : χ) : Option (Slot κ) := (L.effect c).object?.map L.place

/-- The calls of the library do what their effects say. -/
structure Lawful : Prop where
  place_injective : Function.Injective L.place
  outline : ∀ c content, Outline (L.slot c) (L.post c) (L.program c) ⟨content, .none, False, False⟩
  answers : ∀ c,
    (L.program c).Answers (fun _ => True) (· ∈ L.uses c) (L.codes c) L.busy []
  created : ∀ {c o code g}, L.effect c = .creates o → L.post c code g →
    (g.content ≠ 0 ↔ code = L.success)
  destroyed : ∀ {c o code g}, L.effect c = .destroys o → L.codes c code → L.post c code g →
    g.content = 0

end Library

/-! ## Steps -/

/-- All routines, the objects of the wrapper and the calls of the library. -/
structure Wrapper (ι ω χ κ δ ρ α : Type) : Type 1 where
  routine : ι → Routine ω χ δ ρ α
  owner : ω → Option ι
  field : ω → ℕ
  made : ω → Bool
  /-- The call of the library that the routine has begun. -/
  call : ι → Option χ
  pool : Pool ι κ δ ρ

/-- A step of a routine, or of the call that it makes. -/
inductive Act (ι κ δ ρ : Type) where
  | own (i : ι)
  | native (l : Label ι κ δ ρ)

def Act.native? : Act ι κ δ ρ → Option (Label ι κ δ ρ)
  | .own _ => none
  | .native l => some l

namespace Wrapper

/-- The calls that the routines have begun; the others have none yet. -/
def calls [Inhabited χ] (L : Library ω χ κ δ ρ) (w : Wrapper ι ω χ κ δ ρ α) :
    Calls ι κ δ ρ where
  program i := L.program ((w.call i).getD default)
  slot i := L.slot ((w.call i).getD default)

def posts [Inhabited χ] (L : Library ω χ κ δ ρ) (w : Wrapper ι ω χ κ δ ρ α) (i : ι) :
    ρ → Ghost κ → Prop :=
  L.post ((w.call i).getD default)

variable [DecidableEq ι] [DecidableEq ω] [DecidableEq κ]

def goto (w : Wrapper ι ω χ κ δ ρ α) (i : ι) (routine : Routine ω χ δ ρ α) :
    Wrapper ι ω χ κ δ ρ α :=
  { w with routine := Function.update w.routine i routine }

/-- A lock waits until it is free; a call of the library takes its steps between all others. -/
inductive Step (L : Library ω χ κ δ ρ) :
    Wrapper ι ω χ κ δ ρ α → Act ι κ δ ρ → Wrapper ι ω χ κ δ ρ α → Prop where
  | refer {w i o next} (hi : w.routine i = .refer o next) (hmade : w.made o = true) :
      Step L w (.own i) (w.goto i next)
  | lock {w i o next} (hi : w.routine i = .lock o next) (hfree : w.owner o = none) :
      Step L w (.own i) { w.goto i next with owner := Function.update w.owner o (some i) }
  | unlock {w i o next} (hi : w.routine i = .unlock o next) (howner : w.owner o = some i) :
      Step L w (.own i) { w.goto i next with owner := Function.update w.owner o none }
  | get {w i o next} (hi : w.routine i = .get o next) :
      Step L w (.own i) (w.goto i (next (w.field o)))
  | clear {w i o next} (hi : w.routine i = .clear o next) :
      Step L w (.own i) { w.goto i next with field := Function.update w.field o 0 }
  | fetch {w i o next} (hi : w.routine i = .fetch o next) :
      Step L w (.own i) (w.goto i (next (w.pool.shared.slots (L.place o))))
  | make {w i o address next} (hi : w.routine i = .make o address next) :
      Step L w (.own i)
        { w.goto i next with
          field := Function.update w.field o address
          made := Function.update w.made o true }
  | look {w i} {β : Type} {view : δ → β} {next} (hi : w.routine i = .look view next) :
      Step L w (.own i) (w.goto i (next (view w.pool.shared.data)))
  | enter {w i c next} (hi : w.routine i = .call c next) (hpending : w.pool.status i = .pending) :
      Step L w (.native ⟨i, .started, w.pool.shared, w.pool.shared⟩)
        { w with
          call := Function.update w.call i (some c)
          pool := w.pool.set i (.running ⟨L.program c, [], .none⟩) w.pool.shared }
  | native {w i r e r' s'} (hrunning : w.pool.status i = .running r)
      (hmove : Moves r w.pool.shared e r' s') :
      Step L w (.native ⟨i, e, w.pool.shared, s'⟩)
        { w with pool := w.pool.set i (.running r') s' }
  | leave {w i c next program claim code} (hi : w.routine i = .call c next)
      (hrunning : w.pool.status i = .running ⟨program, [], claim⟩)
      (hcode : program.code = some code) :
      Step L w (.native ⟨i, .returned code, w.pool.shared, w.pool.shared⟩)
        { w.goto i (next code) with pool := w.pool.set i (.returned code) w.pool.shared }

end Wrapper

end AuraOpaque.Foundation
