import AuraOpaque.Core.Types

/-!
# Randomness, time and the frame of a call

A call sees the bytes the system generator will hand out and the readings the
monotonic clock will give.  A protocol operation works on a frame: the message
it fills, the session state it updates, and the world.
-/

namespace AuraOpaque.Core

open AuraOpaque.Foundation

structure World where
  /-- The bytes still to be drawn. -/
  tape : ℕ → UInt8
  /-- The clock readings still to come, in nanoseconds. -/
  clock : ℕ → ℕ

namespace World

def window (tape : ℕ → UInt8) (n : ℕ) : Bytes n := List.Vector.ofFn fun i => tape i

/-- The world after `n` bytes have been drawn. -/
def advance (w : World) (n : ℕ) : World := { w with tape := fun i => w.tape (i + n) }

def tick (w : World) : World := { w with clock := fun i => w.clock (i + 1) }

/-- `rng.fill_bytes` on a buffer of `n` bytes. -/
def draw (n : ℕ) : Cmd OpaqueError World (Bytes n) where
  run w := (.ok (window w.tape n), w.advance n)

/-- `Instant::now()`. -/
def now : Cmd OpaqueError World ℕ where
  run w := (.ok (w.clock 0), w.tick)

@[simp] theorem run_draw (n : ℕ) (w : World) :
    (draw n).run w = (.ok (window w.tape n), w.advance n) := rfl

@[simp] theorem run_now (w : World) : now.run w = (.ok (w.clock 0), w.tick) := rfl

@[simp] theorem advance_clock (w : World) (n : ℕ) : (w.advance n).clock = w.clock := rfl

@[simp] theorem advance_tape (w : World) (n : ℕ) :
    (w.advance n).tape = fun i => w.tape (i + n) := rfl

theorem advance_advance (w : World) (m n : ℕ) :
    (w.advance m).advance n = w.advance (n + m) := by
  simp [advance, Nat.add_assoc]

@[simp] theorem tick_tape (w : World) : w.tick.tape = w.tape := rfl

@[simp] theorem tick_clock (w : World) : w.tick.clock = fun i => w.clock (i + 1) := rfl

end World

/-- At or past the limit, or read before the deadline was set. -/
def lifetimeOver (createdAt reading : ℕ) : Bool :=
  if createdAt ≤ reading then decide (stateMaxLifetimeSecs ≤ (reading - createdAt) / 10 ^ 9)
  else true

/-- What a protocol operation reads and writes. -/
structure Frame (Out St : Type) where
  out : Out
  state : St
  world : World

abbrev Op (Out St α : Type) := Cmd OpaqueError (Frame Out St) α

namespace Op

variable {Out St α : Type}

def getState : Op Out St St := ⟨fun f => (.ok f.state, f)⟩

def getOut : Op Out St Out := ⟨fun f => (.ok f.out, f)⟩

def modifyState (g : St → St) : Op Out St Unit :=
  Cmd.modify fun f => { f with state := g f.state }

def modifyOut (g : Out → Out) : Op Out St Unit :=
  Cmd.modify fun f => { f with out := g f.out }

/-- A step that uses the generator or the clock only. -/
def onWorld (c : Cmd OpaqueError World α) : Op Out St α :=
  Cmd.zoom Frame.world (fun w f => { f with world := w }) c

@[simp] theorem run_getState (f : Frame Out St) :
    (getState : Op Out St St).run f = (.ok f.state, f) := rfl

@[simp] theorem run_getOut (f : Frame Out St) :
    (getOut : Op Out St Out).run f = (.ok f.out, f) := rfl

@[simp] theorem run_modifyState (g : St → St) (f : Frame Out St) :
    (modifyState g : Op Out St Unit).run f = (.ok (), { f with state := g f.state }) := rfl

@[simp] theorem run_modifyOut (g : Out → Out) (f : Frame Out St) :
    (modifyOut g : Op Out St Unit).run f = (.ok (), { f with out := g f.out }) := rfl

@[simp] theorem run_onWorld (c : Cmd OpaqueError World α) (f : Frame Out St) :
    (onWorld c : Op Out St α).run f =
      ((c.run f.world).1, { f with world := (c.run f.world).2 }) := rfl

/-- An operation on its own output and session, called by a program that goes on with both. -/
def call (out : Out) (state : St) (c : Op Out St Unit) : Cmd OpaqueError World (Out × St) where
  run w :=
    match c.run ⟨out, state, w⟩ with
    | (.ok _, f) => (.ok (f.out, f.state), f.world)
    | (.err e, f) => (.err e, f.world)
    | (.panic, f) => (.panic, f.world)

theorem call_run {out : Out} {state : St} {c : Op Out St Unit} {w : World} {f : Frame Out St}
    (h : c.run ⟨out, state, w⟩ = (.ok (), f)) :
    (call out state c).run w = (.ok (f.out, f.state), f.world) := by
  rw [call]
  simp only [h]

theorem call_eq_ok_iff {out : Out} {state : St} {c : Op Out St Unit} {w w' : World}
    {r : Out × St} : (call out state c).run w = (.ok r, w') ↔
      c.run ⟨out, state, w⟩ = (.ok (), ⟨r.1, r.2, w'⟩) := by
  obtain ⟨o, s⟩ := r
  rcases hc : c.run ⟨out, state, w⟩ with ⟨_ | _ | _, f⟩ <;> simp only [call, hc]
  · constructor
    · intro h
      cases h
      rfl
    · intro h
      cases h
      rfl
  · simp
  · simp

end Op

end AuraOpaque.Core
