import AuraOpaque.Foundation.Handles
import AuraOpaque.Agent.Authentication
import AuraOpaque.Agent.Registration
import AuraOpaque.Relay.Authentication
import AuraOpaque.Relay.Registration
import Mathlib.Data.List.Range

/-!
# The C interface

What both sides of the interface share: addresses and the callers' buffers, the
objects behind the handles, return codes, the admission of a call to a handle,
and the commitment of a result.  An address is a number below 2^64, zero is the
null pointer, and a non-null pointer designates what its type says.
-/

namespace AuraOpaque.Ffi

open AuraOpaque.Foundation AuraOpaque.Core
open Agent (InitiatorState OpaqueInitiator)
open Relay (OpaqueResponder ResponderKeyPair ResponderState)

/-! ## Addresses and buffers -/

abbrev null : ℕ := 0

def addressSpace : ℕ := 2 ^ 64

/-- `address.checked_add(length)`. -/
def checkedAdd (address length : ℕ) : Option ℕ :=
  if address + length < addressSpace then some (address + length) else none

def rangesOverlap (left leftLen right rightLen : ℕ) : Bool :=
  if leftLen = 0 ∨ rightLen = 0 then false
  else
    match checkedAdd left leftLen, checkedAdd right rightLen with
    | none, _ => true
    | some _, none => true
    | some leftEnd, some rightEnd => decide (left < rightEnd) && decide (right < leftEnd)

/-- `size_of::<*mut c_void>()`. -/
def pointerSize : ℕ := 8

abbrev Memory := ℕ → UInt8

namespace Memory

/-- `slice::from_raw_parts(address, length)`. -/
def read (m : Memory) (address length : ℕ) : List UInt8 :=
  (List.range length).map fun i => m (address + i)

/-- `ptr::copy_nonoverlapping` of some bytes to an address. -/
def write (m : Memory) (address : ℕ) (bytes : List UInt8) : Memory :=
  fun a => if address ≤ a then bytes.getD (a - address) (m a) else m a

end Memory

/-! ## Return codes -/

def ffiPanic : ℤ := -99
def ffiBusy : ℤ := -100
def ffiCorruptedRecord : ℤ := -101

def maxAccountIdLength : ℕ := 1024

inductive HandleAccessError where
  | invalidHandle
  | busy
  deriving DecidableEq

def handleAccessToInt : HandleAccessError → ℤ
  | .invalidHandle => OpaqueError.invalidInput.toCInt
  | .busy => ffiBusy

/-! ## The objects behind the handles -/

inductive Kind where
  | agent
  | agentState
  | relay
  | relayState
  | relayKeypair
  deriving DecidableEq

structure AgentStateHandle where
  state : InitiatorState
  ke3Exported : Bool

structure RelayKeypairHandle where
  keypair : ResponderKeyPair
  oprfSeed : Bytes oprfSeedLength

/-- Every object by its address, the buffers, and the world.  The flags are kept apart. -/
structure Store where
  agents : ℕ → OpaqueInitiator
  agentStates : ℕ → AgentStateHandle
  relays : ℕ → OpaqueResponder
  relayStates : ℕ → ResponderState
  relayKeypairs : ℕ → RelayKeypairHandle
  memory : Memory
  world : World

abbrev Process := Shared Kind Store

/-- A result of the library, with a return code for its error. -/
def withCode {α : Type} (code : OpaqueError → ℤ) : OpaqueResult α → Outcome ℤ α
  | .ok a => .ok a
  | .err e => .err (code e)
  | .panic => .panic

def onWorld {α : Type} (code : OpaqueError → ℤ) (c : Cmd OpaqueError World α) : Cmd ℤ Store α where
  run store := (withCode code (c.run store.world).1, { store with world := (c.run store.world).2 })

/-- `inject_test_panic`: the call panics here, or it does not. -/
def injectTestPanic (panics : Bool) : Cmd ℤ Store Unit :=
  if panics then ⟨fun store => (.panic, store)⟩ else pure ()

abbrev Entry := Program Kind Store ℤ

namespace Entry

/-- `if condition { return error.to_c_int() }`. -/
def rejectIf (condition : Prop) [Decidable condition] (error : OpaqueError) : Entry Unit :=
  Program.exitIf condition error.toCInt

/--
One step on the store.  The closure of every call runs under `catch_unwind`, so
a panic leaves like an early return, with a code of its own.
-/
def work {β : Type} (c : Cmd ℤ Store β) : Entry β :=
  .act (fun store =>
    match c.run store with
    | (.ok b, store') => (.ok b, store')
    | (.err code, store') => (.error code, store')
    | (.panic, store') => (.error ffiPanic, store')) .ret

end Entry

/-! ## Admission -/

/-- The compare-exchange on the flag of a handle, and its guard. -/
def acquire (kind : Kind) (handle : ℕ) : Entry Unit :=
  if handle = null then .exit (handleAccessToInt .invalidHandle)
  else .acquire ⟨kind, handle⟩ fun taken =>
    if taken then .ret () else .exit (handleAccessToInt .busy)

/-! ## Operations on a session behind a handle -/

section Operations

variable {H St Out : Type}

/-- A library operation on the session inside the handle, with a fresh output. -/
def onSession (read : H → St) (write : St → H → H) (out : Out) (c : Op Out St Unit) :
    Op Memory H Out where
  run f :=
    match c.run ⟨out, read f.state, f.world⟩ with
    | (.ok _, g) => (.ok g.out, { f with state := write g.state f.state, world := g.world })
    | (.err e, g) => (.err e, { f with state := write g.state f.state, world := g.world })
    | (.panic, g) => (.panic, { f with state := write g.state f.state, world := g.world })

/-- Where a panic strikes, and what it leaves of the session and of the world. -/
abbrev Strike (H : Type) := Option (H × World)

/--
The part of an operation before its commit.  A panic can strike anywhere in it,
and anything may then be left of the session; no buffer has been written yet.
-/
def beforeCommit {α : Type} (strike : Strike H) (c : Op Memory H α) : Op Memory H α :=
  match strike with
  | none => c
  | some (state, world) => ⟨fun f => (.panic, { f with state, world })⟩

def copyNonoverlapping (bytes : List UInt8) (address : ℕ) : Op Memory H Unit :=
  Op.modifyOut fun m => m.write address bytes

/-- The session is invalidated on an error and on a panic. -/
def runStateful (invalidate : H → H) (operation : Op Memory H Unit) (f : Frame Memory H) :
    ℤ × Frame Memory H :=
  match operation.run f with
  | (.ok _, f') => (0, f')
  | (.err e, f') => (e.toCInt, { f' with state := invalidate f'.state })
  | (.panic, f') => (ffiPanic, { f' with state := invalidate f'.state })

end Operations

end AuraOpaque.Ffi
