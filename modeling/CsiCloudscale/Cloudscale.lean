/-
  The cloudscale.ch side of the controller: the volumes API it calls, and its calls as a program.

  The controller keeps no state of its own.  Everything it does to the world it does through
  `d.cloudscaleClient.Volumes`, whose five calls (`List`, `Get`, `Create`, `Update`, `Delete`)
  are synchronous.  A controller operation is therefore modelled as a `Client` program: a finite
  tree whose nodes are the calls the Go code makes and whose branches are what the Go code does
  after each call returns.  What a call answers is not part of the program: a `Handler` decides
  it, and `Fake.lean` gives the in-memory fake of `driver_test.go` as one.

  One program per operation then serves every semantics of this development: `Client.run` makes the
  calls one after another against a handler; `Faults.lean` runs it with injected call failures;
  `Race.lean` interleaves several programs at their call boundaries.  `Handler.logged` records
  the calls a run makes, for statements about which calls an operation issues.
-/
import Mathlib.Algebra.Order.Ring.Int
import CsiCloudscale.Int64

namespace CsiCloudscale

namespace Cloudscale

/-- `cloudscale.Volume`, with the fields the controller and the fake read or write. -/
structure Volume where
  uuid : String
  name : String
  sizeGB : Int64
  type : String
  serverUUIDs : List String
  deriving DecidableEq, Repr

/-- `cloudscale.VolumeRequest`, the body of a create or an update call.  The defaults are Go's
    zero values; `serverUUIDs` is the `*[]string` field, `none` for a nil pointer. -/
structure VolumeRequest where
  name : String := ""
  sizeGB : Int64 := 0
  type : String := ""
  zone : String := ""
  serverUUIDs : Option (List String) := none
  deriving DecidableEq, Repr

/-- An error a call returns: a `*cloudscale.ErrorResponse` with its HTTP status, or any other
    error value.  `message` is the text `Error()` renders. -/
inductive Error
  | response (statusCode : Nat) (message : String)
  | other (message : String)
  deriving DecidableEq, Repr

/-- `err.Error()`. -/
def Error.text : Error → String
  | .response _ m => m
  | .other m => m

/-- The test `err.(*cloudscale.ErrorResponse)` with `StatusCode == http.StatusNotFound`. -/
def Error.isNotFound : Error → Bool
  | .response 404 _ => true
  | _ => false

/-- A call of `d.cloudscaleClient.Volumes`.  `list none` is `List(ctx)`, `list (some n)` is
    `List(ctx, cloudscale.WithNameFilter(n))`. -/
inductive Call
  | list (nameFilter : Option String)
  | get (volumeID : String)
  | create (req : VolumeRequest)
  | update (volumeID : String) (req : VolumeRequest)
  | delete (volumeID : String)
  deriving DecidableEq, Repr

/-- What a call returns when it succeeds. -/
def Call.Reply : Call → Type
  | .list _ => List Volume
  | .get _ => Volume
  | .create _ => Volume
  | .update _ _ => Unit
  | .delete _ => Unit

/-- The calls that change the store. -/
def Call.mutates : Call → Bool
  | .create _ | .update _ _ | .delete _ => true
  | _ => false

end Cloudscale

open Cloudscale

/-- A program that talks to the volumes API: `pure a` has finished with `a`; `call c k` makes the
    call `c` and goes on with `k` applied to what it returned. -/
inductive Client (α : Type) where
  | pure (a : α)
  | call (c : Call) (k : Except Cloudscale.Error c.Reply → Client α)

namespace Client

variable {α β γ σ : Type}

/-- Sequencing: run `x`, then `f` on its result. -/
def bind : Client α → (α → Client β) → Client β
  | .pure a, f => f a
  | .call c k, f => .call c fun r => (k r).bind f

instance : Monad Client where
  pure := .pure
  bind := bind

@[simp] theorem pure_eq (a : α) : (Pure.pure a : Client α) = .pure a := rfl
@[simp] theorem bind_eq (x : Client α) (f : α → Client β) : x >>= f = x.bind f := rfl
@[simp] theorem pure_bind (a : α) (f : α → Client β) : (Client.pure a).bind f = f a := rfl
@[simp] theorem call_bind (c : Call) (k : Except Cloudscale.Error c.Reply → Client α)
    (f : α → Client β) : (Client.call c k).bind f = .call c fun r => (k r).bind f := rfl

theorem bind_pure (x : Client α) : x.bind .pure = x := by
  induction x with
  | pure a => rfl
  | call c k ih => simp only [call_bind, ih]

theorem bind_assoc (x : Client α) (f : α → Client β) (g : β → Client γ) :
    (x.bind f).bind g = x.bind fun a => (f a).bind g := by
  induction x with
  | pure a => rfl
  | call c k ih => simp only [call_bind, ih]

instance : LawfulMonad Client :=
  LawfulMonad.mk' Client (fun x => bind_pure x) (fun _ _ => rfl) bind_assoc

/-- Make one call and return its result, error included. -/
def send (c : Call) : Client (Except Cloudscale.Error c.Reply) := .call c .pure

end Client

/-- A backend: what each call answers and how it changes the backend's state; `none` when the
    backend crashes (a Go `panic`). -/
abbrev Handler (σ : Type) := (c : Call) → σ → Option (Except Cloudscale.Error c.Reply × σ)

namespace Client

variable {α β σ : Type}

/-- Run a program against a handler, one call after another. -/
def run (h : Handler σ) : Client α → σ → Option (α × σ)
  | .pure a, s => some (a, s)
  | .call c k, s => (h c s).bind fun (r, s') => (k r).run h s'

@[simp] theorem run_pure (h : Handler σ) (a : α) (s : σ) : (Client.pure a).run h s = some (a, s) :=
  rfl

@[simp] theorem run_call (h : Handler σ) (c : Call) (k : Except Cloudscale.Error c.Reply → Client α)
    (s : σ) : (Client.call c k).run h s = (h c s).bind fun (r, s') => (k r).run h s' :=
  rfl

theorem run_bind (h : Handler σ) (x : Client α) (f : α → Client β) (s : σ) :
    (x.bind f).run h s = (x.run h s).bind fun (a, s') => (f a).run h s' := by
  induction x generalizing s with
  | pure a => rfl
  | call c k ih =>
    simp only [call_bind, run_call, ih]
    cases h c s <;> rfl

end Client

/-- The handler `h`, recording every call it answers. -/
def Handler.logged {σ : Type} (h : Handler σ) : Handler (σ × List Call) :=
  fun c (s, log) => (h c s).map fun (r, s') => (r, (s', log ++ [c]))

end CsiCloudscale
