/-
  The CSI side of the controller: the requests and responses of the RPCs `controller.go`
  implements, the gRPC status codes it answers with, and the texts of its errors.

  Only the fields the controller reads or writes are kept.
  A protobuf `map<string, string>` is a `Dict`, read with Go's map semantics: an absent key
  reads as `""`.  A repeated field is a `List`; protobuf decodes an empty one as Go's `nil`, so
  on a request `len(x) == 0` and `x == nil` are the same test.  An optional message is an
  `Option`.

  An error text is kept as the source writes it, a Go format string and the values it formats
  (`Message`): the formatted values are rendered by Go's `fmt`, of which only `formatBytes` is
  modelled (`Format.lean`).  Which status code an error carries, and which format, is modelled
  exactly.
-/
import Mathlib.Algebra.Order.Ring.Int
import CsiCloudscale.Int64
import CsiCloudscale.Cloudscale

namespace CsiCloudscale

/-- A protobuf `map<string, string>`. -/
abbrev Dict := List (String × String)

namespace Dict

/-- Go's `m[k]`: the value at `k`, `""` when `k` is absent. -/
def get (m : Dict) (k : String) : String := (m.lookup k).getD ""

/-- Go's `m[k] = v`. -/
def set (m : Dict) (k v : String) : Dict := (k, v) :: m.filter (·.1 != k)

@[simp] theorem get_cons_self (k v : String) (m : Dict) : get ((k, v) :: m) k = v := by
  simp [get]

@[simp] theorem get_cons_ne {k k' : String} (v : String) (m : Dict) (h : k' ≠ k) :
    get ((k, v) :: m) k' = get m k' := by
  simp only [get, List.lookup_cons, beq_eq_false_iff_ne.mpr h]

@[simp] theorem get_nil (k : String) : get [] k = "" := rfl

theorem get_filter_ne {k k' : String} (m : Dict) (h : k' ≠ k) :
    get (m.filter (·.1 != k)) k' = get m k' := by
  induction m with
  | nil => rfl
  | cons p m ih =>
    obtain ⟨a, b⟩ := p
    by_cases ha : a = k
    · subst ha
      simp only [List.filter_cons, bne_self_eq_false, Bool.false_eq_true, ite_false, ih,
        get_cons_ne _ _ h]
    · simp only [List.filter_cons, bne_iff_ne, ne_eq, ha, not_false_eq_true, ite_true]
      by_cases hk : k' = a
      · subst hk; simp only [get_cons_self]
      · rw [get_cons_ne _ _ hk, get_cons_ne _ _ hk, ih]

@[simp] theorem get_set_self (m : Dict) (k v : String) : get (set m k v) k = v :=
  get_cons_self k v _

@[simp] theorem get_set_ne (m : Dict) {k k' : String} (v : String) (h : k' ≠ k) :
    get (set m k v) k' = get m k' := by
  rw [set, get_cons_ne _ _ h, get_filter_ne _ h]

end Dict

namespace Csi

/-- `csi.VolumeCapability_AccessMode_Mode`. -/
inductive AccessMode
  | unknown
  | singleNodeWriter
  | singleNodeReaderOnly
  | multiNodeReaderOnly
  | multiNodeSingleWriter
  | multiNodeMultiWriter
  deriving DecidableEq, Repr

/-- The enum's `String()`: the value's name in the CSI protobuf. -/
def AccessMode.toString : AccessMode → String
  | .unknown => "UNKNOWN"
  | .singleNodeWriter => "SINGLE_NODE_WRITER"
  | .singleNodeReaderOnly => "SINGLE_NODE_READER_ONLY"
  | .multiNodeReaderOnly => "MULTI_NODE_READER_ONLY"
  | .multiNodeSingleWriter => "MULTI_NODE_SINGLE_WRITER"
  | .multiNodeMultiWriter => "MULTI_NODE_MULTI_WRITER"

/-- The `access_type` oneof of a capability. -/
inductive AccessType
  | block
  | mount
  deriving DecidableEq, Repr

/-- `csi.VolumeCapability`.  `accessMode` is what `GetAccessMode().GetMode()` reads (`UNKNOWN`
    when no access mode is set); `accessType` is `none` when the oneof is not set. -/
structure VolumeCapability where
  accessMode : AccessMode
  accessType : Option AccessType
  deriving DecidableEq, Repr

/-- `csi.CapacityRange`; a value `≤ 0` means the bound is not set. -/
structure CapacityRange where
  requiredBytes : Int64
  limitBytes : Int64
  deriving DecidableEq, Repr

/-- `csi.Topology`. -/
structure Topology where
  segments : Dict
  deriving DecidableEq, Repr

/-- `csi.TopologyRequirement` (the controller reads only `Requisite`). -/
structure TopologyRequirement where
  requisite : List Topology
  deriving DecidableEq, Repr

structure CreateVolumeRequest where
  name : String
  capacityRange : Option CapacityRange
  volumeCapabilities : List VolumeCapability
  parameters : Dict
  accessibilityRequirements : Option TopologyRequirement
  deriving DecidableEq, Repr

structure DeleteVolumeRequest where
  volumeId : String
  deriving DecidableEq, Repr

structure ControllerPublishVolumeRequest where
  volumeId : String
  nodeId : String
  volumeCapability : Option VolumeCapability
  readonly : Bool
  volumeContext : Dict
  deriving DecidableEq, Repr

structure ControllerUnpublishVolumeRequest where
  volumeId : String
  nodeId : String
  deriving DecidableEq, Repr

structure ValidateVolumeCapabilitiesRequest where
  volumeId : String
  volumeCapabilities : List VolumeCapability
  deriving DecidableEq, Repr

structure ListVolumesRequest where
  startingToken : String
  deriving DecidableEq, Repr

structure ControllerExpandVolumeRequest where
  volumeId : String
  capacityRange : Option CapacityRange
  volumeCapability : Option VolumeCapability
  deriving DecidableEq, Repr

/-- `csi.Volume`, as a create response and a list entry carry it. -/
structure Volume where
  volumeId : String
  capacityBytes : Int64
  volumeContext : Dict
  accessibleTopology : List Topology
  deriving DecidableEq, Repr

structure CreateVolumeResponse where
  volume : Volume
  deriving DecidableEq, Repr

structure ControllerPublishVolumeResponse where
  publishContext : Dict
  deriving DecidableEq, Repr

/-- `confirmed` is `Confirmed.VolumeCapabilities`, `none` when `Confirmed` is nil. -/
structure ValidateVolumeCapabilitiesResponse where
  confirmed : Option (List VolumeCapability)
  deriving DecidableEq, Repr

structure ListVolumesResponse where
  entries : List Volume
  deriving DecidableEq, Repr

structure ControllerExpandVolumeResponse where
  capacityBytes : Int64
  nodeExpansionRequired : Bool
  deriving DecidableEq, Repr

/-- `csi.ControllerServiceCapability_RPC_Type`, the values the controller advertises. -/
inductive RpcType
  | createDeleteVolume
  | publishUnpublishVolume
  | listVolumes
  | expandVolume
  deriving DecidableEq, Repr

/-! ## Errors -/

/-- `codes.Code`, the status codes the controller answers with. -/
inductive Code
  | invalidArgument
  | notFound
  | alreadyExists
  | resourceExhausted
  | aborted
  | outOfRange
  | unimplemented
  | internal
  deriving DecidableEq, Repr

/-- The three errors `calculateStorageGB` returns, with the values their texts format. -/
inductive CapacityError
  | limitBelowRequired (limit required : Int64)
  | limitBelowMinimum (limit : Int64) (storageType : String) (minimum : Int64)
  | limitBelowRounded (required limit rounded : Int64) (storageType : String)
  deriving DecidableEq, Repr

/-- A value a format verb renders: a string (`%s`, `%q`, `%v`), an integer (`%d`),
    `formatBytes(n)`, or a `calculateStorageGB` error (`%v`). -/
inductive Arg
  | str (s : String)
  | int (n : Int)
  | bytes (n : Int64)
  | capacity (e : CapacityError)
  deriving DecidableEq, Repr

/-- An error text: a Go format string and the values it formats; a constant text has none. -/
structure Message where
  format : String
  args : List Arg := []
  deriving DecidableEq, Repr

/-- The text of each `calculateStorageGB` error. -/
def CapacityError.message : CapacityError → Message
  | .limitBelowRequired l r =>
    ⟨"limit (%v) can not be less than required (%v) size", [.bytes l, .bytes r]⟩
  | .limitBelowMinimum l t m =>
    ⟨"limit (%v) can not be less than minimum supported volume size for type '%s' (%v)",
      [.bytes l, .str t, .bytes m]⟩
  | .limitBelowRounded r l n t =>
    ⟨"for required (%v) limit (%v) must be at least %v for type '%s'",
      [.bytes r, .bytes l, .bytes n, .str t]⟩

/-- An error an RPC returns: a gRPC status (`status.Error`, `status.Errorf`), a plain
    `fmt.Errorf` error, or a client error passed on unchanged (both reach the caller with code
    `Unknown`). -/
inductive Error
  | status (code : Code) (msg : Message)
  | plain (msg : Message)
  | backend (e : Cloudscale.Error)
  deriving DecidableEq, Repr

/-- The status code of an error; `none` for the two that gRPC reports as `Unknown`. -/
def Error.code : Error → Option Code
  | .status c _ => some c
  | _ => none

end Csi

/-- A controller RPC: a program against the volumes API that ends in a response or an error. -/
abbrev Rpc := ExceptT Csi.Error Client

namespace Rpc

variable {α β σ : Type}

/-- Make one call from an RPC, and get its result, error included. -/
def send (c : Cloudscale.Call) : Rpc (Except Cloudscale.Error c.Reply) :=
  ExceptT.lift (Client.send c)

/-- Run an RPC against a backend: its answer and the backend's state after it, `none` when the
    backend crashes. -/
def exec (h : Handler σ) (x : Rpc α) (s : σ) : Option (Except Csi.Error α × σ) :=
  x.run.run h s

@[simp] theorem exec_pure (h : Handler σ) (a : α) (s : σ) :
    exec h (pure a : Rpc α) s = some (.ok a, s) := rfl

@[simp] theorem exec_throw (h : Handler σ) (e : Csi.Error) (s : σ) :
    exec h (throw e : Rpc α) s = some (.error e, s) := rfl

@[simp] theorem exec_throw_bind (h : Handler σ) (e : Csi.Error) (f : α → Rpc β) (s : σ) :
    exec h (throw e >>= f) s = some (.error e, s) := rfl

theorem exec_bind (h : Handler σ) (x : Rpc α) (f : α → Rpc β) (s : σ) :
    exec h (x >>= f) s = (exec h x s).bind fun (r, s') =>
      match r with
      | .ok a => exec h (f a) s'
      | .error e => some (.error e, s') := by
  simp only [exec, ExceptT.run_bind, Client.bind_eq, Client.run_bind]
  congr 1; funext ⟨r, s'⟩; cases r <;> rfl

@[simp] theorem exec_send (h : Handler σ) (c : Cloudscale.Call) (s : σ) :
    exec h (send c) s = (h c s).map fun (r, s') => (.ok r, s') := by
  simp only [exec, send, ExceptT.run_lift, Client.send, map_eq_pure_bind, Client.bind_eq,
    Client.call_bind, Client.run_call, Client.pure_bind, Client.pure_eq, Client.run_pure]
  cases h c s <;> rfl

@[simp] theorem exec_send_bind (h : Handler σ) (c : Cloudscale.Call)
    (f : Except Cloudscale.Error c.Reply → Rpc β) (s : σ) :
    exec h (send c >>= f) s = (h c s).bind fun (r, s') => exec h (f r) s' := by
  simp only [exec, send, ExceptT.run_bind, ExceptT.run_lift, Client.send, map_eq_pure_bind,
    Client.bind_eq, Client.call_bind, Client.run_call, Client.pure_bind, Client.pure_eq,
    Client.run_bind]

end Rpc

end CsiCloudscale
