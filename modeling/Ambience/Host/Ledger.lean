import Ambience.Host

/-!
# A host that keeps books

Remembers what was asked of it. Frames and subscriptions are numbered by one count, so no two
handles have the same number.
-/

namespace Ambience

/-- The books of a host. -/
structure HostLedger (α : Type) where
  width : α
  height : α
  /-- The number of the last handle. -/
  issued : Nat
  /-- How many frames were asked for. -/
  requested : Nat
  /-- The last request that was neither delivered nor taken back. -/
  pending : Option FrameHandle
  /-- The requests taken back, in order. -/
  cancelled : List FrameHandle
  /-- The subscriptions that run, in order. -/
  listeners : List ListenerHandle

namespace HostLedger

variable {α : Type}

/-- The books of a host that nothing was asked of. -/
def opened (width height : α) : HostLedger α where
  width
  height
  issued := 0
  requested := 0
  pending := none
  cancelled := []
  listeners := []

/-- Books a request for a frame. -/
def requestFrame (ledger : HostLedger α) : FrameHandle × HostLedger α :=
  let handle : FrameHandle := ⟨ledger.issued + 1⟩
  (handle, { ledger with
    issued := ledger.issued + 1, requested := ledger.requested + 1, pending := some handle })

/-- Books that a request was taken back. -/
def cancelFrame (handle : FrameHandle) (ledger : HostLedger α) : HostLedger α :=
  { ledger with
    cancelled := ledger.cancelled ++ [handle]
    pending := if ledger.pending = some handle then none else ledger.pending }

/-- Books a subscription. -/
def listenResize (ledger : HostLedger α) : ListenerHandle × HostLedger α :=
  let handle : ListenerHandle := ⟨ledger.issued + 1⟩
  (handle, { ledger with
    issued := ledger.issued + 1, listeners := ledger.listeners ++ [handle] })

/-- Books the end of a subscription. -/
def unlistenResize (handle : ListenerHandle) (ledger : HostLedger α) : HostLedger α :=
  { ledger with listeners := ledger.listeners.filter fun listener => listener != handle }

instance : Host (HostLedger α) where
  requestFrame := requestFrame
  cancelFrame := cancelFrame
  listenResize := listenResize
  unlistenResize := unlistenResize
  freshSeed ledger := (0, ledger)

instance : Viewport (HostLedger α) α where
  viewport ledger := (ledger.width, ledger.height)

end HostLedger

end Ambience
