import Ambience.Host
import Ambience.Scalar

/-!
# A terminal as a host

A terminal has room for one frame and one subscription. Its view is measured in cells of eight by
sixteen logical pixels.
-/

namespace Ambience

/-- The state of a terminal as a host. -/
structure TerminalHost where
  cols : Nat
  rows : Nat
  /-- The number of the last handle. -/
  issued : Nat
  pending : Option FrameHandle
  listener : Option ListenerHandle
  /-- What seeds are made from when none is given. -/
  entropy : UInt64
  deriving DecidableEq, Repr

namespace TerminalHost

/-- A terminal that nothing was asked of. -/
def opened (cols rows : Nat) (entropy : UInt64) : TerminalHost where
  cols
  rows
  issued := 0
  pending := none
  listener := none
  entropy

/-- The extent of a view of terminal cells in logical pixels. -/
def logicalSize {α : Type} [Scalar α] (cols rows : Nat) : α × α :=
  (Scalar.ofNat cols * 8.0, Scalar.ofNat rows * 16.0)

/-- A new request takes the room of the last one. -/
def requestFrame (host : TerminalHost) : FrameHandle × TerminalHost :=
  let handle : FrameHandle := ⟨host.issued + 1⟩
  (handle, { host with issued := host.issued + 1, pending := some handle })

/-- Only the current request can be taken back. -/
def cancelFrame (handle : FrameHandle) (host : TerminalHost) : TerminalHost :=
  if host.pending = some handle then { host with pending := none } else host

/-- A new subscription takes the room of the last one. -/
def listenResize (host : TerminalHost) : ListenerHandle × TerminalHost :=
  let handle : ListenerHandle := ⟨host.issued + 1⟩
  (handle, { host with issued := host.issued + 1, listener := some handle })

/-- Only the current subscription can be ended. -/
def unlistenResize (handle : ListenerHandle) (host : TerminalHost) : TerminalHost :=
  if host.listener = some handle then { host with listener := none } else host

/-- The current entropy, which then moves on. -/
def freshSeed (host : TerminalHost) : UInt64 × TerminalHost :=
  (host.entropy, { host with entropy := host.entropy * 6364136223846793005 + 1442695040888963407 })

instance : Host TerminalHost where
  requestFrame := requestFrame
  cancelFrame := cancelFrame
  listenResize := listenResize
  unlistenResize := unlistenResize
  freshSeed := freshSeed

instance {α : Type} [Scalar α] : Viewport TerminalHost α where
  viewport host := logicalSize host.cols host.rows

end TerminalHost

end Ambience
