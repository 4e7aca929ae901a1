/-!
# Hosts

A host is what a player lives in: it has a view, hands out frames and tells of resizes. Handles
name what was asked for, so that late deliveries can be told from current ones.
-/

namespace Ambience

/-- Names one requested frame. -/
structure FrameHandle where
  number : Nat
  deriving DecidableEq, Repr

/-- Names one subscription to resizes. -/
structure ListenerHandle where
  number : Nat
  deriving DecidableEq, Repr

/-- What a player asks of its surroundings. -/
class Host (H : Type) where
  /-- Asks for one frame. -/
  requestFrame : H → FrameHandle × H
  /-- Takes back a request for a frame. -/
  cancelFrame : FrameHandle → H → H
  /-- Asks to be told of resizes. -/
  listenResize : H → ListenerHandle × H
  /-- Ends a subscription to resizes. -/
  unlistenResize : ListenerHandle → H → H
  /-- A seed for an animation that was given none. -/
  freshSeed : H → UInt64 × H

/-- A host whose view has an extent in logical pixels. -/
class Viewport (H α : Type) where
  /-- The width and height of the view now. -/
  viewport : H → α × α

end Ambience
