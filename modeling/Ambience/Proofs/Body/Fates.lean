import Ambience.Body
import Ambience.Proofs.Runs

/-!
# When a body is gone

A body is gone once it is outside the view by the margin of its kind, has no life left or has grown
to its full size. A step asks this of what it leaves of the body and of nothing else. Beside what a
body keeps from birth, only its position, its life and its radius have a part in that.
-/

namespace Ambience

variable {α σ : Type}

/-- The nominal frames that a body has left, for the kinds with a limited life. -/
def Body.life? : Body α → Option α
  | ember e => some e.life
  | grain g => some g.life
  | _ => none

/-- The radius of a body, for the kinds that have one. -/
def Body.radius? : Body α → Option α
  | firefly f => some f.radius
  | ripple r => some r.radius
  | stone s => some s.radius
  | glow g => some g.radius
  | _ => none

variable [Scalar α]

/-- Whether a body is gone from a view. -/
def Body.isGone (bounds : Bounds α) : Body α → Bool
  | flake f => decide (bounds.height + Flake.margin < f.y) ||
      Motion.isOutside f.x f.y bounds.width bounds.height (Flake.margin * 4.0)
  | petal t => Motion.isOutside t.x t.y bounds.width bounds.height Tumbler.margin
  | leaf t => Motion.isOutside t.x t.y bounds.width bounds.height Tumbler.margin
  | firefly f => Motion.isOutside f.x f.y bounds.width bounds.height Firefly.margin
  | star s => decide (bounds.width + Star.margin < s.x)
  | koi k => Motion.isOutside k.x k.y bounds.width bounds.height (k.length * 2.0)
  | ripple r => decide (r.maxRadius ≤ r.radius)
  | ember e => decide (e.life ≤ 0.0) ||
      Motion.isOutside e.x e.y bounds.width bounds.height Mote.emberMargin
  | grain g => decide (g.life ≤ 0.0) ||
      Motion.isOutside g.x g.y bounds.width bounds.height Mote.grainMargin
  | stone _ => false
  | rake _ => false
  | glow _ => false
  | stalk _ => false
  | ridge _ => false
  | cactus _ => false

theorem Fate.expiredIf_eq_alive_iff {condition : Bool} :
    expiredIf condition = .alive ↔ condition = false := by
  cases condition with
  | false => exact ⟨fun _ => rfl, fun _ => rfl⟩
  | true => exact ⟨nofun, nofun⟩

theorem Fate.expiredIf_eq_expired_iff {condition : Bool} :
    expiredIf condition = .expired ↔ condition = true := by
  cases condition with
  | false => exact ⟨nofun, nofun⟩
  | true => exact ⟨fun _ => rfl, fun _ => rfl⟩

variable [Words σ] [Units σ α]

omit [Words σ] in
/-- What becomes of a body is read off what its step leaves of it: the fate is `expired` exactly if
the body that is left `isGone`. -/
theorem Body.fate_of_step {body after : Body α} {tick : Tick α} {source source' : σ} {fate : Fate}
    (run : Runs (body.step tick) source (after, fate) source') :
    fate = .expiredIf (after.isGone tick.bounds) := by
  cases body with
  | firefly | koi =>
    obtain ⟨_, _, stepRun, run⟩ := Runs.of_bind run
    obtain ⟨_, _, _, stepRun⟩ := Runs.of_bind stepRun
    cases (Runs.of_pure stepRun).1
    cases (Runs.of_pure run).1
    rfl
  | _ =>
    cases (Runs.of_pure run).1
    rfl

end Ambience
