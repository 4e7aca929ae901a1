import Ambience.Picture
import Mathlib.Data.List.Forall2

/-!
# Repainting

What a body is drawn with decides the paint of its calls, and by their visibility whether it is
drawn at all; it has no part in where the calls go. Two pens that differ in their palettes and in
the setting of the knob give the same primitives in the same places, unless one of them leaves the
body out (`Body.thins`). So a relation between the paints of two pens is one between their pictures,
call by call.
-/

namespace Ambience

variable {α : Type}

/-! ## Related calls -/

/-- Two calls of one primitive in one place, with related paints. -/
inductive DrawCall.Repainted (related : Paint α → Paint α → Prop) : DrawCall α → DrawCall α → Prop
  | disc {x y radius : α} {paint paint' : Paint α} :
    related paint paint' → Repainted related (.disc x y radius paint) (.disc x y radius paint')
  | glow {x y radius : α} {paint paint' : Paint α} :
    related paint paint' → Repainted related (.glow x y radius paint) (.glow x y radius paint')
  | line {fromX fromY toX toY width : α} {paint paint' : Paint α} :
    related paint paint' →
    Repainted related (.line fromX fromY toX toY width paint) (.line fromX fromY toX toY width paint')
  | rect {x y width height : α} {paint paint' : Paint α} :
    related paint paint' →
    Repainted related (.rect x y width height paint) (.rect x y width height paint')
  | below {tops : Array α} {step : α} {paint paint' : Paint α} :
    related paint paint' → Repainted related (.below tops step paint) (.below tops step paint')

/-- A group of calls is left out, or each of its calls is repainted. -/
inductive DrawCall.Thinned (related : Paint α → Paint α → Prop) :
    List (DrawCall α) → List (DrawCall α) → Prop
  | omitted {calls : List (DrawCall α)} : Thinned related [] calls
  | repainted {calls calls' : List (DrawCall α)} :
    List.Forall₂ (Repainted related) calls calls' → Thinned related calls calls'

section Lists

variable {β γ : Type} {related : γ → γ → Prop}

theorem forall₂_map {f g : β → γ} (items : List β) (each : ∀ item, related (f item) (g item)) :
    List.Forall₂ related (items.map f) (items.map g) := by
  rw [List.forall₂_map_left_iff, List.forall₂_map_right_iff]
  exact List.forall₂_same.2 fun item _ => each item

theorem forall₂_mapIdx {f g : Nat → β → γ} (items : List β)
    (each : ∀ i item, related (f i item) (g i item)) :
    List.Forall₂ related (items.mapIdx f) (items.mapIdx g) := by
  rw [List.mapIdx_eq_zipIdx_map, List.mapIdx_eq_zipIdx_map]
  exact forall₂_map _ fun place => each place.2 place.1

theorem forall₂_flatMap {f g : β → List γ} (items : List β)
    (each : ∀ item, List.Forall₂ related (f item) (g item)) :
    List.Forall₂ related (items.flatMap f) (items.flatMap g) :=
  List.rel_flatten (forall₂_map items each)

end Lists

section Rules

variable [Scalar α] {related : Paint α → Paint α → Prop} {pen pen' : Pen α}

theorem DrawCall.repainted_ring {x y radius width : α} {paint paint' : Paint α}
    (paints : related paint paint') :
    List.Forall₂ (Repainted related) (ring x y radius width paint)
      (ring x y radius width paint') :=
  forall₂_map _ fun _ => .line paints

/-- Two pens that draw the same scene, and whose paints are related wherever they take the same
colour from their palettes for the same body. -/
structure Pen.Repaints (related : Paint α → Paint α → Prop) (pen pen' : Pen α) : Prop where
  time_eq : pen.time = pen'.time
  wind_eq : pen.wind = pen'.wind
  bounds_eq : pen.bounds = pen'.bounds
  geometry_eq : pen.geometry = pen'.geometry
  paint (tint : Palette α → Rgb) (base fade : α) :
    related (pen.paint (tint pen.palette) base fade) (pen'.paint (tint pen'.palette) base fade)
  /-- What can be seen in the first paint can be seen in the second. -/
  visible {paint paint' : Paint α} :
    related paint paint' → paint.isVisible = true → paint'.isVisible = true

theorem Pen.Repaints.shade (repaints : Repaints related pen pen') (index : Nat) (base fade : α) :
    related (pen.shade index base fade) (pen'.shade index base fade) :=
  repaints.paint (fun palette => palette.color index) base fade

/-- Every body is drawn only where its first paint can be seen, so that a body is repainted as a
whole or left out as a whole (`DrawCall.Thinned`). -/
theorem Pen.Repaints.thinned (repaints : Repaints related pen pen') {paint paint' : Paint α}
    {calls calls' : List (DrawCall α)} (paints : related paint paint')
    (each : List.Forall₂ (DrawCall.Repainted related) calls calls') :
    DrawCall.Thinned related (if paint.isVisible then calls else [])
      (if paint'.isVisible then calls' else []) := by
  split
  · rename_i visible
    rw [if_pos (repaints.visible paints visible)]
    exact .repainted each
  · exact .omitted

/-! ## The rules of the kinds -/

/-- A flake is one disc, in the one paint that is looked at first. -/
theorem Flake.thins (repaints : pen.Repaints related pen') (f : Flake α) :
    DrawCall.Thinned related (f.draw pen) (f.draw pen') := by
  refine repaints.thinned (repaints.shade ..) ?_
  refine .cons (.disc (repaints.shade ..)) ?_
  split
  · exact .cons (.glow (repaints.shade ..)) .nil
  · exact .nil

theorem Tumbler.thins_petal (repaints : pen.Repaints related pen') (t : Tumbler α) :
    DrawCall.Thinned related (t.drawPetal pen) (t.drawPetal pen') := by
  have paint := repaints.shade t.shade t.opacity
    (0.55 + 0.45 * Scalar.magnitude (Scalar.cos t.rotation))
  exact repaints.thinned paint (.cons (.disc paint) (.cons (.disc paint) .nil))

theorem Tumbler.thins_leaf (repaints : pen.Repaints related pen') (t : Tumbler α) :
    DrawCall.Thinned related (t.drawLeaf pen) (t.drawLeaf pen') := by
  have paint := repaints.shade t.shade t.opacity 1.0
  exact repaints.thinned paint (.cons (.line paint) .nil)

theorem Star.thins (repaints : pen.Repaints related pen') (s : Star α) :
    DrawCall.Thinned related (s.draw pen) (s.draw pen') := by
  refine repaints.thinned (repaints.shade ..) ?_
  refine .cons (.disc (repaints.shade ..)) ?_
  split
  · have spike := repaints.shade 1 (s.opacity * 0.5) (0.45 + 0.55 * s.twinkle.unit)
    exact .cons (.line spike) (.cons (.line spike) .nil)
  · exact .nil

theorem Firefly.thins (repaints : pen.Repaints related pen') (f : Firefly α) :
    DrawCall.Thinned related (f.draw pen) (f.draw pen') := by
  have halo := repaints.shade 1 (f.opacity * 0.6) f.brightness
  have core := repaints.shade 0 f.opacity f.brightness
  exact repaints.thinned halo (.cons (.glow halo) (.cons (.disc core) .nil))

theorem Koi.thins (repaints : pen.Repaints related pen') (k : Koi α) :
    DrawCall.Thinned related (k.draw pen) (k.draw pen') := by
  have body := repaints.shade k.variant k.opacity 1.0
  have shadow := repaints.shade 4 (k.opacity * 0.4) 1.0
  have fin := repaints.shade 3 (k.opacity * 0.8) 1.0
  refine repaints.thinned body (List.rel_append (List.rel_append (List.rel_append ?_ ?_) ?_) ?_)
  · exact forall₂_map _ fun _ => .disc shadow
  · exact forall₂_map _ fun _ => .disc body
  · exact forall₂_map _ fun _ => .line fin
  · exact forall₂_map _ fun _ => .line fin

theorem Ripple.thins (repaints : pen.Repaints related pen') (r : Ripple α) :
    DrawCall.Thinned related (r.draw pen) (r.draw pen') := by
  refine repaints.thinned (repaints.shade ..) (List.rel_append ?_ ?_)
  · exact DrawCall.repainted_ring (repaints.shade ..)
  · split
    · exact DrawCall.repainted_ring (repaints.shade ..)
    · exact .nil

theorem Stone.thins (repaints : pen.Repaints related pen') (s : Stone α) :
    DrawCall.Thinned related (s.draw pen) (s.draw pen') := by
  have body := repaints.shade s.shade s.opacity 1.0
  refine repaints.thinned body (List.rel_append ?_ ?_)
  · exact forall₂_flatMap _ fun radius => DrawCall.repainted_ring (repaints.shade ..)
  · have shadow := repaints.shade 4 (s.opacity * 0.5) 1.0
    have highlight := repaints.shade 5 (s.opacity * 0.5) 1.0
    exact .cons (.disc shadow) (.cons (.disc body) (.cons (.disc highlight) .nil))

theorem Rake.thins (repaints : pen.Repaints related pen') (r : Rake α) :
    DrawCall.Thinned related (r.draw pen) (r.draw pen') := by
  have paint := repaints.shade 3 r.opacity 1.0
  refine repaints.thinned paint ?_
  -- The pieces and the zones are the same for both pens.
  rw [repaints.bounds_eq, repaints.geometry_eq]
  have same (pieces : List (α × α)) : List.Forall₂ Eq pieces pieces := List.forall₂_refl pieces
  refine List.rel_filterMap ?_ (same _)
  rintro piece _ rfl
  dsimp only
  split
  · exact .some (.line paint)
  · exact .none

theorem Glow.thins (repaints : pen.Repaints related pen') (g : Glow α) :
    DrawCall.Thinned related (g.draw pen) (g.draw pen') :=
  .repainted (.cons (.glow (repaints.shade ..)) .nil)

theorem Mote.thins_ember (repaints : pen.Repaints related pen') (e : Mote α) :
    DrawCall.Thinned related (e.drawEmber pen) (e.drawEmber pen') := by
  have paint := repaints.paint fun palette =>
    palette.ramp.sample (1.0 - Scalar.clamp (e.life / e.maxLife) 0.0 1.0)
  refine repaints.thinned (paint ..) (.cons (.disc (paint ..)) ?_)
  split
  · exact .cons (.glow (paint ..)) .nil
  · exact .nil

theorem Mote.thins_grain (repaints : pen.Repaints related pen') (g : Mote α) :
    DrawCall.Thinned related (g.drawGrain pen) (g.drawGrain pen') := by
  have paint := repaints.shade 3 g.opacity (Motion.lifeFade g.life g.maxLife 0.15)
  exact repaints.thinned paint (.cons (.disc paint) .nil)

/-- The segments, the joints and the leaves of a stalk have three paints, and what bends and
flutters them is the same for both pens. -/
theorem Stalk.thins (repaints : pen.Repaints related pen') (s : Stalk α) :
    DrawCall.Thinned related (s.draw pen) (s.draw pen') := by
  have stem := repaints.shade s.shade s.opacity (0.55 + 0.45 * s.z)
  have collar := repaints.shade 5 s.opacity (0.55 + 0.45 * s.z)
  have foliage := repaints.shade 3 s.opacity (0.55 + 0.45 * s.z)
  refine repaints.thinned stem ?_
  -- Wind bends both stalks alike, and time flutters their leaves alike.
  rw [repaints.wind_eq, repaints.time_eq]
  refine List.rel_append (List.rel_append ?_ ?_) ?_
  · exact forall₂_map _ fun _ => .line stem
  · exact forall₂_map _ fun _ => .rect collar
  · exact forall₂_mapIdx _ fun _ _ => .line foliage

/-- The sand of a ridge and the lines of its crest are drawn or left out together. -/
theorem Ridge.thins (repaints : pen.Repaints related pen') (r : Ridge α) :
    DrawCall.Thinned related (r.draw pen) (r.draw pen') := by
  have body := repaints.shade r.shade r.opacity 1.0
  have light := repaints.shade 5 (r.opacity * 0.4) (0.6 + 0.4 * r.shimmer.unit)
  refine repaints.thinned body (.cons (.below body) ?_)
  exact forall₂_mapIdx _ fun _ _ => .line light

theorem Cactus.thins (repaints : pen.Repaints related pen') (c : Cactus α) :
    DrawCall.Thinned related (c.draw pen) (c.draw pen') := by
  have paint := repaints.shade 4 c.opacity 1.0
  refine repaints.thinned paint (List.rel_append ?_ ?_)
  · exact .cons (.line paint) (.cons (.disc paint) .nil)
  · refine forall₂_flatMap _ fun _ => ?_
    exact .cons (.line paint) (.cons (.line paint) (.cons (.disc paint) .nil))

/-- What one of two pens draws of a body the other draws as well, in related paint, or leaves out
altogether. -/
theorem Body.thins (repaints : pen.Repaints related pen') (body : Body α) :
    DrawCall.Thinned related (body.draw pen) (body.draw pen') := by
  cases body with
  | flake f => exact f.thins repaints
  | petal t => exact t.thins_petal repaints
  | firefly f => exact f.thins repaints
  | star s => exact s.thins repaints
  | koi k => exact k.thins repaints
  | ripple r => exact r.thins repaints
  | stone s => exact s.thins repaints
  | rake r => exact r.thins repaints
  | glow g => exact g.thins repaints
  | ember e => exact e.thins_ember repaints
  | stalk s => exact s.thins repaints
  | leaf t => exact t.thins_leaf repaints
  | ridge r => exact r.thins repaints
  | cactus c => exact c.thins repaints
  | grain g => exact g.thins_grain repaints

end Rules

/-! ## Pictures, body by body -/

variable {σ : Type} [Scalar α]

/-- The bodies of a scene from the back to the front. -/
def Scene.drawn (scene : Scene α) : List (Entity α) :=
  scene.drawOrder.flatMap fun i => (scene.layers[i]?.map Layer.entities).getD []

/-- The calls that draw each body of an engine's scene, from the back to the front. -/
def Engine.groups (engine : Engine α σ) (controls : Controls α) (width height : α) :
    List (List (DrawCall α)) :=
  let palette := engine.theme.palettes.pick controls.dark
  engine.scene.drawn.map fun entity =>
    entity.body.draw (engine.scene.pen palette controls.opacity width height)

/-- To draw a scene is to draw its bodies in the order of `Scene.drawn`. -/
theorem Scene.draw_eq (scene : Scene α) (pen : Pen α) :
    scene.draw pen = scene.drawn.flatMap fun entity => entity.body.draw pen := by
  rw [drawn, List.flatMap_assoc]
  refine congrArg (List.flatMap · scene.drawOrder) (funext fun i => ?_)
  cases scene.layers[i]? with
  | none => rfl
  | some layer => rfl

/-- A picture is the cover followed by the `groups` of its bodies. -/
theorem Engine.picture_eq (engine : Engine α σ) (controls : Controls α) (width height : α) :
    engine.picture controls width height =
      .clear (engine.theme.palettes.pick controls.dark).background ::
        (engine.groups controls width height).flatten := by
  rw [picture, Scene.draw_eq, groups, List.flatMap_def]

/-! ## Other palettes -/

/-- Two paints that cover alike. -/
def Paint.Recolored (paint paint' : Paint α) : Prop := paint.alpha = paint'.alpha

/-- Pens that differ in their palettes alone paint in other colours, but as opaquely. -/
theorem Pen.repaints_recolored (pen : Pen α) (palette palette' : Palette α) :
    Repaints Paint.Recolored { pen with palette } { pen with palette := palette' } where
  time_eq := rfl
  wind_eq := rfl
  bounds_eq := rfl
  geometry_eq := rfl
  paint _ _ _ := rfl
  visible := by
    intro paint paint' same visible
    rw [Paint.isVisible, ← same]
    exact visible

omit [Scalar α] in
/-- Of two groups that are each `Thinned` of the other, neither is left out alone. -/
theorem DrawCall.Thinned.both {related related' : Paint α → Paint α → Prop}
    {calls calls' : List (DrawCall α)} (forth : Thinned related calls calls')
    (back : Thinned related' calls' calls) : List.Forall₂ (Repainted related) calls calls' := by
  cases forth with
  | repainted each => exact each
  | omitted =>
    cases back with
    | omitted => exact .nil
    | repainted each =>
      cases each
      exact .nil

/-- With another palette a body is drawn by the same calls, in other colours. -/
theorem Body.recolored_of_draw (body : Body α) (pen : Pen α) (palette palette' : Palette α) :
    List.Forall₂ (DrawCall.Repainted Paint.Recolored) (body.draw { pen with palette })
      (body.draw { pen with palette := palette' }) :=
  (body.thins (pen.repaints_recolored palette palette')).both
    (body.thins (pen.repaints_recolored palette' palette))

/-- A palette has no part in a picture but the colours: with another one a body is drawn by the same
primitives in the same places and order, and each covers as much as before (`Paint.Recolored`). So
the dark and the light `Engine.picture` of a scene differ in nothing but colour. -/
theorem Engine.picture_recolored (engine : Engine α σ) (controls : Controls α) (width height : α) :
    (∀ (body : Body α) (pen : Pen α) (palette : Palette α),
      List.Forall₂ (DrawCall.Repainted Paint.Recolored) (body.draw pen)
        (body.draw { pen with palette })) ∧
      ∃ dark light : List (DrawCall α),
        engine.picture { controls with dark := true } width height =
          .clear engine.theme.palettes.dark.background :: dark ∧
        engine.picture { controls with dark := false } width height =
          .clear engine.theme.palettes.light.background :: light ∧
        List.Forall₂ (DrawCall.Repainted Paint.Recolored) dark light := by
  refine ⟨fun body pen palette => body.recolored_of_draw pen pen.palette palette, ?_⟩
  refine ⟨_, _, engine.picture_eq _ width height, engine.picture_eq _ width height, ?_⟩
  refine List.rel_flatten (forall₂_map _ fun entity => ?_)
  let pen := engine.scene.pen engine.theme.palettes.dark controls.opacity width height
  exact entity.body.recolored_of_draw pen engine.theme.palettes.dark engine.theme.palettes.light

end Ambience
