import Ambience.Proofs.Picture.Repainting
import Ambience.Proofs.Session.Frames

/-!
# Back to front

The bodies of a scene are drawn in the order of their depths. Bodies of one depth are drawn layer by
layer, and those of a layer in the order of the layer. Nothing but the cover of a picture clears what
is below it, so that a picture has the calls of every body in one piece.
-/

namespace Ambience

variable {α σ : Type}

/-! ## Stable sorts -/

/-- A sort by a key keeps the order of the items whose keys are equal. -/
theorem pairwise_mergeSort_key {β : Type} (key : β → Nat) {before : β → β → Prop} {items : List β}
    (ordered : items.Pairwise before) :
    (items.mergeSort fun a b => decide (key a ≤ key b)).Pairwise fun a b =>
      key a < key b ∨ key a = key b ∧ before a b := by
  have trans (a b c : β) (first : decide (key a ≤ key b) = true)
      (later : decide (key b ≤ key c) = true) : decide (key a ≤ key c) = true :=
    decide_eq_true ((of_decide_eq_true first).trans (of_decide_eq_true later))
  have total (a b : β) : (decide (key a ≤ key b) || decide (key b ≤ key a)) = true := by
    rw [Bool.or_eq_true, decide_eq_true_iff, decide_eq_true_iff]
    exact Nat.le_total ..
  induction items with
  | nil =>
    rw [List.mergeSort_nil]
    exact .nil
  | cons item later ih =>
    obtain ⟨first, ordered⟩ := List.pairwise_cons.1 ordered
    obtain ⟨below, above, sorted, rest, less⟩ := List.mergeSort_cons trans total item later
    have ascending := List.pairwise_mergeSort trans total (item :: later)
    have stable := ih ordered
    rw [sorted] at ascending ⊢
    rw [rest] at stable
    obtain ⟨stableBelow, stableAbove, across⟩ := List.pairwise_append.1 stable
    have fromItem := (List.pairwise_cons.1 (List.pairwise_append.1 ascending).2.1).1
    refine List.pairwise_append.2 ⟨stableBelow, List.pairwise_cons.2 ⟨?_, stableAbove⟩, ?_⟩
    · -- of what has its key, the first item stays in front
      intro other member
      have inLater : other ∈ later := by
        have sortedAt : other ∈ later.mergeSort fun a b => decide (key a ≤ key b) := by
          rw [rest]
          exact List.mem_append_right _ member
        exact List.mem_mergeSort.1 sortedAt
      have le := of_decide_eq_true (fromItem other member)
      exact (Nat.lt_or_eq_of_le le).imp_right fun same => ⟨same, first other inLater⟩
    · intro other member next nextMember
      rcases List.mem_cons.1 nextMember with rfl | inAbove
      · have lower := less other member
        rw [Bool.not_eq_true', decide_eq_false_iff_not] at lower
        exact .inl (Nat.lt_of_not_le lower)
      · exact across other member next inAbove

/-- What is done with each item of a list in turn, place by place. -/
theorem flatMap_range_getElem? {β γ : Type} (items : List β) (f : β → List γ) :
    ((List.range items.length).flatMap fun i => (items[i]?.map f).getD []) = items.flatMap f := by
  induction items with
  | nil => rfl
  | cons item later ih =>
    rw [List.length_cons, List.range_succ_eq_map, List.flatMap_cons, List.flatMap_map,
      List.flatMap_cons, ← ih]
    rfl

/-! ## Places -/

namespace Scene

/-- Where a body stands: its layer, and its place in the layer. -/
structure Place where
  layer : Nat
  index : Nat
  deriving DecidableEq

variable (scene : Scene α)

/-- The bodies of the `i`-th layer. -/
def entitiesAt (i : Nat) : List (Entity α) := (scene.layers[i]?.map Layer.entities).getD []

/-- The body at a place. -/
def entityAt? (place : Place) : Option (Entity α) := (scene.entitiesAt place.layer)[place.index]?

/-- A place is behind another: its depth is less, or with one depth its layer comes before, or in one
layer its index does. -/
def Behind (place front : Place) : Prop :=
  scene.depthAt place.layer < scene.depthAt front.layer ∨
    scene.depthAt place.layer = scene.depthAt front.layer ∧
      (place.layer < front.layer ∨ place.layer = front.layer ∧ place.index < front.index)

/-- Of two places at most one is `Behind` the other. -/
theorem Behind.asymm {scene : Scene α} {place front : Place} (behind : scene.Behind place front) :
    ¬scene.Behind front place := by
  unfold Behind at behind ⊢
  omega

/-- The places of a layer. -/
def placesOf (i : Nat) : List Place := (List.range (scene.entitiesAt i).length).map (Place.mk i)

/-- The places of the bodies in the order in which they are drawn. -/
def places : List Place := scene.drawOrder.flatMap scene.placesOf

/-- The calls that draw the body at a place. -/
def drawAt [Scalar α] (pen : Pen α) (place : Place) : List (DrawCall α) :=
  ((scene.entityAt? place).map fun entity => entity.body.draw pen).getD []

variable {scene}

theorem mem_placesOf {i : Nat} {place : Place} :
    place ∈ scene.placesOf i ↔ place.layer = i ∧ place.index < (scene.entitiesAt i).length := by
  constructor
  · intro member
    obtain ⟨j, inLayer, rfl⟩ := List.mem_map.1 member
    exact ⟨rfl, List.mem_range.1 inLayer⟩
  · rintro ⟨rfl, inLayer⟩
    exact List.mem_map.2 ⟨place.index, List.mem_range.2 inLayer, rfl⟩

/-- The drawing order (`Scene.drawOrder`) holds every layer once. -/
theorem drawOrder_perm : scene.drawOrder.Perm (List.range scene.layers.length) :=
  List.mergeSort_perm ..

/-- Layers are drawn from the deepest to the nearest, and in the order of the theme where two are at
the same depth. -/
theorem pairwise_drawOrder : scene.drawOrder.Pairwise fun i j =>
    scene.depthAt i < scene.depthAt j ∨ scene.depthAt i = scene.depthAt j ∧ i < j :=
  pairwise_mergeSort_key scene.depthAt List.pairwise_lt_range

/-- The places of a scene are those that a body is at. -/
theorem mem_places {place : Place} : place ∈ scene.places ↔ (scene.entityAt? place).isSome := by
  rw [places, List.mem_flatMap, entityAt?, isSome_getElem?]
  constructor
  · rintro ⟨i, -, member⟩
    obtain ⟨rfl, inLayer⟩ := mem_placesOf.1 member
    exact inLayer
  · intro inLayer
    refine ⟨place.layer, ?_, mem_placesOf.2 ⟨rfl, inLayer⟩⟩
    rw [drawOrder_perm.mem_iff, List.mem_range]
    by_contra none
    rw [entitiesAt, List.getElem?_eq_none (Nat.le_of_not_lt none)] at inLayer
    exact Nat.not_lt_zero _ inLayer

/-- The places of a scene are listed from behind to the front. -/
theorem pairwise_places : scene.places.Pairwise scene.Behind := by
  refine List.pairwise_flatMap.2 ⟨fun i _ => ?_, scene.pairwise_drawOrder.imp ?_⟩
  · refine List.pairwise_map.2 (List.pairwise_lt_range.imp fun before => ?_)
    exact .inr ⟨rfl, .inr ⟨rfl, before⟩⟩
  · intro i j before place member front frontMember
    obtain ⟨rfl, -⟩ := mem_placesOf.1 member
    obtain ⟨rfl, -⟩ := mem_placesOf.1 frontMember
    exact before.imp_right fun ⟨same, first⟩ => ⟨same, .inl first⟩

/-- A body is drawn before another exactly if it is `Behind` it. -/
theorem behind_iff_lt {i j : Nat} (first : i < scene.places.length)
    (second : j < scene.places.length) :
    scene.Behind scene.places[i] scene.places[j] ↔ i < j := by
  have ordered := List.pairwise_iff_getElem.1 scene.pairwise_places
  refine ⟨fun behind => ?_, ordered i j first second⟩
  by_contra later
  rcases Nat.lt_or_eq_of_le (Nat.le_of_not_lt later) with before | rfl
  · exact behind.asymm (ordered j i second first before)
  · exact behind.asymm behind

/-- No place of a scene is drawn twice. -/
theorem nodup_places : scene.places.Nodup :=
  scene.pairwise_places.imp fun behind same => (same ▸ behind).asymm (same ▸ behind)

variable [Scalar α]

/-- To draw the places of a layer is to draw its bodies in turn. -/
theorem flatMap_drawAt (scene : Scene α) (pen : Pen α) (i : Nat) :
    (scene.placesOf i).flatMap (scene.drawAt pen) =
      (scene.entitiesAt i).flatMap fun entity => entity.body.draw pen := by
  rw [placesOf, List.flatMap_map]
  exact flatMap_range_getElem? (scene.entitiesAt i) fun entity => entity.body.draw pen

/-- To draw a scene is to draw what is at each of its `places`, one after another. -/
theorem draw_eq_places (scene : Scene α) (pen : Pen α) :
    scene.draw pen = scene.places.flatMap (scene.drawAt pen) := by
  rw [draw_eq, drawn, places, List.flatMap_assoc, List.flatMap_assoc]
  exact congrArg (List.flatMap · scene.drawOrder) (funext fun i => (scene.flatMap_drawAt pen i).symm)

end Scene

/-! ## Covers -/

section Covers

/-- What is repainted has a paint, and clears nothing. -/
theorem DrawCall.Repainted.ne_clear {related : Paint α → Paint α → Prop} {call call' : DrawCall α}
    (repainted : Repainted related call call') (color : Rgb) : call ≠ .clear color := by
  rintro rfl
  cases repainted

variable [Scalar α]

/-- No body clears what is drawn behind it. -/
theorem Body.ne_clear {body : Body α} {pen : Pen α} {call : DrawCall α} (member : call ∈ body.draw pen)
    (color : Rgb) : call ≠ .clear color := by
  have same := List.forall₂_same.1 (body.recolored_of_draw pen pen.palette pen.palette)
  exact (same call member).ne_clear color

/-- A scene has many bodies to draw, and none that clears (`Body.ne_clear`). -/
theorem Scene.ne_clear {scene : Scene α} {pen : Pen α} {call : DrawCall α}
    (member : call ∈ scene.draw pen) (color : Rgb) : call ≠ .clear color := by
  rw [draw_eq] at member
  obtain ⟨entity, -, member⟩ := List.mem_flatMap.1 member
  exact Body.ne_clear member color

omit [Scalar α] in
/-- A recording appends what is drawn on it, as long as nothing clears it. -/
theorem Recording.drawAll_calls (recording : Recording α) {calls : List (DrawCall α)}
    (paints : ∀ call ∈ calls, ∀ color, call ≠ .clear color) :
    (Surface.drawAll recording calls).calls.toList = recording.calls.toList ++ calls := by
  induction calls generalizing recording with
  | nil => exact (List.append_nil _).symm
  | cons call later ih =>
    have pushed : (recording.add call).calls = recording.calls.push call := by
      cases call with
      | clear color => exact (paints _ List.mem_cons_self color rfl).elim
      | _ => rfl
    have rest := ih (recording.add call)
      fun other member => paints other (List.mem_cons_of_mem _ member)
    rw [pushed, Array.toList_push, List.append_assoc] at rest
    exact rest

end Covers

/-! ## Frames -/

namespace Engine

variable [Scalar α]

/-- The pen that draws the scene of an engine on a surface of an extent. -/
def pen (engine : Engine α σ) (controls : Controls α) (width height : α) : Pen α :=
  engine.scene.pen (engine.theme.palettes.pick controls.dark) controls.opacity width height

/-- The calls of all bodies of an engine's scene on a surface of an extent, place by place. -/
def bodyCalls (engine : Engine α σ) (controls : Controls α) (width height : α) :
    List (DrawCall α) :=
  engine.scene.places.flatMap (engine.scene.drawAt (engine.pen controls width height))

/-- A picture is the cover in the colour of the background, and what the bodies draw on it
(`bodyCalls`). -/
theorem picture_eq_bodyCalls (engine : Engine α σ) (controls : Controls α) (width height : α) :
    engine.picture controls width height =
      .clear (engine.theme.palettes.pick controls.dark).background ::
        engine.bodyCalls controls width height :=
  congrArg (_ :: ·) (engine.scene.draw_eq_places _)

theorem ne_clear_of_bodyCalls {engine : Engine α σ} {controls : Controls α} {width height : α}
    {call : DrawCall α} (member : call ∈ engine.bodyCalls controls width height) (color : Rgb) :
    call ≠ .clear color := by
  rw [bodyCalls, ← Scene.draw_eq_places] at member
  exact Scene.ne_clear member color

/-- On a `Recording`, `Engine.render` puts one cover and then the `bodyCalls`: those of every body
in one piece, each body's once and as they are for that body alone. The calls of a body come before
those of another exactly if its place is `Behind` the other's: by the depths of their layers, then
by the layers, then by their places in a layer. -/
theorem render_eq_bodyCalls (engine : Engine α σ) (controls : Controls α) (recording : Recording α) :
    (engine.render controls recording).calls.toList =
        .clear (engine.theme.palettes.pick controls.dark).background ::
          engine.bodyCalls controls recording.width recording.height ∧
      (∀ call ∈ engine.bodyCalls controls recording.width recording.height, ∀ color,
        call ≠ .clear color) ∧
      (engine.scene.places.Nodup ∧
        ∀ place, place ∈ engine.scene.places ↔ (engine.scene.entityAt? place).isSome) ∧
      (∀ i j : Fin engine.scene.places.length,
        engine.scene.Behind engine.scene.places[i] engine.scene.places[j] ↔ i < j) ∧
      engine.scene.drawOrder.Perm (List.range engine.scene.layers.length) ∧
      engine.scene.drawOrder.Pairwise fun i j =>
        engine.scene.depthAt i < engine.scene.depthAt j ∨
          engine.scene.depthAt i = engine.scene.depthAt j ∧ i < j := by
  have recorded : (engine.render controls recording).calls.toList =
      .clear (engine.theme.palettes.pick controls.dark).background ::
        engine.bodyCalls controls recording.width recording.height := by
    show (Surface.drawAll recording
      (engine.picture controls recording.width recording.height)).calls.toList = _
    rw [picture_eq_bodyCalls]
    exact Recording.drawAll_calls (recording.add _) fun _ => ne_clear_of_bodyCalls
  exact ⟨recorded, fun _ => ne_clear_of_bodyCalls,
    ⟨Scene.nodup_places, fun _ => Scene.mem_places⟩,
    fun i j => Scene.behind_iff_lt i.2 j.2, Scene.drawOrder_perm, Scene.pairwise_drawOrder⟩

end Engine

end Ambience
