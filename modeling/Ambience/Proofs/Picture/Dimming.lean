import Mathlib
import Ambience.Proofs.Picture.Repainting
import Ambience.Proofs.Scalar.Exact
import Ambience.Theme.Catalog

/-!
# Dimming

The knob scales what every paint covers. Turned down it makes no paint stronger, so that what cannot
be seen stays out of the picture: a dimmer picture is the brighter one with some bodies left out and
every other call in a fainter paint of the same colour.
-/

namespace Ambience

variable {α : Type}

/-- A paint of the same colour that covers no more. -/
def Paint.Fainter [LE α] (paint paint' : Paint α) : Prop :=
  paint.color = paint'.color ∧ paint.alpha ≤ paint'.alpha

theorem Paint.isVisible_iff [Scalar α] {paint : Paint α} :
    paint.isVisible = true ↔ 0.001 < paint.alpha :=
  decide_eq_true_iff

section Exact

variable [ExactScalar α]

open ExactScalar

/-! ## The opacity rule -/

namespace Opacity

theorem neutral_pos : (0 : α) < neutral := by
  rw [neutral, literal_eq]
  norm_num

/-- A setting is brought into the range of the knob. -/
theorem restrict_eq (setting : α) : restrict setting = min (max setting 0) 100 := by
  have number : Scalar.isNumber setting = true := by
    simp only [Scalar.isNumber, le_refl, decide_true]
  rw [restrict, if_pos number, clamp_eq, zero_literal, literal_eq]
  norm_num

theorem restrict_mono {low high : α} (le : low ≤ high) : restrict low ≤ restrict high := by
  rw [restrict_eq, restrict_eq]
  exact min_le_min_right _ (max_le_max_right _ le)

theorem restrict_of_nonpos {setting : α} (off : setting ≤ 0) : restrict setting = 0 := by
  rw [restrict_eq, max_eq_right off]
  exact min_eq_left (by norm_num)

/-- The opacity of a body is its own, turned up or down by the knob relative to `neutral` and faded,
and brought into the unit interval. -/
theorem effective_eq (base setting fade : α) :
    effective base setting fade =
      min (max (max base 0 * (restrict setting / neutral) * min (max fade 0) 1) 0) 1 := by
  rw [effective, if_pos (isFinite_eq _), greatest_eq, clamp_unit_eq, clamp_unit_eq, zero_literal]

/-- A higher setting of the knob makes no body fainter. -/
theorem effective_mono (base fade : α) {low high : α} (le : low ≤ high) :
    effective base low fade ≤ effective base high fade := by
  have base_nonneg : 0 ≤ max base 0 := le_max_right base 0
  have fade_nonneg : 0 ≤ min (max fade 0) 1 := le_min (le_max_right fade 0) zero_le_one
  have share : restrict low / neutral ≤ restrict high / neutral :=
    div_le_div_of_nonneg_right (restrict_mono le) neutral_pos.le
  rw [effective_eq, effective_eq]
  refine min_le_min_right _ (max_le_max_right _ ?_)
  exact mul_le_mul_of_nonneg_right (mul_le_mul_of_nonneg_left share base_nonneg) fade_nonneg

theorem effective_of_nonpos (base fade : α) {setting : α} (off : setting ≤ 0) :
    effective base setting fade = 0 := by
  rw [effective_eq, restrict_of_nonpos off, zero_div, mul_zero, zero_mul, max_self]
  exact min_eq_left zero_le_one

end Opacity

/-! ## Paints -/

/-- The alpha of a paint is brought into the unit interval. -/
theorem Paint.alpha_of (color : Rgb) (alpha : α) :
    (Paint.of color alpha).alpha = min (max alpha 0) 1 := by
  rw [Paint.of]
  exact clamp_unit_eq alpha

theorem Paint.alpha_of_mem (color : Rgb) (alpha : α) :
    0 ≤ (Paint.of color alpha).alpha ∧ (Paint.of color alpha).alpha ≤ 1 := by
  exact clamp_unit_mem alpha

/-- With the knob at zero or below a pen covers nothing. -/
theorem Pen.alpha_of_nonpos {pen : Pen α} (off : pen.opacity ≤ 0) (color : Rgb) (base fade : α) :
    (pen.paint color base fade).alpha = 0 := by
  rw [Pen.paint, Opacity.effective_of_nonpos base fade off, Paint.alpha_of, max_self]
  exact min_eq_left zero_le_one

/-- With the knob turned down a pen `Repaints` in the same colours, no stronger than before. -/
theorem Pen.repaints_fainter (pen : Pen α) {low high : α} (le : low ≤ high) :
    Repaints Paint.Fainter { pen with opacity := low } { pen with opacity := high } where
  time_eq := rfl
  wind_eq := rfl
  bounds_eq := rfl
  geometry_eq := rfl
  paint _ base fade := ⟨rfl, clamp_mono (Opacity.effective_mono base fade le) _ _⟩
  visible := by
    rintro paint paint' ⟨-, fainter⟩ visible
    rw [Paint.isVisible_iff] at visible ⊢
    exact lt_of_lt_of_le visible fainter

end Exact

/-- What holds of every paint of a pen holds of the paint of every call that it draws. -/
theorem Body.paints_of_draw [Scalar α] {good : Paint α → Prop} {pen : Pen α} (body : Body α)
    (each : ∀ color base fade, good (pen.paint color base fade)) :
    ∀ call ∈ body.draw pen, ∀ paint, call.paint? = some paint → good paint := by
  have repaints : pen.Repaints (fun paint paint' => paint = paint' ∧ good paint) pen :=
    { time_eq := rfl, wind_eq := rfl, bounds_eq := rfl, geometry_eq := rfl
      paint := fun _ _ _ => ⟨rfl, each _ _ _⟩
      visible := fun same visible => same.1 ▸ visible }
  have thins := body.thins repaints
  intro call member paint painted
  generalize body.draw pen = calls at thins member
  cases thins with
  | omitted => cases member
  | repainted all =>
    have itself := List.forall₂_same.1 all call member
    cases itself with
    | disc same | glow same | line same | rect same | below same =>
      cases painted
      exact same.2

/-! ## Pictures -/

/-- The same controls with the opacity knob at some setting. -/
def Controls.turned (controls : Controls α) (setting : α) : Controls α :=
  { controls with opacity := setting }

namespace Engine

variable [ExactScalar α] {σ : Type} (engine : Engine α σ) (controls : Controls α) (width height : α)

/-- What holds of every paint at some opacity holds of all paints of a picture at that opacity. -/
theorem paints_of_picture {good : Paint α → Prop}
    (each : ∀ pen : Pen α, pen.opacity = controls.opacity → ∀ color base fade,
      good (pen.paint color base fade)) :
    ∀ call ∈ engine.picture controls width height, ∀ paint, call.paint? = some paint →
      good paint := by
  intro call member paint painted
  rw [picture_eq, groups, ← List.flatMap_def] at member
  rcases List.mem_cons.1 member with rfl | member
  · cases painted
  · obtain ⟨entity, -, member⟩ := List.mem_flatMap.1 member
    exact entity.body.paints_of_draw (each _ rfl) call member paint painted

/-- At each setting of the knob the picture covers the view and draws the groups of the bodies on
it. At a lower setting the groups are those at a higher one with the groups of some bodies left out
and the other calls repainted (`DrawCall.Thinned`), in the same colours and no stronger
(`Paint.Fainter`). What a call covers is a share of the unit interval, and with the knob at zero
nothing is covered. -/
theorem picture_dims {low high : α} (le : low ≤ high) :
    (∀ setting, engine.picture (controls.turned setting) width height =
      .clear (engine.theme.palettes.pick controls.dark).background ::
        (engine.groups (controls.turned setting) width height).flatten) ∧
      List.Forall₂ (DrawCall.Thinned Paint.Fainter)
        (engine.groups (controls.turned low) width height)
        (engine.groups (controls.turned high) width height) ∧
      ∀ setting, ∀ call ∈ engine.picture (controls.turned setting) width height,
        ∀ paint, call.paint? = some paint →
          0 ≤ paint.alpha ∧ paint.alpha ≤ 1 ∧ (setting ≤ 0 → paint.alpha = 0) := by
  refine ⟨fun setting => engine.picture_eq _ _ _, ?_, ?_⟩
  · refine forall₂_map _ fun entity => entity.body.thins ?_
    let palette := engine.theme.palettes.pick controls.dark
    exact (engine.scene.pen palette low width height).repaints_fainter le
  · intro setting
    refine engine.paints_of_picture _ width height fun pen knob color base fade => ?_
    obtain ⟨nonneg, le_one⟩ :=
      Paint.alpha_of_mem color (Opacity.effective base pen.opacity fade)
    exact ⟨nonneg, le_one, fun off => Pen.alpha_of_nonpos (le_of_eq_of_le knob off) color base fade⟩

/-- A faint flake in front of a glow. -/
def hearth : Engine ℚ Random.Stream where
  theme := Theme.embers
  scale := 1
  source := Words.ofSeed 0
  scene :=
    { (Scene.empty ⟨60, 40⟩ : Scene ℚ) with
      layers :=
        [⟨⟨.flake, 1, .fixed 1⟩, [⟨2, .flake ⟨20, 10, 1, 1, 2, 1 / 100, ⟨0, 0, 0⟩⟩⟩], .idle⟩,
          ⟨⟨.glow, 0, .fixed 1⟩, [⟨1, .glow ⟨30, 40, 27, 7 / 20, ⟨0, 0, 0⟩⟩⟩], .idle⟩] }

/-- With the knob at 4 the flake of the `hearth` is left out, and at 40 it has a disc and a halo. -/
theorem picture_dims_hearth :
    (4 : ℚ) ≤ 40 ∧
      (hearth.groups (Controls.initial.turned 4) 60 40).map List.length = [1, 0] ∧
      (hearth.groups (Controls.initial.turned 40) 60 40).map List.length = [1, 2] ∧
      List.Forall₂ (DrawCall.Thinned Paint.Fainter)
        (hearth.groups (Controls.initial.turned 4) 60 40)
        (hearth.groups (Controls.initial.turned 40) 60 40) := by
  have le : (4 : ℚ) ≤ 40 := by norm_num
  have order : hearth.scene.drawOrder = [1, 0] := by cbv
  refine ⟨le, ?_, ?_, (hearth.picture_dims Controls.initial 60 40 le).2.1⟩
  · rw [groups, Scene.drawn, order]
    decide +kernel
  · rw [groups, Scene.drawn, order]
    decide +kernel

end Engine

end Ambience
