import Mathlib.Tactic.Linarith
import Ambience.Proofs.Body.Fates
import Ambience.Proofs.Motion
import Ambience.Proofs.Random.Ranges

/-!
# Newborn bodies

A body is born with everything in the ranges of its kind: in the view or just past the edge that it
enters from, with a limited speed and, where it can run out of life, with enough of it. Embers and
grains that are strewn over a new scene may have any age; those that enter later have their whole
life ahead.
-/

namespace Ambience

variable {α σ : Type} [ExactScalar α] {bounds : Bounds α}

/-! ## Ranges -/

/-- A flake sways and follows the wind in measure. -/
structure Flake.Measured (f : Flake α) : Prop where
  z_mem : 0 ≤ f.z ∧ f.z ≤ 1
  sway_le : |f.sway.amplitude| ≤ 4 / 5

/-- A flake in a view or just above it. -/
structure Flake.Newborn (bounds : Bounds α) (f : Flake α) : Prop extends Flake.Measured f where
  within : Motion.Within f.x f.y bounds.width bounds.height 12
  x_mem : 0 ≤ f.x ∧ f.x ≤ bounds.width
  bottom : f.y ≤ bounds.height
  speed_le : |f.speed| ≤ 6 / 5

/-- A petal or a leaf in a view or just past an edge. -/
structure Tumbler.Newborn (bounds : Bounds α) (t : Tumbler α) : Prop where
  within : Motion.Within t.x t.y bounds.width bounds.height 12
  vx_le : |t.vx| ≤ 1 / 2
  vy_le : |t.vy| ≤ 11 / 10
  flutter_le : |t.flutter.amplitude| ≤ 7 / 5

/-- Ranges that a newborn petal or leaf may be drawn from. -/
structure Tumbler.Ranges.Limited (ranges : Tumbler.Ranges α) : Prop where
  vx : -(1 / 2) ≤ ranges.vx.1 ∧ ranges.vx.2 ≤ 1 / 2
  vy : -(11 / 10) ≤ ranges.vy.1 ∧ ranges.vy.2 ≤ 11 / 10
  flutter : -(7 / 5) ≤ ranges.flutterAmplitude.1 ∧ ranges.flutterAmplitude.2 ≤ 7 / 5

theorem Tumbler.limited_petalRanges : (petalRanges : Ranges α).Limited where
  vx := by norm_num [petalRanges, ExactScalar.literal_eq]
  vy := by norm_num [petalRanges, ExactScalar.literal_eq]
  flutter := by norm_num [petalRanges, ExactScalar.literal_eq]

theorem Tumbler.limited_leafRanges : (leafRanges : Ranges α).Limited where
  vx := by norm_num [leafRanges, ExactScalar.literal_eq]
  vy := by norm_num [leafRanges, ExactScalar.literal_eq]
  flutter := by norm_num [leafRanges, ExactScalar.literal_eq]

/-- A firefly in a view. -/
structure Firefly.Newborn (bounds : Bounds α) (f : Firefly α) : Prop where
  within : Motion.Within f.x f.y bounds.width bounds.height 0
  speed_le : |f.speed| ≤ 7 / 10
  maxTurn_nonneg : 0 ≤ f.wander.maxTurn

/-- A star that has not passed the right edge. -/
structure Star.Newborn (bounds : Bounds α) (s : Star α) : Prop where
  right : s.x ≤ bounds.width
  speed_mem : 0 ≤ s.speed ∧ s.speed ≤ 1 / 5
  z_mem : 0 ≤ s.z ∧ s.z ≤ 1

/-- A koi in a view or its length past an edge. -/
structure Koi.Newborn (bounds : Bounds α) (k : Koi α) : Prop where
  within : Motion.Within k.x k.y bounds.width bounds.height k.length
  length_ge : 26 ≤ k.length
  speed_le : |k.speed| ≤ 11 / 10
  tail_le : |k.tail.amplitude| ≤ 9 / 20
  maxTurn_nonneg : 0 ≤ k.wander.maxTurn

/-- A ripple with a tenth of its size to grow. -/
structure Ripple.Newborn (r : Ripple α) : Prop where
  radius_le : r.radius ≤ r.maxRadius * (9 / 10)
  maxRadius_ge : 30 ≤ r.maxRadius
  growth_le : r.growth ≤ 2 / 5

/-- An ember just below a view, with its whole life ahead. -/
structure Mote.NewEmber (bounds : Bounds α) (e : Mote α) : Prop where
  within : Motion.Within e.x e.y bounds.width bounds.height 6
  vx_le : |e.vx| ≤ 3 / 10
  vy_le : |e.vy| ≤ 12 / 5
  wobble_le : |e.wobble.amplitude| ≤ 3 / 5
  life_ge : 90 ≤ e.life
  life_eq : e.life = e.maxLife
  maxLife_lt : e.maxLife < 240

/-- A grain just past the side of a view that it flies in from, with its whole life ahead. -/
structure Mote.NewGrain (bounds : Bounds α) (g : Mote α) : Prop where
  side : (-8 ≤ g.x ∧ g.x ≤ 0 ∧ 4 / 5 ≤ g.vx ∧ g.vx ≤ 12 / 5) ∨
    (bounds.width ≤ g.x ∧ g.x ≤ bounds.width + 8 ∧ -(12 / 5) ≤ g.vx ∧ g.vx ≤ -(4 / 5))
  y_mem : 0 ≤ g.y ∧ g.y ≤ bounds.height
  vy_le : |g.vy| ≤ 3 / 20
  wobble_le : |g.wobble.amplitude| ≤ 3 / 5
  life_ge : 120 ≤ g.life
  life_eq : g.life = g.maxLife
  maxLife_lt : g.maxLife < 300

/-- A body as it is born in a view. Rooted bodies are born to stay. -/
def Body.Newborn (bounds : Bounds α) : Body α → Prop
  | flake f => f.Newborn bounds
  | petal t => t.Newborn bounds
  | leaf t => t.Newborn bounds
  | firefly f => f.Newborn bounds
  | star s => s.Newborn bounds
  | koi k => k.Newborn bounds
  | ripple r => r.Newborn
  | ember e => e.NewEmber bounds
  | grain g => g.NewGrain bounds
  | stone _ => True
  | rake _ => True
  | glow _ => True
  | stalk _ => True
  | ridge _ => True
  | cactus _ => True

/-! ## Births -/

omit [ExactScalar α] in
/-- A body of a kind that needs no place is the record that `birth` gives, wrapped up. -/
theorem Kind.of_free {β : Type} {wrap : β → Body α} {birth : Draw σ β} {source after : σ}
    {geometry geometry' : Geometry α} {body : Body α}
    (run : Runs (do return (some (wrap (← birth)), geometry)) source (some body, geometry') after) :
    ∃ record, Runs birth source record after ∧ body = wrap record := by
  obtain ⟨record, _, birthRun, run⟩ := Runs.of_bind run
  cases (Runs.of_pure run).1
  cases (Runs.of_pure run).2
  exact ⟨record, birthRun, rfl⟩

section Births

variable [Units σ α] [UnitRange σ α] {site : Site α} {source after : σ}

/-- The amplitude of an `Oscillator.random` is drawn from its range. -/
theorem Oscillator.amplitude_mem {slow fast small large : α} {o : Oscillator α}
    (run : Runs (random slow fast small large) source o after) :
    small ≤ o.amplitude ∧ o.amplitude < large := by
  obtain ⟨phase, _, _, run⟩ := Runs.of_bind run
  obtain ⟨speed, _, _, run⟩ := Runs.of_bind run
  obtain ⟨amplitude, _, amplitudeRun, run⟩ := Runs.of_bind run
  cases (Runs.of_pure run).1
  exact Draw.of_uniform amplitudeRun

/-- An `Oscillator.random` deflects no farther than a range around zero allows. -/
theorem Oscillator.abs_amplitude_le {slow fast small large a : α} {o : Oscillator α}
    (range : -a ≤ small ∧ large ≤ a)
    (run : Runs (random slow fast small large) source o after) : |o.amplitude| ≤ a := by
  obtain ⟨least, most⟩ := amplitude_mem run
  exact abs_le.2 ⟨range.1.trans least, most.le.trans range.2⟩

section Sized

variable (wide : 0 ≤ site.bounds.width) (high : 0 ≤ site.bounds.height)

include wide high

/-- Flakes are born in the view or at most twelve pixels above it. -/
theorem Flake.newborn_of_spawn {f : Flake α} (run : Runs (spawn site) source f after) :
    f.Newborn site.bounds := by
  unfold spawn at run
  extract_lets rest at run
  have of_rest : ∀ {y : α} {source : σ}, -12 ≤ y ∧ y ≤ site.bounds.height →
      Runs (rest y) source f after → f.Newborn site.bounds := by
    intro y source yMem run
    obtain ⟨x, _, xRun, run⟩ := Runs.of_bind run
    obtain ⟨z, _, zRun, run⟩ := Runs.of_bind run
    obtain ⟨speed, _, speedRun, run⟩ := Runs.of_bind run
    obtain ⟨size, _, _, run⟩ := Runs.of_bind run
    obtain ⟨opacity, _, _, run⟩ := Runs.of_bind run
    obtain ⟨sway, _, swayRun, run⟩ := Runs.of_bind run
    cases (Runs.of_pure run).1
    have zMem := Draw.of_uniformClosed zRun
    norm_num [ExactScalar.literal_eq] at xRun zMem
    have xMem := Draw.mem_of_span wide xRun
    exact {
      z_mem := ⟨by linarith [zMem.1], zMem.2⟩
      sway_le := Oscillator.abs_amplitude_le (by norm_num [ExactScalar.literal_eq]) swayRun
      within := ⟨by linarith [xMem.1], by linarith [xMem.2], yMem.1, by linarith [yMem.2]⟩
      x_mem := xMem
      bottom := yMem.2
      speed_le := Draw.abs_le_of_uniform (by norm_num [ExactScalar.literal_eq]) speedRun }
  split at run
  · obtain ⟨y, _, yRun, run⟩ := Runs.of_bind run
    norm_num [ExactScalar.literal_eq] at yRun
    obtain ⟨top, bottom⟩ := Draw.mem_of_span high yRun
    exact of_rest ⟨by linarith, bottom⟩ run
  · obtain ⟨above, _, aboveRun, run⟩ := Runs.of_bind run
    obtain ⟨y, _, yRun, run⟩ := Runs.of_bind run
    cases (Runs.of_pure yRun).1
    obtain ⟨low, high⟩ := Draw.of_uniform aboveRun
    norm_num [margin, ExactScalar.literal_eq] at low high
    exact of_rest ⟨by linarith, by linarith⟩ run

/-- The `entry` of petals and leaves is in the view or at most half a margin outside. -/
theorem Tumbler.within_of_entry {point : α × α} (run : Runs (entry site) source point after) :
    Motion.Within point.1 point.2 site.bounds.width site.bounds.height 12 := by
  unfold entry at run
  extract_lets width height fromTop side at run
  have of_fromTop : ∀ {source : σ}, Runs fromTop source point after →
      Motion.Within point.1 point.2 site.bounds.width site.bounds.height 12 := by
    intro source run
    obtain ⟨x, _, xRun, run⟩ := Runs.of_bind run
    obtain ⟨above, _, aboveRun, run⟩ := Runs.of_bind run
    cases (Runs.of_pure run).1
    norm_num [ExactScalar.literal_eq] at xRun
    obtain ⟨left, right⟩ := Draw.mem_of_span wide xRun
    obtain ⟨low, lt⟩ := Draw.of_uniform aboveRun
    norm_num [margin, ExactScalar.literal_eq] at low lt
    exact ⟨by linarith, by linarith, by linarith, by linarith⟩
  split at run
  · obtain ⟨x, _, xRun, run⟩ := Runs.of_bind run
    obtain ⟨y, _, yRun, run⟩ := Runs.of_bind run
    cases (Runs.of_pure run).1
    norm_num [ExactScalar.literal_eq] at xRun yRun
    obtain ⟨left, right⟩ := Draw.mem_of_span wide xRun
    obtain ⟨top, bottom⟩ := Draw.mem_of_span high yRun
    exact ⟨by linarith, by linarith, by linarith, by linarith⟩
  · split at run
    · exact of_fromTop run
    obtain ⟨lot, _, _, run⟩ := Runs.of_bind run
    split at run
    · obtain ⟨y, _, yRun, run⟩ := Runs.of_bind run
      cases (Runs.of_pure run).1
      norm_num [ExactScalar.literal_eq] at yRun
      obtain ⟨top, bottom⟩ := Draw.mem_of_span high yRun
      have past : side = -12 ∨ side = site.bounds.width + 12 := by
        simp only [side]
        split
        · exact .inl (by norm_num [margin, ExactScalar.literal_eq])
        · exact .inr (by norm_num [width, margin, ExactScalar.literal_eq])
      rcases past with left | right
      · exact ⟨by linarith, by linarith, by linarith, by linarith⟩
      · exact ⟨by linarith, by linarith, by linarith, by linarith⟩
    · exact of_fromTop run

omit high in
/-- Stars are born in front of the right edge of the view. -/
theorem Star.newborn_of_spawn {s : Star α} (run : Runs (spawn site) source s after) :
    s.Newborn site.bounds := by
  unfold spawn at run
  extract_lets rest at run
  have of_rest : ∀ {x : α} {source : σ}, x ≤ site.bounds.width →
      Runs (rest x) source s after → s.Newborn site.bounds := by
    intro x source right run
    obtain ⟨y, _, _, run⟩ := Runs.of_bind run
    obtain ⟨nearness, _, nearnessRun, run⟩ := Runs.of_bind run
    obtain ⟨speed, _, speedRun, run⟩ := Runs.of_bind run
    obtain ⟨size, _, _, run⟩ := Runs.of_bind run
    obtain ⟨opacity, _, _, run⟩ := Runs.of_bind run
    obtain ⟨twinkle, _, _, run⟩ := Runs.of_bind run
    cases (Runs.of_pure run).1
    obtain ⟨near, far⟩ := Draw.of_uniform nearnessRun
    obtain ⟨slow, fast⟩ := Draw.of_uniform speedRun
    norm_num [ExactScalar.literal_eq] at near far slow fast
    have squared : 0 ≤ Scalar.square nearness ∧ Scalar.square nearness ≤ 1 :=
      ⟨mul_nonneg near near, mul_le_one₀ far.le near far.le⟩
    exact ⟨right, ⟨by linarith, by linarith⟩, squared⟩
  split at run
  · obtain ⟨x, _, xRun, run⟩ := Runs.of_bind run
    norm_num [ExactScalar.literal_eq] at xRun
    exact of_rest (Draw.mem_of_span wide xRun).2 run
  · obtain ⟨past, _, pastRun, run⟩ := Runs.of_bind run
    obtain ⟨x, _, xRun, run⟩ := Runs.of_bind run
    cases (Runs.of_pure xRun).1
    obtain ⟨low, lt⟩ := Draw.of_uniform pastRun
    norm_num [ExactScalar.literal_eq] at low
    exact of_rest (by linarith) run

omit wide high in
/-- Ripples are born with a tenth of their size to grow at least. -/
theorem Ripple.newborn_of_spawn {r : Ripple α} (run : Runs (spawn site) source r after) :
    r.Newborn := by
  obtain ⟨maxRadius, _, maxRun, run⟩ := Runs.of_bind run
  extract_lets rest at run
  obtain ⟨large, -⟩ := Draw.of_uniform maxRun
  norm_num [ExactScalar.literal_eq] at large
  have of_rest : ∀ {radius : α} {source : σ}, radius ≤ maxRadius * (9 / 10) →
      Runs (rest radius) source r after → r.Newborn := by
    intro radius source small run
    obtain ⟨x, _, _, run⟩ := Runs.of_bind run
    obtain ⟨y, _, _, run⟩ := Runs.of_bind run
    obtain ⟨growth, _, growthRun, run⟩ := Runs.of_bind run
    obtain ⟨opacity, _, _, run⟩ := Runs.of_bind run
    cases (Runs.of_pure run).1
    obtain ⟨-, slow⟩ := Draw.of_uniform growthRun
    norm_num [ExactScalar.literal_eq] at slow
    exact ⟨small, large, slow.le⟩
  split at run
  · obtain ⟨radius, _, radiusRun, run⟩ := Runs.of_bind run
    obtain ⟨-, small⟩ := Draw.of_uniform radiusRun
    norm_num [ExactScalar.literal_eq] at small
    exact of_rest small.le run
  · obtain ⟨radius, _, radiusRun, run⟩ := Runs.of_bind run
    cases (Runs.of_pure radiusRun).1
    norm_num [ExactScalar.literal_eq] at run
    exact of_rest (by linarith) run

/-- Embers that enter have their whole life ahead. -/
theorem Mote.newborn_of_spawnEmber {e : Mote α} (enters : site.origin = .enter)
    (run : Runs (spawnEmber site) source e after) : e.NewEmber site.bounds := by
  obtain ⟨left, _, leftRun, run⟩ := Runs.of_bind run
  obtain ⟨right, _, rightRun, run⟩ := Runs.of_bind run
  obtain ⟨maxLife, _, lifeRun, run⟩ := Runs.of_bind run
  rw [enters] at run
  obtain ⟨below, _, belowRun, run⟩ := Runs.of_bind run
  obtain ⟨⟨y, life⟩, _, placeRun, run⟩ := Runs.of_bind run
  cases (Runs.of_pure placeRun).1
  obtain ⟨vx, _, vxRun, run⟩ := Runs.of_bind run
  obtain ⟨rise, _, riseRun, run⟩ := Runs.of_bind run
  obtain ⟨size, _, _, run⟩ := Runs.of_bind run
  obtain ⟨opacity, _, _, run⟩ := Runs.of_bind run
  obtain ⟨wobble, _, wobbleRun, run⟩ := Runs.of_bind run
  cases (Runs.of_pure run).1
  norm_num [ExactScalar.literal_eq] at leftRun rightRun
  have leftMem := Draw.mem_of_span wide leftRun
  have rightMem := Draw.mem_of_span wide rightRun
  have belowMem := Draw.of_uniform belowRun
  have lifeMem := Draw.of_uniform lifeRun
  norm_num [ExactScalar.literal_eq] at belowMem lifeMem
  have rising : |rise| ≤ 12 / 5 := Draw.abs_le_of_uniform (by norm_num [ExactScalar.literal_eq]) riseRun
  exact {
    within := by
      norm_num [Motion.Within, ExactScalar.literal_eq]
      exact ⟨by linarith [leftMem.1, rightMem.1], by linarith [leftMem.2, rightMem.2],
        by linarith [belowMem.1], by linarith [belowMem.2]⟩
    vx_le := Draw.abs_le_of_uniform (by norm_num [ExactScalar.literal_eq]) vxRun
    vy_le := (abs_neg rise).le.trans rising
    wobble_le := Oscillator.abs_amplitude_le (by norm_num [ExactScalar.literal_eq]) wobbleRun
    life_ge := lifeMem.1
    life_eq := rfl
    maxLife_lt := lifeMem.2 }

omit wide in
/-- Grains that enter have their whole life ahead and fly into the view. -/
theorem Mote.newborn_of_spawnGrain {g : Mote α} (enters : site.origin = .enter)
    (run : Runs (spawnGrain site) source g after) : g.NewGrain site.bounds := by
  obtain ⟨maxLife, _, lifeRun, run⟩ := Runs.of_bind run
  rw [enters] at run
  obtain ⟨past, _, pastRun, run⟩ := Runs.of_bind run
  obtain ⟨x, _, xRun, run⟩ := Runs.of_bind run
  obtain ⟨life, _, wholeRun, run⟩ := Runs.of_bind run
  obtain ⟨y, _, yRun, run⟩ := Runs.of_bind run
  obtain ⟨speed, _, speedRun, run⟩ := Runs.of_bind run
  obtain ⟨vy, _, vyRun, run⟩ := Runs.of_bind run
  obtain ⟨size, _, _, run⟩ := Runs.of_bind run
  obtain ⟨opacity, _, _, run⟩ := Runs.of_bind run
  obtain ⟨wobble, _, wobbleRun, run⟩ := Runs.of_bind run
  cases (Runs.of_pure run).1
  cases (Runs.of_pure xRun).1
  cases (Runs.of_pure wholeRun).1
  have lifeMem := Draw.of_uniform lifeRun
  have pastMem := Draw.of_uniform pastRun
  have speedMem := Draw.of_uniform speedRun
  norm_num [grainMargin, ExactScalar.literal_eq] at lifeMem pastMem speedMem yRun
  obtain ⟨top, bottom⟩ := Draw.mem_of_span (by linarith) yRun
  refine ⟨?_, ⟨by linarith, bottom⟩, ?_, ?_, lifeMem.1, rfl, lifeMem.2⟩
  · dsimp only
    split
    · left
      norm_num [ExactScalar.literal_eq]
      exact ⟨pastMem.2.le, pastMem.1, speedMem.1, speedMem.2.le⟩
    · right
      norm_num [ExactScalar.literal_eq]
      exact ⟨pastMem.1, pastMem.2.le, speedMem.2.le, speedMem.1⟩
  · exact Draw.abs_le_of_uniform (by norm_num [ExactScalar.literal_eq]) vyRun
  · exact Oscillator.abs_amplitude_le (by norm_num [ExactScalar.literal_eq]) wobbleRun

variable [Words σ]

/-- Petals and leaves are born from any `Ranges.Limited` as `Tumbler.Newborn`. -/
theorem Tumbler.newborn_of_spawn {ranges : Ranges α} {t : Tumbler α} (limited : ranges.Limited)
    (run : Runs (spawn ranges site) source t after) : t.Newborn site.bounds := by
  obtain ⟨⟨x, y⟩, _, entryRun, run⟩ := Runs.of_bind run
  obtain ⟨vx, _, vxRun, run⟩ := Runs.of_bind run
  obtain ⟨vy, _, vyRun, run⟩ := Runs.of_bind run
  obtain ⟨rotation, _, _, run⟩ := Runs.of_bind run
  obtain ⟨spin, _, _, run⟩ := Runs.of_bind run
  obtain ⟨size, _, _, run⟩ := Runs.of_bind run
  obtain ⟨opacity, _, _, run⟩ := Runs.of_bind run
  obtain ⟨shade, _, _, run⟩ := Runs.of_bind run
  obtain ⟨flutter, _, flutterRun, run⟩ := Runs.of_bind run
  cases (Runs.of_pure run).1
  exact {
    within := within_of_entry wide high entryRun
    vx_le := Draw.abs_le_of_uniform limited.vx vxRun
    vy_le := Draw.abs_le_of_uniform limited.vy vyRun
    flutter_le := Oscillator.abs_amplitude_le limited.flutter flutterRun }

/-- The `wanderEntry` of fireflies and koi is no farther outside the view than asked for. -/
theorem within_of_wanderEntry {outside spread x y heading : α} (nonneg : 0 ≤ outside)
    (run : Runs (wanderEntry site outside spread) source (x, y, heading) after) :
    Motion.Within x y site.bounds.width site.bounds.height outside := by
  unfold wanderEntry at run
  extract_lets width height at run
  split at run
  · obtain ⟨x, _, xRun, run⟩ := Runs.of_bind run
    obtain ⟨y, _, yRun, run⟩ := Runs.of_bind run
    obtain ⟨heading, _, _, run⟩ := Runs.of_bind run
    cases (Runs.of_pure run).1
    norm_num [ExactScalar.literal_eq] at xRun yRun
    obtain ⟨left, right⟩ := Draw.mem_of_span wide xRun
    obtain ⟨top, bottom⟩ := Draw.mem_of_span high yRun
    exact ⟨by linarith, by linarith, by linarith, by linarith⟩
  obtain ⟨jitter, _, _, run⟩ := Runs.of_bind run
  obtain ⟨edge, _, _, run⟩ := Runs.of_bind run
  split at run
  case h_1 | h_2 =>
    obtain ⟨y, _, yRun, run⟩ := Runs.of_bind run
    cases (Runs.of_pure run).1
    norm_num [ExactScalar.literal_eq] at yRun
    obtain ⟨top, bottom⟩ := Draw.mem_of_span high yRun
    norm_num [Motion.Within, width, ExactScalar.literal_eq]
    exact ⟨by linarith, by linarith, by linarith⟩
  case h_3 | h_4 =>
    obtain ⟨x, _, xRun, run⟩ := Runs.of_bind run
    cases (Runs.of_pure run).1
    norm_num [ExactScalar.literal_eq] at xRun
    obtain ⟨left, right⟩ := Draw.mem_of_span wide xRun
    norm_num [Motion.Within, height, ExactScalar.literal_eq]
    exact ⟨by linarith, by linarith, by linarith⟩

omit [UnitRange σ α] wide high in
theorem Wander.maxTurn_nonneg_of_start {maxTurn rate : α} {interval : Nat} {w : Wander α}
    (nonneg : 0 ≤ maxTurn) (run : Runs (start maxTurn rate interval) source w after) :
    0 ≤ w.maxTurn := by
  obtain ⟨target, _, _, run⟩ := Runs.of_bind run
  obtain ⟨countdown, _, _, run⟩ := Runs.of_bind run
  cases (Runs.of_pure run).1
  exact nonneg

theorem Firefly.newborn_of_spawn {f : Firefly α} (run : Runs (spawn site) source f after) :
    f.Newborn site.bounds := by
  obtain ⟨⟨x, y, heading⟩, _, entryRun, run⟩ := Runs.of_bind run
  obtain ⟨speed, _, speedRun, run⟩ := Runs.of_bind run
  obtain ⟨radius, _, _, run⟩ := Runs.of_bind run
  obtain ⟨opacity, _, _, run⟩ := Runs.of_bind run
  obtain ⟨wander, _, wanderRun, run⟩ := Runs.of_bind run
  obtain ⟨phase, _, _, run⟩ := Runs.of_bind run
  obtain ⟨blinking, _, _, run⟩ := Runs.of_bind run
  cases (Runs.of_pure run).1
  norm_num [ExactScalar.literal_eq] at entryRun
  refine ⟨within_of_wanderEntry wide high (le_refl 0) entryRun, ?_, ?_⟩
  · exact Draw.abs_le_of_uniform (by norm_num [ExactScalar.literal_eq]) speedRun
  · exact Wander.maxTurn_nonneg_of_start (by norm_num [ExactScalar.literal_eq]) wanderRun

theorem Koi.newborn_of_spawn {k : Koi α} (run : Runs (spawn site) source k after) :
    k.Newborn site.bounds := by
  obtain ⟨length, _, lengthRun, run⟩ := Runs.of_bind run
  obtain ⟨⟨x, y, heading⟩, _, entryRun, run⟩ := Runs.of_bind run
  obtain ⟨speed, _, speedRun, run⟩ := Runs.of_bind run
  obtain ⟨opacity, _, _, run⟩ := Runs.of_bind run
  obtain ⟨variant, _, _, run⟩ := Runs.of_bind run
  obtain ⟨wander, _, wanderRun, run⟩ := Runs.of_bind run
  obtain ⟨tail, _, tailRun, run⟩ := Runs.of_bind run
  cases (Runs.of_pure run).1
  obtain ⟨long, -⟩ := Draw.of_uniform lengthRun
  norm_num [ExactScalar.literal_eq] at long
  refine ⟨within_of_wanderEntry wide high (by linarith) entryRun, long, ?_, ?_, ?_⟩
  · exact Draw.abs_le_of_uniform (by norm_num [ExactScalar.literal_eq]) speedRun
  · exact Oscillator.abs_amplitude_le (by norm_num [ExactScalar.literal_eq]) tailRun
  · exact Wander.maxTurn_nonneg_of_start (by norm_num [ExactScalar.literal_eq]) wanderRun

end Sized

/-- Whether bodies of a kind run out of life. -/
def Kind.isMortal : Kind → Bool
  | .ember | .grain => true
  | _ => false

/-- A body is `Body.Newborn` in the view that it is born for, if it is not strewn over the view with
a part of its life gone. -/
theorem Kind.newborn_of_spawn [Words σ] {kind : Kind} {geometry geometry' : Geometry α}
    {body : Body α} (wide : 0 ≤ site.bounds.width) (high : 0 ≤ site.bounds.height)
    (enters : kind.isMortal = true → site.origin = .enter)
    (run : Runs (kind.spawn site geometry) source (some body, geometry') after) :
    body.Newborn site.bounds := by
  cases kind with
  | stone | cactus =>
    obtain ⟨born, _, _, run⟩ := Runs.of_bind run
    cases born with
    | none => cases (Runs.of_pure run).1
    | some pair =>
      cases (Runs.of_pure run).1
      trivial
  | flake =>
    obtain ⟨f, bornRun, rfl⟩ := of_free run
    exact Flake.newborn_of_spawn wide high bornRun
  | petal =>
    obtain ⟨t, bornRun, rfl⟩ := of_free run
    exact Tumbler.newborn_of_spawn wide high Tumbler.limited_petalRanges bornRun
  | leaf =>
    obtain ⟨t, bornRun, rfl⟩ := of_free run
    exact Tumbler.newborn_of_spawn wide high Tumbler.limited_leafRanges bornRun
  | firefly =>
    obtain ⟨f, bornRun, rfl⟩ := of_free run
    exact Firefly.newborn_of_spawn wide high bornRun
  | star =>
    obtain ⟨s, bornRun, rfl⟩ := of_free run
    exact Star.newborn_of_spawn wide bornRun
  | koi =>
    obtain ⟨k, bornRun, rfl⟩ := of_free run
    exact Koi.newborn_of_spawn wide high bornRun
  | ripple =>
    obtain ⟨r, bornRun, rfl⟩ := of_free run
    exact Ripple.newborn_of_spawn bornRun
  | ember =>
    obtain ⟨e, bornRun, rfl⟩ := of_free run
    exact Mote.newborn_of_spawnEmber wide high (enters rfl) bornRun
  | grain =>
    obtain ⟨g, bornRun, rfl⟩ := of_free run
    exact Mote.newborn_of_spawnGrain high (enters rfl) bornRun
  | rake | glow | stalk | ridge =>
    obtain ⟨_, _, _, run⟩ := Runs.of_bind run
    cases (Runs.of_pure run).1
    trivial

end Births

end Ambience
