import Mathlib.Algebra.BigOperators.Group.List.Basic
import Mathlib.Algebra.BigOperators.Ring.List
import Mathlib.Data.List.Induction
import Ambience.Proofs.Engine.Mortality
import Ambience.Proofs.Engine.Standstill

/-!
# Emitters give what they owe

Each call of an emitter for a rate and a step adds their product to what is owed, fractions included,
and nothing else does. The whole bodies that have fallen due since and the fraction that is carried
always come to what is owed together. So since its scene was built a transient layer has worked
through as many slots as its rate times the frames that have passed has whole bodies, into whatever
updates these frames were cut.
-/

namespace Ambience

variable {α σ : Type} [ExactScalar α]

/-! ## One emitter -/

namespace Emitter

/-- The bodies that have fallen due so far and the emitter, after one more call for a rate and a
step. -/
def called (before : Nat × Emitter α) (call : α × α) : Nat × Emitter α :=
  (before.1 + (before.2.due call.1 call.2).1, (before.2.due call.1 call.2).2)

/-- All bodies that fall due in calls of a new emitter, and the emitter after them. -/
def calledAll (calls : List (α × α)) : Nat × Emitter α := calls.foldl called (0, .idle)

/-- What the calls of an emitter owe, fractions included. -/
def owed (calls : List (α × α)) : α := (calls.map fun call => max (call.1 * call.2) 0).sum

/-- No single call makes more whole bodies due than a machine word counts. -/
def Fits [FloorRing α] (calls : List (α × α)) : Prop :=
  ∀ (earlier : List (α × α)) (call : α × α), earlier ++ [call] <+: calls →
    ⌊owed (earlier ++ [call])⌋ - ⌊owed earlier⌋ < UInt64.size

variable {calls earlier : List (α × α)}

/-- One more call goes on with what the calls before it left (`called`). -/
theorem calledAll_snoc (earlier : List (α × α)) (call : α × α) :
    calledAll (earlier ++ [call]) = called (calledAll earlier) call :=
  List.foldl_concat ..

/-- One more call adds what it asks for to what is `owed`, and nothing if it asks for less than
nothing. -/
theorem owed_snoc (earlier : List (α × α)) (call : α × α) :
    owed (earlier ++ [call]) = owed earlier + max (call.1 * call.2) 0 := by
  rw [owed, List.map_append, List.sum_append, List.map_singleton, List.sum_singleton]
  rfl

variable [FloorRing α]

theorem Fits.of_prefix (fits : Fits calls) (first : earlier <+: calls) : Fits earlier :=
  fun earlier' call first' => fits earlier' call (first'.trans first)

/-- Calls that owe only a few bodies each make no more due than a machine word counts (`Fits`). -/
theorem fits_of_le (few : ∀ call ∈ calls, call.1 * call.2 ≤ 5) : Fits calls := by
  intro earlier call first
  have more : max (call.1 * call.2) 0 ≤ 5 :=
    max_le (few call (first.subset List.mem_concat_self)) (by norm_num)
  have below : owed (earlier ++ [call]) < ((⌊owed earlier⌋ + 6 : Int) : α) := by
    have whole := Int.lt_floor_add_one (owed earlier)
    rw [owed_snoc]
    push_cast
    linarith
  have floors := Int.floor_lt.2 below
  rw [UInt64.size]
  omega

variable [ExactRounding α]

/-- A call gives all whole bodies that it is to give, if a machine word counts them. -/
theorem count_of_due {emitter : Emitter α} {rate step : α} (nonneg : 0 ≤ emitter.carry)
    (fits : ⌊emitter.carry + max (rate * step) 0⌋ < UInt64.size) :
    ((emitter.due rate step).1 : Int) = ⌊emitter.carry + max (rate * step) 0⌋ := by
  have whole : 0 ≤ ⌊emitter.carry + max (rate * step) 0⌋ :=
    Int.floor_nonneg.2 (add_nonneg nonneg (le_max_right _ _))
  rw [due, ExactScalar.greatest_eq, ExactScalar.zero_literal]
  dsimp only
  rw [ExactRounding.count_floor, Scalar.maxCount]
  omega

/-- An emitter has given the whole bodies that it owes, and carries the rest. -/
theorem of_calledAll (fits : Fits calls) :
    ((calledAll calls).1 : Int) = ⌊owed calls⌋ ∧
      (calledAll calls).2.carry = Int.fract (owed calls) := by
  induction calls using List.reverseRecOn with
  | nil =>
    have carry : (calledAll ([] : List (α × α))).2.carry = 0 := ExactScalar.zero_literal
    rw [carry, owed, List.map_nil, List.sum_nil, Int.floor_zero, Int.fract_zero]
    exact ⟨rfl, rfl⟩
  | append_singleton earlier call ih =>
    obtain ⟨given, carried⟩ := ih (fits.of_prefix (List.prefix_append _ _))
    -- The carry and the new product are what is owed now, less the bodies that were given before.
    have together : (calledAll earlier).2.carry + max (call.1 * call.2) 0 =
        owed (earlier ++ [call]) - ((⌊owed earlier⌋ : Int) : α) := by
      rw [carried, owed_snoc, Int.fract]
      ring
    have last := fits earlier call (List.prefix_refl _)
    rw [← Int.floor_sub_intCast, ← together] at last
    have nonneg : 0 ≤ (calledAll earlier).2.carry := carried ▸ Int.fract_nonneg _
    rw [calledAll_snoc, called]
    constructor
    · rw [Nat.cast_add, given, count_of_due nonneg last, together, Int.floor_sub_intCast]
      ring
    · rw [carry_of_due, together, Int.fract_sub_intCast]

end Emitter

/-! ## Layers of an engine -/

namespace Engine

/-- The seconds of the updates since the scene was built: those in `passed` to begin with, and then
those of some happenings. -/
def sinceBuilt (passed : List α) : List (Happening α) → List α
  | [] => passed
  | .resized _ _ :: later => sinceBuilt [] later
  | .passed seconds :: later => sinceBuilt (passed ++ [seconds]) later

variable [Words σ] [Units σ α]

/-- How many slots a layer has worked through since the scene was built: `count` to begin with, and
then those of some happenings. What was born in the slots of an update is in `emissions`, with a gap
for each slot that found no place. -/
def slots (k : Nat) (engine : Engine α σ) (count : Nat) : List (Happening α) → Except Fault Nat
  | [] => return count
  | .resized width height :: later => do
    let (built, _) ← engine.rebuild width height
    built.slots k 0 later
  | .passed seconds :: later => do
    let births ← engine.emissions seconds k
    let (after, _) ← engine.update seconds
    after.slots k (count + births.length) later

/-- The calls of the emitter of a layer in updates. -/
def callsOf (rate : α) (passed : List α) : List (α × α) :=
  passed.map fun seconds => (rate, Motion.stepOf seconds)

variable {theme : Theme α} {scale width height : α} {seed : UInt64} {first engine after : Engine α σ}
  {past : List (Engine α σ)} {events : List (Event α)} {happenings later : List (Happening α)}
  {passed : List α} {k : Nat} {spec : LayerSpec α} {rate seconds : α} {cap : Nat}

/-- A layer of an engine is one of its theme. -/
theorem Lived.exists_layer (lived : Lived theme scale seed width height past engine)
    (specAt : theme.layers[k]? = some spec) :
    ∃ layer, engine.scene.layers[k]? = some layer ∧ layer.spec = spec := by
  rw [← lived.sound.populated.specs, List.getElem?_map] at specAt
  exact Option.map_eq_some_iff.1 specAt

/-- The emitters of a new scene owe nothing. -/
theorem emitter_of_rebuild (lived : Lived theme scale seed width height past after)
    (specAt : theme.layers[k]? = some spec)
    (run : engine.rebuild width height = .ok (after, events)) :
    after.scene.layers[k]?.map Layer.emitter = some .idle := by
  obtain ⟨layer, found, -⟩ := lived.exists_layer specAt
  obtain ⟨_, _, _, -, buildRun, rfl⟩ := of_rebuild run
  rw [found, Option.map_some,
    Layer.idle_of_buildAll buildRun layer (List.mem_of_getElem? found)]

/-- In an update a transient layer works through the slots that its emitter makes due. -/
theorem emits_of_update {emitter : Emitter α}
    (lived : Lived theme scale seed width height past engine)
    (specAt : theme.layers[k]? = some spec) (spawned : spec.density = .spawned rate cap)
    (carries : engine.scene.layers[k]?.map Layer.emitter = some emitter)
    (run : engine.update seconds = .ok (after, events)) :
    ∃ births, engine.emissions seconds k = .ok births ∧
      births.length = (emitter.due rate (Motion.stepOf seconds)).1 ∧
      after.scene.layers[k]?.map Layer.emitter =
        some (emitter.due rate (Motion.stepOf seconds)).2 := by
  have sound := lived.sound
  obtain ⟨layer, found, rfl⟩ := lived.exists_layer specAt
  rw [found, Option.map_some, Option.some_inj] at carries
  obtain ⟨_, births, layer', -, birthsRun, found', length, emitter', -⟩ :=
    keepsNewest_of_update sound.populated.homogeneous (sound.issued _ List.mem_cons_self)
      lived.bounded run k layer rate cap found spawned
  rw [carries] at length emitter'
  exact ⟨births, birthsRun, length, by rw [found', Option.map_some, emitter']⟩

/-- One more update is one more call of the emitter, with the step of its seconds. -/
theorem calledAll_callsOf_snoc (rate seconds : α) (passed : List α) :
    Emitter.calledAll (callsOf rate (passed ++ [seconds])) =
      Emitter.called (Emitter.calledAll (callsOf rate passed)) (rate, Motion.stepOf seconds) := by
  rw [callsOf, List.map_append]
  exact Emitter.calledAll_snoc _ _

/-- Over its life a transient layer works through the slots that its emitter has made due since the
scene was built (`calledAll`). -/
theorem slots_eq_calledAll {before : Nat × Emitter α}
    (lived : Lived theme scale seed width height past engine)
    (specAt : theme.layers[k]? = some spec) (spawned : spec.density = .spawned rate cap)
    (given : Emitter.calledAll (callsOf rate passed) = before)
    (carries : engine.scene.layers[k]?.map Layer.emitter = some before.2)
    (run : engine.course later = .ok after) :
    engine.slots k before.1 later =
      .ok (Emitter.calledAll (callsOf rate (sinceBuilt passed later))).1 := by
  induction later generalizing engine width height past passed before with
  | nil =>
    rw [← given]
    rfl
  | cons happening later ih =>
    rw [course_cons] at run
    obtain ⟨middle, happeningRun, laterRun⟩ := of_bind_eq_ok run
    rcases of_undergo happeningRun with ⟨_, _, _, rfl, changed⟩ | ⟨seconds, _, rfl, changed⟩
    · have lived' := lived.rebuilt changed
      have fresh : Emitter.calledAll (callsOf rate ([] : List α)) = (0, .idle) := rfl
      rw [slots, changed]
      exact ih lived' fresh (emitter_of_rebuild lived' specAt changed) laterRun
    · obtain ⟨births, birthsRun, length, carries'⟩ :=
        emits_of_update lived specAt spawned carries changed
      have given' := calledAll_callsOf_snoc rate seconds passed
      rw [given] at given'
      rw [slots, birthsRun, changed]
      show middle.slots k (before.1 + births.length) later = _
      rw [length]
      exact ih (lived.updated changed) given' carries' laterRun

/-- What the updates of a layer owe is its rate times the frames that pass in them. -/
theorem owed_callsOf (nonneg : 0 ≤ rate) (passed : List α) :
    Emitter.owed (callsOf rate passed) = rate * (passed.map Motion.stepOf).sum := by
  have each (seconds : α) : max (rate * Motion.stepOf seconds) 0 = rate * Motion.stepOf seconds :=
    max_eq_left (mul_nonneg nonneg (Motion.stepOf_mem seconds).1)
  rw [Emitter.owed, callsOf, List.map_map, ← List.sum_map_mul_left]
  exact congrArg List.sum (List.map_congr_left fun seconds _ => each seconds)

/-- No rate of the catalogue is negative, and none is large. -/
theorem rate_of_mem_all (listed : theme ∈ Theme.all) (specAt : spec ∈ theme.layers)
    (spawned : spec.density = .spawned rate cap) : 0 ≤ rate ∧ rate ≤ 5 / 4 := by
  have rates : ∀ theme ∈ (Theme.all : List (Theme α)), ∀ spec ∈ theme.layers,
      ∀ rate cap, spec.density = .spawned rate cap → rate = 1.2 ∨ rate = 0.8 := by
    simp [Theme.all, Theme.snowfall, Theme.sakura, Theme.fireflies, Theme.starfield, Theme.koi,
      Theme.zen, Theme.embers, Theme.bamboo, Theme.dunes]
  rcases rates theme listed spec specAt rate cap spawned with rfl | rfl
  · norm_num [ExactScalar.literal_eq]
  · norm_num [ExactScalar.literal_eq]

variable [FloorRing α]

/-- An update covers so few frames that a layer of the catalogue never has many bodies due. -/
theorem fits_of_mem_all (listed : theme ∈ Theme.all) (specAt : spec ∈ theme.layers)
    (spawned : spec.density = .spawned rate cap) (passed : List α) :
    Emitter.Fits (callsOf rate passed) := by
  obtain ⟨nonneg, small⟩ := rate_of_mem_all listed specAt spawned
  refine Emitter.fits_of_le fun call member => ?_
  obtain ⟨seconds, -, rfl⟩ := List.mem_map.1 member
  obtain ⟨forward, short⟩ := Motion.stepOf_mem seconds
  calc rate * Motion.stepOf seconds ≤ 5 / 4 * 4 := mul_le_mul small short forward (by norm_num)
    _ = 5 := by norm_num

/-- Emitters neither lose nor invent bodies. After each call of a new emitter (`calledAll`) the
carry is less than a whole body, and all counts so far come to the whole bodies of what was `owed`
so far. So from when its scene was built (`sinceBuilt`) a transient layer works through as many
slots as its rate times the frames that have passed has whole bodies, whatever the updates were that
these frames were cut into. In the catalogue no rate is negative and no count is too large. -/
theorem slots_of_course [ExactRounding α]
    (begins : start theme scale seed width height = .ok (first, events))
    (run : first.course happenings = .ok engine) :
    (∀ calls : List (α × α), Emitter.Fits calls → ∀ earlier, earlier <+: calls →
      0 ≤ (Emitter.calledAll earlier).2.carry ∧ (Emitter.calledAll earlier).2.carry < 1 ∧
        ((Emitter.calledAll earlier).1 : Int) = ⌊Emitter.owed earlier⌋) ∧
    (∀ (k : Nat) (spec : LayerSpec α) (rate : α) (cap : Nat), theme.layers[k]? = some spec →
      spec.density = .spawned rate cap → Emitter.Fits (callsOf rate (sinceBuilt [] happenings)) →
      ∃ slots, first.slots k 0 happenings = .ok slots ∧
        (slots : Int) = ⌊Emitter.owed (callsOf rate (sinceBuilt [] happenings))⌋ ∧
        (0 ≤ rate →
          (slots : Int) = ⌊rate * ((sinceBuilt [] happenings).map Motion.stepOf).sum⌋)) ∧
    ∀ listed ∈ (Theme.all : List (Theme α)), ∀ spec ∈ listed.layers, ∀ (rate : α) (cap : Nat),
      spec.density = .spawned rate cap →
        0 ≤ rate ∧ ∀ passed : List α, Emitter.Fits (callsOf rate passed) := by
  refine ⟨fun calls fits earlier before => ?_, fun k spec rate cap specAt spawned fits => ?_,
    fun listed member spec specAt rate cap spawned => ?_⟩
  · obtain ⟨given, carried⟩ := Emitter.of_calledAll (fits.of_prefix before)
    rw [carried]
    exact ⟨Int.fract_nonneg _, Int.fract_lt_one _, given⟩
  · have lived : Lived theme scale seed width height [] first := .started begins
    have fresh : Emitter.calledAll (callsOf rate ([] : List α)) = (0, .idle) := rfl
    have counted := slots_eq_calledAll lived specAt spawned fresh
      (emitter_of_rebuild lived specAt begins) run
    obtain ⟨given, -⟩ := Emitter.of_calledAll fits
    exact ⟨_, counted, given, fun nonneg => owed_callsOf nonneg (sinceBuilt [] happenings) ▸ given⟩
  · exact ⟨(rate_of_mem_all member specAt spawned).1, fits_of_mem_all member specAt spawned⟩

/-- A tenth of a second, a new size, a twentieth of a second, a second that runs backward and a
hundredth of a second. -/
def flicker : List (Happening ℚ) :=
  [.passed 0.1, .resized 8 8, .passed 0.05, .passed (-1), .passed 0.01]

/-- A small fire at its start, and after some flickering. -/
def flickered : Except Fault (Engine ℚ Random.Stream × Engine ℚ Random.Stream) := do
  let (first, _) ← start Theme.embers 1 9 8 8
  let engine ← first.course flicker
  return (first, engine)

/-- Since the new size of a small fire three and three fifths frames have passed, and at six embers
in five frames four of them have fallen due. -/
theorem slots_of_flicker :
    ∃ first engine : Engine ℚ Random.Stream,
      first.course flicker = .ok engine ∧ first.slots 1 0 flicker = .ok 4 := by
  have ends : flickered.toOption.any (fun _ => true) = true := by
    decide +kernel
  obtain ⟨⟨first, engine⟩, run, -⟩ := of_any_toOption ends
  obtain ⟨⟨_, _⟩, firstRun, run⟩ := of_bind_eq_ok run
  obtain ⟨_, engineRun, run⟩ := of_bind_eq_ok run
  cases of_pure_eq_ok run
  obtain ⟨-, slots, catalog⟩ := slots_of_course firstRun engineRun
  have listed : (Theme.embers : Theme ℚ) ∈ Theme.all := by
    simp only [Theme.all, List.mem_cons, true_or, or_true]
  have specAt : (Theme.embers : Theme ℚ).layers[1]? = some ⟨.ember, 1, .spawned 1.2 200⟩ := rfl
  obtain ⟨nonneg, fits⟩ := catalog _ listed _ (List.mem_of_getElem? specAt) _ _ rfl
  obtain ⟨count, counted, -, whole⟩ := slots 1 _ _ _ specAt rfl (fits _)
  have four : ⌊(1.2 : ℚ) * ((sinceBuilt [] flicker).map Motion.stepOf).sum⌋ = 4 := by
    decide +kernel
  obtain rfl : count = 4 := Int.ofNat_inj.1 ((whole nonneg).trans four)
  exact ⟨first, engine, engineRun, counted⟩

end Engine

end Ambience
