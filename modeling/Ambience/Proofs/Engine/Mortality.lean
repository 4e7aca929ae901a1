import Mathlib.Data.List.Induction
import Mathlib.Tactic.Linarith
import Ambience.Proofs.Engine.Newcomers

/-!
# Motes are mortal

`Engine.course` takes an engine through new sizes and through time, and `Engine.elapsed` counts the
nominal frames that pass on the way. A mote is born with its whole life ahead, ages by the step of
each update that it stands in, and is gone once its life is over. So its record tells how long ago it
was born, however often the frame rate changed, the clock stood still or its layer was reordered, and
no mote outlives the frames that it was born with.
-/

namespace Ambience

variable {α σ : Type}

/-! ## One mote -/

/-- The record of a body that runs out of life. -/
def Body.mote? : Body α → Option (Mote α)
  | ember e => some e
  | grain g => some g
  | _ => none

namespace Body

/-- The motes are the bodies of the kinds that run out of life. -/
theorem isSome_mote (body : Body α) : body.mote?.isSome = body.kind.isMortal := by
  cases body <;> rfl

variable [ExactScalar α] {body : Body α}

/-- A newborn mote has its whole life ahead. -/
theorem Newborn.mote {bounds : Bounds α} {mote : Mote α} (newborn : body.Newborn bounds)
    (isMote : body.mote? = some mote) : mote.life = mote.maxLife ∧ 90 ≤ mote.maxLife := by
  cases body with
  | ember e =>
    cases isMote
    exact ⟨newborn.life_eq, newborn.life_eq ▸ newborn.life_ge⟩
  | grain g =>
    cases isMote
    exact ⟨newborn.life_eq, by linarith [newborn.life_eq, newborn.life_ge]⟩
  | _ => cases isMote

/-- A step takes the life of its tick from a mote, and a mote that is alive has some left. -/
theorem mote_of_step [Words σ] [Units σ α] {after : Body α} {former : Mote α} {tick : Tick α}
    {source source' : σ} {fate : Fate} (run : Runs (body.step tick) source (after, fate) source')
    (wasMote : body.mote? = some former) :
    ∃ mote, after.mote? = some mote ∧ mote.maxLife = former.maxLife ∧
      mote.life = former.life - tick.step ∧ (fate = .alive → 0 < mote.life) := by
  have alive : fate = .alive → after.isGone tick.bounds = false := by
    rw [fate_of_step run]
    exact Fate.expiredIf_eq_alive_iff.1
  cases body with
  | ember e | grain e =>
    cases (Runs.of_pure run).1
    cases wasMote
    refine ⟨_, rfl, rfl, rfl, fun isAlive => ?_⟩
    have left := alive isAlive
    simp only [isGone, Bool.or_eq_false_iff, decide_eq_false_iff_not, not_le,
      ExactScalar.zero_literal] at left
    exact left.1
  | _ => cases wasMote

end Body

/-! ## The course of an engine -/

/-- What may happen to an engine. -/
inductive Happening (α : Type) where
  | resized (width height : α)
  | passed (seconds : α)

namespace Engine

section Course

variable [Scalar α] [Words σ] [Units σ α]

/-- An engine after one happening. -/
def undergo (engine : Engine α σ) : Happening α → Except Fault (Engine α σ)
  | .resized width height => do return (← engine.rebuild width height).1
  | .passed seconds => do return (← engine.update seconds).1

/-- An engine after some happenings, in order. -/
def course (engine : Engine α σ) (happenings : List (Happening α)) : Except Fault (Engine α σ) :=
  happenings.foldlM undergo engine

/-- A body was born in one of the updates of a course, and the rest of the course came after it. -/
inductive Birth (first : Engine α σ) : List (Happening α) → Entity α → List (Happening α) → Prop
  | update {earlier later : List (Happening α)} {seconds : α} {before : Engine α σ}
      {newborn : List (Entity α)} {born : Entity α} :
    first.course earlier = .ok before → before.births seconds = .ok newborn → born ∈ newborn →
    Birth first (earlier ++ .passed seconds :: later) born later

variable {first engine after : Engine α σ} {earlier later happenings : List (Happening α)}
  {happening : Happening α} {born : Entity α}

theorem course_append (first : Engine α σ) (earlier later : List (Happening α)) :
    first.course (earlier ++ later) = first.course earlier >>= fun engine => engine.course later :=
  List.foldlM_append

theorem course_cons (first : Engine α σ) (happening : Happening α) (later : List (Happening α)) :
    first.course (happening :: later) = first.undergo happening >>= fun engine => engine.course later :=
  List.foldlM_cons

theorem of_course_snoc (run : first.course (earlier ++ [happening]) = .ok after) :
    ∃ engine, first.course earlier = .ok engine ∧ engine.undergo happening = .ok after := by
  rw [course_append] at run
  obtain ⟨engine, earlierRun, run⟩ := of_bind_eq_ok run
  rw [course_cons] at run
  obtain ⟨_, happeningRun, run⟩ := of_bind_eq_ok run
  cases of_pure_eq_ok run
  exact ⟨engine, earlierRun, happeningRun⟩

theorem Birth.snoc (birth : Birth first earlier born later) (happening : Happening α) :
    Birth first (earlier ++ [happening]) born (later ++ [happening]) := by
  cases birth with
  | update earlierRun bornRun bornAt =>
    rw [List.append_assoc, List.cons_append]
    exact .update earlierRun bornRun bornAt

/-- What a happening made of an engine is a new scene or an update. -/
theorem of_undergo (run : engine.undergo happening = .ok after) :
    (∃ width height events, happening = .resized width height ∧
        engine.rebuild width height = .ok (after, events)) ∨
      ∃ seconds events, happening = .passed seconds ∧ engine.update seconds = .ok (after, events) := by
  cases happening with
  | resized width height =>
    obtain ⟨⟨_, events⟩, changed, run⟩ := of_bind_eq_ok run
    cases of_pure_eq_ok run
    exact .inl ⟨width, height, events, rfl, changed⟩
  | passed seconds =>
    obtain ⟨⟨_, events⟩, changed, run⟩ := of_bind_eq_ok run
    cases of_pure_eq_ok run
    exact .inr ⟨seconds, events, rfl, changed⟩

/-- An engine that goes through a `course` goes on with its life. -/
theorem Lived.of_course {theme : Theme α} {scale : α} {seed : UInt64} {width height : α}
    {past : List (Engine α σ)} (lived : Lived theme scale seed width height past engine)
    (run : engine.course happenings = .ok after) :
    ∃ width' height' past', Lived theme scale seed width' height' past' after := by
  induction happenings generalizing engine width height past with
  | nil =>
    cases of_pure_eq_ok run
    exact ⟨_, _, _, lived⟩
  | cons happening later ih =>
    rw [course_cons] at run
    obtain ⟨middle, happeningRun, laterRun⟩ := of_bind_eq_ok run
    rcases of_undergo happeningRun with ⟨_, _, _, -, changed⟩ | ⟨_, _, -, changed⟩
    · exact ih (lived.rebuilt changed) laterRun
    · exact ih (lived.updated changed) laterRun

end Course

/-! ## Births and ages of motes -/

variable [ExactScalar α]

/-- The nominal frames that pass over some happenings. -/
def elapsed : List (Happening α) → α
  | [] => 0
  | .resized _ _ :: later => elapsed later
  | .passed seconds :: later => Motion.stepOf seconds + elapsed later

theorem elapsed_nonneg (happenings : List (Happening α)) : 0 ≤ elapsed happenings := by
  induction happenings with
  | nil => exact le_refl _
  | cons happening later ih =>
    cases happening with
    | resized => exact ih
    | passed seconds => exact add_nonneg (Motion.stepOf_mem seconds).1 ih

variable [Words σ] [Units σ α] {theme : Theme α} {scale width height : α} {seed : UInt64}
  {first engine after : Engine α σ} {past : List (Engine α σ)} {events : List (Event α)}
  {born : Entity α} {mote : Mote α} {age seconds : α} {newborn : List (Entity α)}
  {happening : Happening α} {happenings later : List (Happening α)}

/-- What has the identity of a newborn mote is that mote after `age` frames, with some of its life
left. -/
structure Ages (born : Entity α) (mote : Mote α) (age : α) (engine : Engine α σ) : Prop where
  old : born.id < engine.scene.nextId
  aged :
    ∀ entity ∈ engine.scene.entities, entity.id = born.id →
      ∃ aged, entity.body.mote? = some aged ∧ aged.maxLife = mote.maxLife ∧
        aged.life = mote.maxLife - age ∧ 0 < aged.life

/-- A new scene has no body of the identities that were handed out, so that what `Ages` says of them
still holds. -/
theorem Ages.of_rebuild (ages : Ages born mote age engine)
    (run : engine.rebuild width height = .ok (after, events)) : Ages born mote age after := by
  have old := ages.old
  obtain ⟨-, nextId⟩ := bore_of_rebuild run
  refine ⟨by omega, fun entity member sameId => ?_⟩
  have new := le_of_rebuild run member
  omega

/-- An update adds its step to the age of a mote, or the mote is gone. -/
theorem Ages.of_update (ages : Ages born mote age engine)
    (run : engine.update seconds = .ok (after, events)) :
    Ages born mote (age + Motion.stepOf seconds) after := by
  have old := ages.old
  obtain ⟨_, newborn, turned⟩ := turnover_of_update run
  obtain ⟨tick, nursery, begins, leaves⟩ := leaves_of_update run
  have nextId := turned.nextId
  refine ⟨by omega, fun entity member sameId => ?_⟩
  cases leaves entity member with
  | survivor formerAt formerId stepRun =>
    obtain ⟨former, wasMote, maxLife, life, -⟩ := ages.aged _ formerAt (formerId.trans sameId)
    obtain ⟨aged, isMote, same, less, alive⟩ := Body.mote_of_step stepRun wasMote
    refine ⟨aged, isMote, same.trans maxLife, ?_, alive rfl⟩
    rw [less, life, (of_outset begins).1, sub_sub]
  | newcomer births isNew =>
    cases turned.births.symm.trans births
    have new := turned.le_of_newborn isNew
    omega

/-- A course adds all frames that pass in it (`elapsed`) to the age of a mote. -/
theorem Ages.of_course (ages : Ages born mote age engine) (run : engine.course later = .ok after) :
    Ages born mote (age + elapsed later) after := by
  induction later generalizing engine age with
  | nil =>
    cases of_pure_eq_ok run
    rw [elapsed, add_zero]
    exact ages
  | cons happening later ih =>
    rw [course_cons] at run
    obtain ⟨middle, happeningRun, laterRun⟩ := of_bind_eq_ok run
    rcases of_undergo happeningRun with ⟨_, _, _, rfl, changed⟩ | ⟨_, _, rfl, changed⟩
    · exact ih (ages.of_rebuild changed) laterRun
    · rw [elapsed, ← add_assoc]
      exact ih (ages.of_update changed) laterRun

/-- A new scene of a `Gentle` theme has no motes. -/
theorem mote_of_rebuild (gentle : engine.theme.Gentle)
    (run : engine.rebuild width height = .ok (after, events)) :
    ∀ entity ∈ after.scene.entities, entity.body.mote? = none := by
  rintro ⟨id, body⟩ member
  obtain ⟨spec, specAt, slot, before, next, places, bearRun⟩ := scatters_of_rebuild run _ member
  cases isMote : body.mote? with
  | none => rfl
  | some mote =>
    cases Nursery.of_bear bearRun with
    | found kind =>
      have mortal : spec.kind.isMortal = true := by
        rw [← kind, ← Body.isSome_mote, isMote]
        rfl
      rw [gentle.population_eq_zero specAt mortal] at places
      cases places

/-- Every mote of a scene was born in an update (`Birth`). -/
theorem birth_of_mote (gentle : theme.Gentle)
    (begins : start theme scale seed width height = .ok (first, events))
    (run : first.course happenings = .ok engine) :
    ∀ entity ∈ engine.scene.entities, ∀ mote, entity.body.mote? = some mote →
      ∃ born later former, Birth first happenings born later ∧ born.id = entity.id ∧
        born.body.mote? = some former := by
  induction happenings using List.reverseRecOn generalizing engine with
  | nil =>
    intro entity member mote isMote
    cases of_pure_eq_ok run
    have none := mote_of_rebuild gentle begins entity member
    rw [isMote] at none
    cases none
  | append_singleton earlier happening ih =>
    intro entity member mote isMote
    obtain ⟨before, earlierRun, happeningRun⟩ := of_course_snoc run
    obtain ⟨_, _, _, lived⟩ := (Lived.started begins).of_course earlierRun
    rcases of_undergo happeningRun with ⟨_, _, _, rfl, changed⟩ | ⟨seconds, _, rfl, changed⟩
    · have none := mote_of_rebuild (lived.sound.theme_eq ▸ gentle) changed entity member
      rw [isMote] at none
      cases none
    · obtain ⟨tick, nursery, -, leaves⟩ := leaves_of_update changed
      cases leaves entity member with
      | survivor formerAt formerId stepRun =>
        have mortal := Body.isSome_mote entity.body
        rw [(Body.of_step stepRun).1, ← Body.isSome_mote, isMote] at mortal
        obtain ⟨former, wasMote⟩ := Option.isSome_iff_exists.1 mortal.symm
        obtain ⟨born, later, whole, birth, bornId, bornMote⟩ :=
          ih earlierRun _ formerAt former wasMote
        exact ⟨born, _, whole, birth.snoc _, bornId.trans formerId, bornMote⟩
      | newcomer births isNew =>
        exact ⟨entity, [], mote, .update earlierRun births isNew, rfl, isMote⟩

theorem Lived.id_lt (lived : Lived theme scale seed width height past engine) {entity : Entity α}
    (member : entity ∈ engine.scene.entities) : entity.id < engine.scene.nextId := by
  obtain ⟨layer, layerAt, entityAt⟩ := List.mem_flatMap.1 member
  exact lived.sound.issued engine List.mem_cons_self layer layerAt entity entityAt

variable [UnitRange σ α]

/-- What is born in an update is a `Body.Newborn` of the view. -/
theorem Lived.newborn_of_births (lived : Lived theme scale seed width height past engine)
    (births : engine.births seconds = .ok newborn) :
    ∀ entity ∈ newborn, entity.body.Newborn engine.scene.bounds := by
  obtain ⟨tick, nursery, begins, enters⟩ := enters_of_births births
  obtain ⟨target, source, -, rfl⟩ := wind_of_outset begins
  intro entity member
  obtain ⟨layer, -, entered⟩ := enters entity member
  exact lived.newborn_of_enters rfl entered

/-- A mote has its whole life ahead at the end of the update that it is born in. -/
theorem Lived.ages_of_births (lived : Lived theme scale seed width height past engine)
    (births : engine.births seconds = .ok newborn) (bornAt : born ∈ newborn)
    (isMote : born.body.mote? = some mote) (run : engine.update seconds = .ok (after, events)) :
    Ages born mote 0 after := by
  obtain ⟨_, _, turned⟩ := turnover_of_update run
  cases turned.births.symm.trans births
  obtain ⟨life, longLife⟩ := (lived.newborn_of_births births born bornAt).mote isMote
  have new := turned.le_of_newborn bornAt
  have issued : born.id ∈ List.range' engine.scene.nextId newborn.length :=
    turned.ids_born ▸ List.mem_map_of_mem bornAt
  have below := (List.mem_range'_1.1 issued).2
  refine ⟨turned.nextId ▸ below, fun entity member sameId => ?_⟩
  rcases turned.origin member with ⟨former, formerAt, formerId, -⟩ | isNew
  · have old := lived.id_lt formerAt
    omega
  · have distinct : (newborn.map Entity.id).Nodup := turned.ids_born ▸ List.nodup_range'
    obtain rfl : entity = born := List.inj_on_of_nodup_map distinct isNew bornAt sameId
    exact ⟨mote, isMote, rfl, by rw [life, sub_zero], by linarith⟩

/-- What was born in a course was newborn, and if it was a mote it has aged since (`Ages`). -/
theorem Birth.aged (birth : Birth first happenings born later)
    (lived : Lived theme scale seed width height past first)
    (run : first.course happenings = .ok engine) :
    (∃ bounds, born.body.Newborn bounds) ∧
      ∀ mote, born.body.mote? = some mote → Ages born mote (elapsed later) engine := by
  cases birth with
  | @update earlier _ seconds before newborn _ earlierRun births bornAt =>
    obtain ⟨_, _, _, livedBefore⟩ := lived.of_course earlierRun
    rw [course_append, earlierRun] at run
    change before.course (.passed seconds :: later) = _ at run
    rw [course_cons] at run
    obtain ⟨middle, updateRun, laterRun⟩ := of_bind_eq_ok run
    rcases of_undergo updateRun with ⟨_, _, _, resized, _⟩ | ⟨_, events, same, changed⟩
    · cases resized
    · cases same
      refine ⟨⟨_, livedBefore.newborn_of_births births born bornAt⟩, fun mote isMote => ?_⟩
      have ages := livedBefore.ages_of_births births bornAt isMote changed
      exact zero_add (elapsed later) ▸ ages.of_course laterRun

/-- No mote outlives the frames that it was born with. Over the `course` of an engine of a theme of
the catalogue, every ember and every grain of its scene has some life left, and no more than it was
born with. It was born in an update (`Birth`), and its life is what the frames that passed since
then (`elapsed`) have left of that. What is born in an update has less than 240 frames to live if it
is an ember and less than 300 if it is a grain, and nothing of its identity is in the scene once as
many frames have passed. -/
theorem motes_of_course (listed : theme ∈ Theme.all)
    (begins : start theme scale seed width height = .ok (first, events))
    (run : first.course happenings = .ok engine) :
    (∀ entity ∈ engine.scene.entities, ∀ mote, entity.body.mote? = some mote →
      0 < mote.life ∧ mote.life ≤ mote.maxLife ∧
      ∃ born later, Birth first happenings born later ∧ born.id = entity.id ∧
        mote.life = mote.maxLife - elapsed later) ∧
    ∀ born later, Birth first happenings born later →
      (∀ e, born.body = .ember e → e.maxLife < 240) ∧
      (∀ g, born.body = .grain g → g.maxLife < 300) ∧
      ∀ mote, born.body.mote? = some mote →
        (∀ entity ∈ engine.scene.entities, entity.id = born.id →
          ∃ aged, entity.body.mote? = some aged ∧ aged.maxLife = mote.maxLife ∧
            aged.life = mote.maxLife - elapsed later) ∧
        (mote.maxLife ≤ elapsed later → ∀ entity ∈ engine.scene.entities, entity.id ≠ born.id) := by
  have gentle := Theme.gentle_of_mem_all listed
  have newborn : ∀ born later, Birth first happenings born later →
      (∃ bounds, born.body.Newborn bounds) ∧
        ∀ mote, born.body.mote? = some mote → Ages born mote (elapsed later) engine :=
    fun born later birth => birth.aged (.started begins) run
  constructor
  · intro entity member mote isMote
    obtain ⟨born, later, former, birth, sameId, wasMote⟩ :=
      birth_of_mote gentle begins run entity member mote isMote
    have ages := (newborn born later birth).2 former wasMote
    obtain ⟨aged, isAged, maxLife, life, alive⟩ := ages.aged entity member sameId.symm
    obtain rfl : mote = aged := Option.some.inj (isMote.symm.trans isAged)
    rw [← maxLife] at life
    have passed := elapsed_nonneg later
    exact ⟨alive, by linarith, born, later, birth, sameId, life⟩
  · intro born later birth
    obtain ⟨⟨bounds, fresh⟩, ages⟩ := newborn born later birth
    refine ⟨fun e isEmber => ?_, fun g isGrain => ?_, fun mote isMote => ⟨?_, ?_⟩⟩
    · rw [isEmber] at fresh
      exact fresh.maxLife_lt
    · rw [isGrain] at fresh
      exact fresh.maxLife_lt
    · intro entity member sameId
      obtain ⟨aged, isAged, maxLife, life, -⟩ := (ages mote isMote).aged entity member sameId
      exact ⟨aged, isAged, maxLife, life⟩
    · intro spent entity member sameId
      obtain ⟨aged, -, -, life, alive⟩ := (ages mote isMote).aged entity member sameId
      linarith

/-- A tenth of a second, a second that runs backward and another tenth of a second. -/
def stutter : List (Happening ℚ) := [.passed 0.1, .passed (-1), .passed 0.1]

/-- A small fire at its start, what is born in its first update, and the fire after a stutter. -/
def youngFire :
    Except Fault (Engine ℚ Random.Stream × List (Entity ℚ) × Engine ℚ Random.Stream) := do
  let (first, _) ← start Theme.embers 1 9 8 8
  let newborn ← first.births 0.1
  let engine ← first.course stutter
  return (first, newborn, engine)

/-- Four frames have passed for an ember that was born in the first update of a `stutter`. -/
theorem motes_of_youngFire :
    ∃ (first engine : Engine ℚ Random.Stream) (born entity : Entity ℚ) (mote aged : Mote ℚ),
      first.course stutter = .ok engine ∧
      Birth first stutter born [.passed (-1), .passed 0.1] ∧ born.body.mote? = some mote ∧
      entity ∈ engine.scene.entities ∧ entity.id = born.id ∧ entity.body.mote? = some aged ∧
      0 < aged.life ∧ aged.life = mote.maxLife - 4 := by
  have ends : youngFire.toOption.any (fun fire =>
      (fire.2.1.any fun born => born.id == 2 && born.body.mote?.isSome) &&
      (fire.2.2.scene.entities.any fun entity => entity.id == 2)) = true := by
    decide +kernel
  obtain ⟨⟨first, newborn, engine⟩, run, checked⟩ := of_any_toOption ends
  obtain ⟨⟨_, _⟩, firstRun, run⟩ := of_bind_eq_ok run
  obtain ⟨_, births, run⟩ := of_bind_eq_ok run
  obtain ⟨_, engineRun, run⟩ := of_bind_eq_ok run
  cases of_pure_eq_ok run
  simp only [Bool.and_eq_true, List.any_eq_true, beq_iff_eq] at checked
  obtain ⟨⟨born, bornAt, bornId, isSome⟩, entity, member, entityId⟩ := checked
  obtain ⟨mote, isMote⟩ := Option.isSome_iff_exists.1 isSome
  have listed : (Theme.embers : Theme ℚ) ∈ Theme.all := by
    simp only [Theme.all, List.mem_cons, true_or, or_true]
  obtain ⟨motes, births_of⟩ := motes_of_course listed firstRun engineRun
  have birth : Birth first ([] ++ stutter) born [.passed (-1), .passed 0.1] :=
    .update rfl births bornAt
  obtain ⟨-, -, ages⟩ := births_of born _ birth
  obtain ⟨aged, isAged, -, life⟩ := (ages mote isMote).1 entity member (entityId.trans bornId.symm)
  have frames : elapsed [.passed (-1), .passed (0.1 : ℚ)] = 4 := by decide +kernel
  rw [frames] at life
  exact ⟨first, engine, born, entity, mote, aged, engineRun, birth, isMote, member,
    entityId.trans bornId.symm, isAged, (motes entity member aged isAged).1, life⟩

end Engine

end Ambience
