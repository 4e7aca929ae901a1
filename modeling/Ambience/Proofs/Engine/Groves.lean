import Ambience.Proofs.Engine.Newcomers
import Ambience.Proofs.Engine.Terrain

/-!
# Groves

The slots of a layer of stalks part the width of the view into equal strips, and each stalk is drawn
into the middle of the strip of its slot. Stalks are never renewed and never move, so that a grove
stands as it was drawn for as long as its scene lasts.
-/

namespace Ambience

variable {α σ : Type} [ExactScalar α] [Units σ α] [UnitRange σ α]

/-! ## Stalks -/

namespace Stalk

/-- How far into its strip a stalk is drawn, in strips. -/
def Share (σ : Type) [Units σ α] (share : α) : Prop :=
  ∃ source after : σ, Runs (Draw.uniform 0.15 0.85) source share after

theorem Share.mem {share : α} (drawn : Share σ share) : 3 / 20 ≤ share ∧ share < 17 / 20 := by
  obtain ⟨_, _, run⟩ := drawn
  obtain ⟨low, high⟩ := Draw.of_uniform run
  rw [ExactScalar.literal_eq] at low high
  norm_num at low high
  exact ⟨low, high⟩

omit [UnitRange σ α] in
/-- A stalk stands at a drawn `Share` of the strip of its slot, brought into the view. -/
theorem of_spawn [Words σ] {site : Site α} {source after : σ} {s : Stalk α}
    (run : Runs (spawn site) source s after) :
    ∃ share : α, Share σ share ∧
      s.x = Scalar.clamp
        ((site.slot + share) * (site.bounds.width / (max site.population 1 : Nat))) 0.0
        site.bounds.width := by
  obtain ⟨share, middle, shareRun, run⟩ := Runs.of_bind run
  obtain ⟨sunk, _, _, run⟩ := Runs.of_bind run
  obtain ⟨height, _, _, run⟩ := Runs.of_bind run
  obtain ⟨girth, _, _, run⟩ := Runs.of_bind run
  obtain ⟨nodes, _, _, run⟩ := Runs.of_bind run
  obtain ⟨opacity, _, _, run⟩ := Runs.of_bind run
  obtain ⟨sway, _, _, run⟩ := Runs.of_bind run
  cases (Runs.of_pure run).1
  refine ⟨share, ⟨source, middle, shareRun⟩, ?_⟩
  rw [← ExactScalar.ofNat_eq site.slot, ← ExactScalar.ofNat_eq (max site.population 1)]

/-- A stalk that was drawn in a slot of a layer, some share of a strip behind the strips of the slots
before it. -/
structure Planted (σ : Type) [Units σ α] (width : α) (population slot : Nat) (s : Stalk α)
    (share : α) : Prop where
  drawn : Share σ share
  x_eq : s.x = (slot + share) * (width / population)
  /-- The strips lie in the view. -/
  clamp_eq : Scalar.clamp ((slot + share) * (width / population)) 0.0 width = s.x

/-- A stalk is born `Planted` in its strip: bringing it into the view does not move it. -/
theorem planted_of_spawn [Words σ] {site : Site α} {source after : σ} {s : Stalk α}
    (wide : 0 ≤ site.bounds.width) (among : site.slot < site.population)
    (run : Runs (spawn site) source s after) :
    ∃ share, s.Planted σ site.bounds.width site.population site.slot share := by
  obtain ⟨share, drawn, x_eq⟩ := of_spawn run
  rw [max_eq_left (Nat.one_le_of_lt among)] at x_eq
  have positive : (0 : α) < site.population := by exact_mod_cast Nat.zero_lt_of_lt among
  have strip : 0 ≤ site.bounds.width / (site.population : α) := div_nonneg wide positive.le
  have first : (0 : α) ≤ site.slot + share :=
    add_nonneg (Nat.cast_nonneg _) (by linarith [drawn.mem.1])
  have last : (site.slot : α) + share ≤ site.population := by
    have next : (site.slot : α) + 1 ≤ site.population := by exact_mod_cast among
    linarith [drawn.mem.2]
  have inside : (site.slot + share) * (site.bounds.width / site.population) ≤ site.bounds.width :=
    calc (site.slot + share) * (site.bounds.width / site.population)
        ≤ site.population * (site.bounds.width / site.population) :=
          mul_le_mul_of_nonneg_right last strip
      _ = site.bounds.width := mul_div_cancel₀ _ positive.ne'
  have kept : Scalar.clamp ((site.slot + share) * (site.bounds.width / site.population)) 0.0
      site.bounds.width = (site.slot + share) * (site.bounds.width / site.population) := by
    rw [ExactScalar.clamp_eq, ExactScalar.zero_literal, max_eq_left (mul_nonneg first strip),
      min_eq_left inside]
  exact ⟨share, drawn, x_eq.trans kept, x_eq.symm⟩

variable {width : α} {population slot slot' : Nat} {s s' : Stalk α} {share share' : α}

/-- A `Planted` stalk stands strictly inside its strip. -/
theorem Planted.mem_strip (strip : 0 < width / (population : α))
    (planted : s.Planted σ width population slot share) :
    slot * (width / population) < s.x ∧ s.x < (slot + 1) * (width / population) := by
  obtain ⟨low, high⟩ := planted.drawn.mem
  rw [planted.x_eq]
  constructor
  · exact mul_lt_mul_of_pos_right (by linarith) strip
  · exact mul_lt_mul_of_pos_right (by linarith) strip

omit [UnitRange σ α] in
/-- What the generator does to keep a stalk in the view does keep it there. -/
theorem Planted.mem_view (wide : 0 ≤ width) (planted : s.Planted σ width population slot share) :
    0 ≤ s.x ∧ s.x ≤ width := by
  rw [← planted.clamp_eq, ExactScalar.clamp_eq, ExactScalar.zero_literal]
  exact ⟨le_min (le_max_right _ _) wide, min_le_right _ _⟩

/-- Stalks of different slots are three tenths of a strip apart or more, the one of the earlier slot
in front. -/
theorem Planted.gap_le (strip : 0 ≤ width / (population : α))
    (planted : s.Planted σ width population slot share)
    (planted' : s'.Planted σ width population slot' share') (lt : slot < slot') :
    s.x + 3 / 10 * (width / population) ≤ s'.x := by
  have next : (slot : α) + 1 ≤ slot' := by exact_mod_cast lt
  have apart : slot + share + 3 / 10 ≤ slot' + share' := by
    linarith [planted.drawn.mem.2, planted'.drawn.mem.1]
  rw [planted.x_eq, planted'.x_eq, ← add_mul]
  exact mul_le_mul_of_nonneg_right apart strip

end Stalk

/-! ## Layers of stalks -/

/-- A layer whose bodies are stalks, each in the strip of its place. -/
def Layer.Planted (σ : Type) [Units σ α] (width : α) (layer : Layer α) : Prop :=
  ∀ (i : Nat) (entity : Entity α), layer.entities[i]? = some entity →
    ∃ s share, entity.body = .stalk s ∧ s.Planted σ width layer.entities.length i share

variable [Words σ] {width : α}

/-- A stalk that is born in a nursery is `Planted` in the strip of its slot. -/
theorem Nursery.planted_of_bear {site : Site α} {nursery after : Nursery α σ} {entity : Entity α}
    (wide : 0 ≤ site.bounds.width) (among : site.slot < site.population)
    (run : Runs (bear .stalk site) nursery (some entity) after) :
    ∃ s share, entity.body = .stalk s ∧
      s.Planted σ site.bounds.width site.population site.slot share := by
  obtain ⟨_, _, spawnRun, -, -⟩ := spawn_of_bear run
  obtain ⟨s, _, stalkRun, spawnRun⟩ := Runs.of_bind spawnRun
  obtain ⟨share, planted⟩ := Stalk.planted_of_spawn wide among stalkRun
  obtain ⟨found, -⟩ := Prod.mk.inj (Runs.of_pure spawnRun).1
  exact ⟨s, share, Option.some.inj found, planted⟩

namespace Layer

variable {nursery after : Nursery α σ}

theorem planted_of_build {spec : LayerSpec α} {bounds : Bounds α} {wind scale : α}
    {built : Layer α × List Nat} (wide : 0 ≤ bounds.width) (stalks : spec.kind = .stalk)
    (run : Runs (build spec bounds wind scale) nursery built after) :
    built.1.Planted σ bounds.width := by
  have free : spec.kind.isPlaced = false := congrArg Kind.isPlaced stalks
  have length := (Built.of_filled (of_build run).1 (of_build run).2).length_eq free
  obtain ⟨⟨entities, missing⟩, _, fillRun, run⟩ := Runs.of_bind run
  obtain ⟨rfl, rfl⟩ := Runs.of_pure run
  intro i entity found
  obtain ⟨before, next, bearRun⟩ := Nursery.bear_of_fill free fillRun found
  have among : i < spec.density.population bounds scale :=
    lt_of_lt_of_eq (List.getElem?_eq_some_iff.1 found).1 length
  rw [stalks, Nat.zero_add] at bearRun
  rw [length]
  exact Nursery.planted_of_bear wide among bearRun

omit [UnitRange σ α] in
/-- An update leaves every stalk where it is. -/
theorem Advances.planted {tick : Tick α} {layer result : Layer α} {dropped : Nat}
    (advances : Advances layer tick nursery after result dropped)
    (homogeneous : layer.Homogeneous) (fixed : layer.Fixed) (stalks : layer.spec.kind = .stalk)
    (planted : layer.Planted σ width) : result.Planted σ width := by
  have rooted : layer.spec.kind.isRooted = true := congrArg Kind.isRooted stalks
  obtain ⟨stays, -⟩ := advances.stays homogeneous (fixed rooted) rooted
  intro i entity found
  obtain ⟨⟨id, body⟩, formerAt, -, bodyStays⟩ := getElem?_of_forall₂ stays.flip found
  obtain ⟨s, share, rfl, drawn⟩ := planted i _ formerAt
  rw [← stays.length_eq]
  generalize entity.body = body at bodyStays
  cases bodyStays
  exact ⟨_, share, rfl, drawn.drawn, drawn.x_eq, drawn.clamp_eq⟩

end Layer

/-! ## Scenes -/

namespace Engine

variable {engine after : Engine α σ} {theme : Theme α} {scale height : α} {seed : UInt64}
  {past : List (Engine α σ)} {events : List (Event α)}

/-- The stalks of every layer stand in the strips of their places. -/
def Planted (width : α) (engine : Engine α σ) : Prop :=
  ∀ layer ∈ engine.scene.layers, layer.spec.kind = .stalk → layer.Planted σ width

/-- All stalks of a new scene are planted. -/
theorem planted_of_rebuild (run : engine.rebuild width height = .ok (after, events)) :
    after.Planted (Bounds.of width height).width := by
  obtain ⟨nursery, ended, built, -, buildRun, rfl⟩ := of_rebuild run
  intro layer member stalks
  obtain ⟨result, resultAt, rfl⟩ := List.mem_map.1 member
  obtain ⟨spec, -, before, next, layerRun⟩ := Layer.build_of_buildAll buildRun result resultAt
  rw [(Layer.of_build layerRun).1] at stalks
  exact Layer.planted_of_build (Bounds.width_nonneg width height) stalks layerRun

/-- The stalks of an engine stand as they were planted, from one scene to the next. -/
theorem Lived.planted (fixed : ∀ spec ∈ theme.layers, spec.kind.isRooted = true →
      spec.density.isTransient = false)
    (lived : Lived theme scale seed width height past engine) :
    engine.Planted (Bounds.of width height).width := by
  induction lived with
  | started run => exact planted_of_rebuild run
  | rebuilt _ run => exact planted_of_rebuild run
  | updated lived run ih =>
    intro result member stalks
    have populated := lived.sound.populated
    obtain ⟨layer, layerAt, _, _, _, _, _, -, advances⟩ := advances_to_of_update lived run member
    rw [advances.spec_eq] at stalks
    exact advances.planted (populated.homogeneous layer layerAt)
      (populated.forall_spec fixed layer layerAt) stalks (ih layer layerAt stalks)

/-- Bamboo neither clumps nor leaves the view. In a grove of any width, a layer of `n` stalks has a
strip for each of them, and the stalk of a slot stands in its strip: a drawn share of it behind the
strips before it, which `Scalar.clamp` leaves as it is. So the stalks stand in the view in the order
of their slots, three tenths of a strip apart or more, from the birth of a scene until the next
one. -/
theorem stalks_of_lived (lived : Lived Theme.bamboo scale seed width height past engine)
    (wide : 0 < width) {layer : Layer α} (member : layer ∈ engine.scene.layers)
    (stalks : layer.spec.kind = .stalk) {n : Nat} (size : layer.entities.length = n) :
    (∀ (i : Nat) (entity : Entity α), layer.entities[i]? = some entity →
      ∃ (s : Stalk α) (share : α) (source rest : σ), entity.body = .stalk s ∧
        Runs (Draw.uniform 0.15 0.85) source share rest ∧ s.x = (i + share) * (width / n) ∧
        Scalar.clamp ((i + share) * (width / n)) 0.0 width = (i + share) * (width / n) ∧
        i * (width / n) < s.x ∧ s.x < (i + 1) * (width / n) ∧ 0 ≤ s.x ∧ s.x ≤ width) ∧
    ∀ (i j : Nat) (entity entity' : Entity α), i < j → layer.entities[i]? = some entity →
      layer.entities[j]? = some entity' →
      ∃ s s' : Stalk α, entity.body = .stalk s ∧ entity'.body = .stalk s' ∧
        s.x < s'.x ∧ s.x + 3 / 10 * (width / n) ≤ s'.x := by
  have planted := lived.planted (lasts_of_all rfl) layer member stalks
  have sameWidth : (Bounds.of width height).width = width := ExactScalar.restrict_of_nonneg wide.le
  rw [sameWidth] at planted
  subst size
  have strip : ∀ {i : Nat} {entity : Entity α}, layer.entities[i]? = some entity →
      0 < width / (layer.entities.length : α) := by
    intro i entity found
    have among := (List.getElem?_eq_some_iff.1 found).1
    exact div_pos wide (by exact_mod_cast Nat.zero_lt_of_lt among)
  constructor
  · intro i entity found
    obtain ⟨s, share, isStalk, drawn⟩ := planted i entity found
    obtain ⟨source, rest, run⟩ := drawn.drawn
    obtain ⟨after, before⟩ := drawn.mem_strip (strip found)
    obtain ⟨left, right⟩ := drawn.mem_view wide.le
    exact ⟨s, share, source, rest, isStalk, run, drawn.x_eq, drawn.clamp_eq.trans drawn.x_eq, after,
      before, left, right⟩
  · intro i j entity entity' lt found found'
    obtain ⟨s, share, isStalk, drawn⟩ := planted i entity found
    obtain ⟨s', share', isStalk', drawn'⟩ := planted j entity' found'
    have apart := drawn.gap_le (strip found).le drawn' lt
    have positive : 0 < 3 / 10 * (width / (layer.entities.length : α)) :=
      mul_pos (by norm_num) (strip found)
    exact ⟨s, s', isStalk, isStalk', by linarith, apart⟩

/-- A small grove at its start and a tenth of a second later. -/
def smallGrove : Except Fault (Engine ℚ Random.Stream × Engine ℚ Random.Stream) := do
  let (engine, _) ← start Theme.bamboo 1 5 120 60
  let (later, _) ← engine.update 0.1
  return (engine, later)

/-- The two stalks in front of a small grove stand in its two halves, after an update as before. -/
theorem stalks_of_smallGrove :
    ∃ (engine later : Engine ℚ Random.Stream) (layer : Layer ℚ) (first second : Entity ℚ)
      (s s' : Stalk ℚ),
      Lived Theme.bamboo 1 5 120 60 [engine] later ∧ layer ∈ later.scene.layers ∧
      layer.entities = [first, second] ∧ first.body = .stalk s ∧ second.body = .stalk s' ∧
      0 < s.x ∧ s.x < 60 ∧ 60 < s'.x ∧ s'.x < 120 ∧ s.x + 18 ≤ s'.x := by
  have ends : smallGrove.toOption.any (fun ⟨_, later⟩ =>
      later.scene.layers[2]?.any fun layer =>
        layer.spec.kind == .stalk && layer.entities.length == 2) = true := by
    decide +kernel
  obtain ⟨⟨engine, later⟩, run, checked⟩ := of_any_toOption ends
  obtain ⟨⟨_, _⟩, startRun, run⟩ := of_bind_eq_ok run
  obtain ⟨⟨_, _⟩, updateRun, run⟩ := of_bind_eq_ok run
  cases of_pure_eq_ok run
  obtain ⟨layer, found, checked⟩ := Option.any_eq_true _ _ |>.1 checked
  rw [Bool.and_eq_true, beq_iff_eq, beq_iff_eq] at checked
  obtain ⟨stalks, size⟩ := checked
  obtain ⟨first, second, entities⟩ := List.length_eq_two.1 size
  have lived : Lived Theme.bamboo 1 5 120 60 [engine] later :=
    (Lived.started startRun).updated updateRun
  have member := List.mem_of_getElem? found
  obtain ⟨places, gaps⟩ := stalks_of_lived lived (by norm_num) member stalks size
  have firstAt : layer.entities[0]? = some first := by
    rw [entities]
    rfl
  have secondAt : layer.entities[1]? = some second := by
    rw [entities]
    rfl
  obtain ⟨s, _, _, _, isFirst, -, -, -, after, before, -, -⟩ := places 0 first firstAt
  obtain ⟨s', _, _, _, isSecond, -, -, -, after', before', -, -⟩ := places 1 second secondAt
  obtain ⟨_, _, same, same', -, gap⟩ := gaps 0 1 first second Nat.zero_lt_one firstAt secondAt
  cases isFirst.symm.trans same
  cases isSecond.symm.trans same'
  norm_num at after before after' before' gap
  exact ⟨engine, later, layer, first, second, s, s', lived, member, entities, isFirst, isSecond,
    after, before, after', before', gap⟩

end Engine

end Ambience
