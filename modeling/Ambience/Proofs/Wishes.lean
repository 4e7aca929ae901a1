import Ambience.Params
import Ambience.Proofs.Scalar.Exact

/-!
# Later parameters win

Records of parameters are merged as they come, and the controls and the theme are taken out of what
has accumulated (`AccumulatedParams`) now and then. When that happens makes no difference to the
controls that it leads to: of each control the last value counts that any record gave, and a theme is
given to the first that takes one after it was merged.
-/

namespace Ambience

/-! ## The last of many writes -/

section Writes

variable {γ δ β : Type}

/-- Where each item overwrites what is read or leaves it alone, the last one that overwrites it is
read in the end. -/
theorem foldl_latest (read : γ → Option β) (write : γ → δ → γ) (field : δ → Option β) {items : List δ}
    (writes : ∀ item ∈ items, ∀ state, read (write state item) = (field item).or (read state))
    (state : γ) :
    read (items.foldl write state) = (items.filterMap field).getLast?.or (read state) := by
  induction items generalizing state with
  | nil => rfl
  | cons item later ih =>
    have rest := ih (fun other member => writes other (List.mem_cons_of_mem _ member))
      (write state item)
    rw [writes item List.mem_cons_self] at rest
    rw [List.foldl_cons, rest, List.filterMap_cons]
    cases field item with
    | none => rfl
    | some value => rw [Option.some_or, Option.or_some, List.getLast?_cons, Option.some_or]

/-- The same where there is always something to read. -/
theorem foldl_last (read : γ → β) (write : γ → δ → γ) (field : δ → Option β)
    (writes : ∀ state item, read (write state item) = (field item).getD (read state))
    (items : List δ) (state : γ) :
    read (items.foldl write state) = (items.filterMap field).getLast?.getD (read state) := by
  have found := foldl_latest (some ∘ read) write field
    (fun item (_ : item ∈ items) state => by
      rw [Function.comp, writes, Function.comp, Option.or_some]) state
  rw [Function.comp, Function.comp, Option.or_some] at found
  exact Option.some.inj found

end Writes

variable {α : Type} [Scalar α]

/-! ## Controls -/

namespace Params

/-- The controls with the wishes of a record. -/
def applied (controls : Controls α) (record : Params α) : Controls α :=
  (record.takeControls controls).1

/-- What one record makes of the controls, one by one: what it gives, an opacity being brought into
its range, and else what was there. -/
theorem applied_eq (controls : Controls α) (record : Params α) :
    applied controls record =
      { dark := record.dark.getD controls.dark
        opacity := (record.opacity.map Opacity.restrict).getD controls.opacity
        active := record.active.getD controls.active } := by
  unfold applied takeControls
  cases record.opacity <;> rfl

/-- Wishes that are merged lead to the controls that they lead to one after the other. -/
theorem applied_merge (controls : Controls α) (collected record : Params α) :
    applied controls (collected.merge record) = applied (applied controls collected) record := by
  rw [applied_eq, applied_eq, applied_eq]
  simp only [merge, Option.orElse_eq_orElse, Option.orElse_eq_or, Option.getD_or, Option.map_or]

end Params

/-- Controls that some records lead to, whichever way they were merged and taken: of each control the
last value that a record gave. -/
structure Controls.Latest (start : Controls α) (records : List (Params α)) (controls : Controls α) :
    Prop where
  dark_eq : controls.dark = (records.filterMap Params.dark).getLast?.getD start.dark
  active_eq : controls.active = (records.filterMap Params.active).getLast?.getD start.active
  opacity_kept :
    (records.filterMap Params.opacity).getLast? = none → controls.opacity = start.opacity
  opacity_clamped :
    ∀ setting, (records.filterMap Params.opacity).getLast? = some setting →
      Scalar.isNumber setting = true → controls.opacity = Scalar.clamp setting 0.0 100.0
  opacity_neutral :
    ∀ setting, (records.filterMap Params.opacity).getLast? = some setting →
      Scalar.isNumber setting = false → controls.opacity = 50.0

/-- Records that are applied one by one end in the `Controls.Latest` of them. -/
theorem Params.latest_of_applied (start : Controls α) (records : List (Params α)) :
    Controls.Latest start records (records.foldl applied start) := by
  have opacity := foldl_last Controls.opacity applied
    (fun record => record.opacity.map Opacity.restrict) (fun controls record => by rw [applied_eq])
    records start
  rw [← List.map_filterMap, List.getLast?_map] at opacity
  constructor
  · exact foldl_last Controls.dark applied dark (fun controls record => by rw [applied_eq])
      records start
  · exact foldl_last Controls.active applied active (fun controls record => by rw [applied_eq])
      records start
  · intro missing
    rw [opacity, missing]
    rfl
  · intro setting found number
    rw [opacity, found]
    exact if_pos number
  · intro setting found number
    rw [opacity, found]
    exact if_neg (Bool.eq_false_iff.1 number)

/-! ## Merging and taking -/

/-- What is done with accumulated parameters: a record is merged into them, or the controls or the
theme are taken out of them. -/
inductive ParamsOperation (α : Type) where
  | merge (record : Params α)
  | takeControls
  | takeTheme

/-- The record that is merged. -/
def ParamsOperation.record? : ParamsOperation α → Option (Params α)
  | .merge record => some record
  | _ => none

/-- The parameters that were merged and not yet taken, with the controls and the themes that were
taken out of them so far. -/
structure AccumulatedParams (α : Type) where
  pending : Params α
  controls : Controls α
  themes : List (Option String)

namespace AccumulatedParams

/-- Nothing was merged yet. -/
def initial (start : Controls α) : AccumulatedParams α := ⟨.none, start, []⟩

/-- The accumulated parameters after one operation. -/
def perform (state : AccumulatedParams α) : ParamsOperation α → AccumulatedParams α
  | .merge record => { state with pending := state.pending.merge record }
  | .takeControls =>
    { state with
      pending := (state.pending.takeControls state.controls).2
      controls := (state.pending.takeControls state.controls).1 }
  | .takeTheme =>
    { state with
      pending := state.pending.takeTheme.2
      themes := state.themes ++ [state.pending.takeTheme.1] }

/-- The accumulated parameters after some operations, in order. -/
def run (state : AccumulatedParams α) (operations : List (ParamsOperation α)) :
    AccumulatedParams α :=
  operations.foldl perform state

/-- The controls that would be taken now. -/
def due (state : AccumulatedParams α) : Controls α := state.pending.applied state.controls

/-- One operation changes what is `due` by the record that it merges, if it merges one. -/
theorem due_perform (state : AccumulatedParams α) (operation : ParamsOperation α) :
    (state.perform operation).due = operation.record?.toList.foldl Params.applied state.due := by
  cases operation with
  | merge record => exact Params.applied_merge state.controls state.pending record
  | takeControls => rfl
  | takeTheme => rfl

/-- Whatever was taken in between, the controls that are `due` are those that the merged records
lead to. -/
theorem due_run (state : AccumulatedParams α) (operations : List (ParamsOperation α)) :
    (state.run operations).due =
      (operations.filterMap ParamsOperation.record?).foldl Params.applied state.due := by
  induction operations generalizing state with
  | nil => rfl
  | cons operation later ih =>
    have rest := ih (state.perform operation)
    rw [due_perform] at rest
    rw [run, List.foldl_cons, List.filterMap_cons]
    cases operation with
    | merge record => exact rest
    | takeControls | takeTheme => exact rest

theorem run_append (state : AccumulatedParams α) (operations later : List (ParamsOperation α)) :
    state.run (operations ++ later) = (state.run operations).run later :=
  List.foldl_append

/-- The controls that are taken are those that were `due`. -/
theorem controls_taken (state : AccumulatedParams α) (operations : List (ParamsOperation α)) :
    (state.run (operations ++ [.takeControls])).controls = (state.run operations).due := by
  rw [run_append]
  rfl

/-- The operations of some batches: the records of each are merged and the controls taken after
them. -/
def batched (cut : List (List (Params α))) : List (ParamsOperation α) :=
  cut.flatMap fun batch => batch.map .merge ++ [.takeControls]

omit [Scalar α] in
/-- The records that the operations of some batches merge are those of the batches, in order. -/
theorem records_batched (cut : List (List (Params α))) :
    (batched cut).filterMap ParamsOperation.record? = cut.flatten := by
  have merged : ∀ batch : List (Params α),
      (batch.map ParamsOperation.merge).filterMap ParamsOperation.record? = batch := by
    intro batch
    rw [List.filterMap_map]
    exact List.filterMap_some
  induction cut with
  | nil => rfl
  | cons batch later ih =>
    rw [batched] at ih ⊢
    rw [List.flatMap_cons, List.filterMap_append, List.filterMap_append, merged, ih]
    exact congrArg (· ++ later.flatten) (List.append_nil batch)

/-- However records are cut into batches, the controls end where `Params.applied` leads record by
record. -/
theorem controls_batched (start : Controls α) (cut : List (List (Params α))) :
    ((initial start).run (batched cut)).controls = cut.flatten.foldl Params.applied start := by
  -- Every batch ends with a taking, so that nothing is left to take after the last one.
  have due : ((initial start).run (batched cut)).controls =
      ((initial start).run (batched cut)).due := by
    rcases List.eq_nil_or_concat cut with rfl | ⟨earlier, batch, rfl⟩
    · rfl
    · rw [batched, List.concat_eq_append, List.flatMap_append, List.flatMap_singleton,
        ← List.append_assoc, run_append]
      rfl
  rw [due, due_run, records_batched]
  rfl

/-! ## Themes -/

/-- Until a theme is taken, the last one that was merged stays pending. -/
theorem theme_run {since : List (ParamsOperation α)}
    (kept : ∀ operation ∈ since, operation ≠ .takeTheme) (state : AccumulatedParams α) :
    (state.run since).pending.theme =
      ((since.filterMap ParamsOperation.record?).filterMap Params.theme).getLast?.or
        state.pending.theme := by
  rw [List.filterMap_filterMap]
  refine foldl_latest (fun state => state.pending.theme) perform _
    (fun operation member state => ?_) state
  cases operation with
  | merge record => exact Option.orElse_eq_or
  | takeControls => rfl
  | takeTheme => exact (kept _ member rfl).elim

theorem themes_run {since : List (ParamsOperation α)}
    (kept : ∀ operation ∈ since, operation ≠ .takeTheme) (state : AccumulatedParams α) :
    (state.run since).themes = state.themes := by
  induction since generalizing state with
  | nil => rfl
  | cons operation later ih =>
    have rest := ih (fun other member => kept other (List.mem_cons_of_mem _ member))
      (state.perform operation)
    rw [run, List.foldl_cons]
    cases operation with
    | merge record => exact rest
    | takeControls => exact rest
    | takeTheme => exact (kept _ List.mem_cons_self rfl).elim

/-- No theme is pending where one was just taken. -/
theorem theme_taken {earlier : List (ParamsOperation α)} (start : Controls α)
    (taken : earlier = [] ∨ earlier.getLast? = some .takeTheme) :
    ((initial start).run earlier).pending.theme = none := by
  rcases taken with rfl | last
  · rfl
  · obtain ⟨before, rfl⟩ := List.getLast?_eq_some_iff.1 last
    rw [run_append]
    rfl

/-- Later parameters win, whatever the batching. However records are merged and the controls taken in
between, the controls end as the `Controls.Latest` of the records: of each the last value counts that
a record gave, and the one to begin with if none did; the opacity is brought between 0 and 100, and to
50 if it is not a number. So all cuts of the same records into batches, after each of which the
controls are taken (`batched`), end with the same controls. A theme that is taken is the last one that
was merged since the one before was taken, if any was. -/
theorem latest_of_run (start : Controls α) :
    (∀ operations : List (ParamsOperation α),
      Controls.Latest start (operations.filterMap ParamsOperation.record?)
        ((initial start).run (operations ++ [.takeControls])).controls) ∧
    (∀ cut : List (List (Params α)),
      Controls.Latest start cut.flatten ((initial start).run (batched cut)).controls) ∧
    (∀ cut cut' : List (List (Params α)), cut.flatten = cut'.flatten →
      ((initial start).run (batched cut)).controls =
        ((initial start).run (batched cut')).controls) ∧
    ∀ earlier since : List (ParamsOperation α),
      (earlier = [] ∨ earlier.getLast? = some .takeTheme) →
      (∀ operation ∈ since, operation ≠ .takeTheme) →
      ((initial start).run (earlier ++ since ++ [.takeTheme])).themes =
        ((initial start).run earlier).themes ++
          [((since.filterMap ParamsOperation.record?).filterMap Params.theme).getLast?] := by
  refine ⟨fun operations => ?_, fun cut => ?_, fun cut cut' same => ?_,
    fun earlier since taken kept => ?_⟩
  · rw [controls_taken, due_run]
    exact Params.latest_of_applied start _
  · rw [controls_batched]
    exact Params.latest_of_applied start _
  · rw [controls_batched, controls_batched, same]
  · have theme := theme_run kept ((initial start).run earlier)
    rw [theme_taken start taken, Option.or_none] at theme
    have themes := themes_run kept ((initial start).run earlier)
    rw [run_append, run_append, ← theme, ← themes]
    rfl

/-- A knob turned too far, and a light palette for another theme. -/
def requests : List (Params ℚ) :=
  [⟨.none, .none, some 300, .none⟩, ⟨some "zen", some false, .none, .none⟩]

/-- Two records lead to the same controls together and one by one, and the theme is given once. -/
theorem latest_of_requests :
    ((initial Controls.initial).run (batched [requests])).controls.dark = false ∧
    ((initial Controls.initial).run (batched [requests])).controls.opacity = 100 ∧
    ((initial Controls.initial).run (batched (requests.map fun record => [record]))).controls =
      ((initial Controls.initial).run (batched [requests])).controls ∧
    ((initial Controls.initial).run (requests.map .merge ++ [.takeTheme] ++ [.takeControls] ++
      [.takeTheme])).themes = [some "zen", none] := by
  obtain ⟨-, latest, same, themes⟩ := latest_of_run (Controls.initial : Controls ℚ)
  have together := latest [requests]
  have first := themes [] (requests.map .merge) (.inl rfl) (by simp [requests])
  have second := themes (requests.map .merge ++ [.takeTheme]) [.takeControls] (.inr rfl) (by simp)
  refine ⟨together.dark_eq, ?_, same _ _ rfl, ?_⟩
  · rw [together.opacity_clamped 300 rfl (by decide +kernel)]
    decide +kernel
  · rw [List.nil_append] at first
    rw [second, first]
    rfl

end AccumulatedParams

end Ambience
