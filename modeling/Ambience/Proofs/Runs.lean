import Ambience.Event

/-!
# Successful runs

`Runs computation before result after` says that the computation, started in the state `before`,
ends without a fault, with `result` and in the state `after`. A successful run of a composed
computation is taken apart into the runs of its parts, so that what an operation does is read off
its run.

`InStep related first second` compares two computations: from any one state they end in the same
fault, or else in the same state and with related results.
-/

namespace Ambience

/-! ## Results that may be faults -/

theorem of_bind_eq_ok {ε β γ : Type} {first : Except ε β} {next : β → Except ε γ} {result : γ}
    (run : first >>= next = .ok result) :
    ∃ value, first = .ok value ∧ next value = .ok result := by
  cases first with
  | error fault => cases run
  | ok value => exact ⟨value, rfl, run⟩

theorem of_pure_eq_ok {ε β : Type} {value result : β}
    (run : (pure value : Except ε β) = .ok result) : result = value := by
  cases run
  rfl

theorem of_toOption_eq_some {ε β : Type} {value : Except ε β} {result : β}
    (found : value.toOption = some result) : value = .ok result := by
  cases value with
  | error fault => cases found
  | ok _ =>
    cases found
    rfl

/-- A result that passes a check is there. -/
theorem of_any_toOption {ε β : Type} {value : Except ε β} {check : β → Bool}
    (checked : value.toOption.any check = true) :
    ∃ result, value = .ok result ∧ check result = true := by
  cases value with
  | error fault => cases checked
  | ok result => exact ⟨result, rfl, checked⟩

/-! ## Computations with a state -/

/-- The computation succeeds, with a result and a new state. -/
def Runs {ε σ β : Type} (computation : StateT σ (Except ε) β) (before : σ) (result : β)
    (after : σ) : Prop :=
  computation.run before = .ok (result, after)

namespace Runs

variable {ε σ β γ : Type} {before after : σ} {result : γ}

/-- Two runs, the second from where the first ended, are a run of the sequence (`Runs.of_bind` is
the converse). -/
theorem bind {first : StateT σ (Except ε) β} {next : β → StateT σ (Except ε) γ} {value : β}
    {middle : σ} (firstRun : Runs first before value middle)
    (nextRun : Runs (next value) middle result after) :
    Runs (first >>= next) before result after := by
  unfold Runs at *
  rw [StateT.run_bind, firstRun]
  exact nextRun

/-- A run of a sequence is a run of its first part, and one of its second part from there. -/
theorem of_bind {first : StateT σ (Except ε) β} {next : β → StateT σ (Except ε) γ}
    (run : Runs (first >>= next) before result after) :
    ∃ value middle, Runs first before value middle ∧ Runs (next value) middle result after := by
  unfold Runs at run
  rw [StateT.run_bind] at run
  obtain ⟨⟨value, middle⟩, firstRun, nextRun⟩ := of_bind_eq_ok run
  exact ⟨value, middle, firstRun, nextRun⟩

theorem of_pure {value : γ}
    (run : Runs (pure value : StateT σ (Except ε) γ) before result after) :
    result = value ∧ after = before := by
  cases run
  exact ⟨rfl, rfl⟩

/-- A result without a state leaves the state alone. -/
theorem of_lift {value : Except ε γ}
    (run : Runs (liftM value : StateT σ (Except ε) γ) before result after) :
    value = .ok result ∧ after = before := by
  obtain ⟨inner, found, run⟩ := of_bind_eq_ok run
  cases run
  exact ⟨found, rfl⟩

theorem lift {value : Except ε γ} (found : value = .ok result) :
    Runs (liftM value : StateT σ (Except ε) γ) before result before := by
  rw [found]
  rfl

end Runs

/-! ## Two computations in step -/

/-- Two outcomes are the same fault, or related results with the same state. -/
inductive Tallies {ε σ β γ : Type} (related : β → γ → Prop) :
    Except ε (β × σ) → Except ε (γ × σ) → Prop
  | failed (fault : ε) : Tallies related (.error fault) (.error fault)
  | ended {result : β} {result' : γ} {after : σ} :
    related result result' → Tallies related (.ok (result, after)) (.ok (result', after))

theorem Tallies.of_eq {ε σ β γ : Type} {related : β → γ → Prop} {result : β} {result' : γ}
    {after after' : σ} (same : related result result') (state : after' = after) :
    Tallies related (.ok (result, after) : Except ε _) (.ok (result', after')) :=
  state ▸ .ended same

/-- From the same state two computations come to outcomes that tally. -/
def InStep {ε σ β γ : Type} (related : β → γ → Prop) (first : StateT σ (Except ε) β)
    (second : StateT σ (Except ε) γ) : Prop :=
  ∀ before, Tallies related (first.run before) (second.run before)

namespace InStep

variable {ε σ β γ β' γ' : Type} {related : β → γ → Prop} {related' : β' → γ' → Prop}
  {first : StateT σ (Except ε) β} {second : StateT σ (Except ε) γ}

/-- Every computation is `InStep` with itself. -/
theorem refl (computation : StateT σ (Except ε) β) : InStep Eq computation computation := by
  intro before
  cases computation.run before with
  | error fault => exact .failed fault
  | ok ended => exact .ended rfl

theorem of_related {result : β} {result' : γ} (same : related result result') :
    InStep related (pure result : StateT σ (Except ε) β) (pure result') :=
  fun _ => .ended same

/-- Sequences are `InStep` if their first parts are, and their second parts for all related
results. -/
theorem bind {next : β → StateT σ (Except ε) β'} {next' : γ → StateT σ (Except ε) γ'}
    (firsts : InStep related first second)
    (nexts : ∀ result result', related result result' →
      InStep related' (next result) (next' result')) :
    InStep related' (first >>= next) (second >>= next') := by
  intro before
  rw [StateT.run_bind, StateT.run_bind]
  have tallies := firsts before
  revert tallies
  generalize first.run before = outcome
  generalize second.run before = outcome'
  rintro (fault | same)
  · exact .failed fault
  · exact nexts _ _ same _

/-- The same beginning keeps two computations in step. -/
theorem bind_same {next : β → StateT σ (Except ε) β'} {next' : β → StateT σ (Except ε) γ'}
    (computation : StateT σ (Except ε) β)
    (nexts : ∀ result, InStep related' (next result) (next' result)) :
    InStep related' (computation >>= next) (computation >>= next') := by
  apply (refl computation).bind
  rintro result _ rfl
  exact nexts result

/-- A successful run of the first of two computations that are `InStep` is matched by one of the
second. -/
theorem of_runs {before after : σ} {result : β} (inStep : InStep related first second)
    (run : Runs first before result after) :
    ∃ result', Runs second before result' after ∧ related result result' := by
  have tallies := inStep before
  rw [Runs] at run
  rw [run] at tallies
  unfold Runs
  revert tallies
  generalize second.run before = outcome
  rintro (_ | same)
  exact ⟨_, rfl, same⟩

end InStep

end Ambience
