import Mathlib.Data.Nat.ModEq
import Ambience.Proofs.Runs
import Ambience.Scalar.Rational
import Ambience.Wander

/-!
# When a turning gets a new target

A call either finds the countdown of a turning at zero, draws a new target and sets the countdown back
to the interval, or it lowers the countdown and draws nothing. So between two choices of a target there
are as many calls that draw nothing as the interval says, and from one choice to the next it is one call
more than that.
-/

namespace Ambience.Wander

variable {α σ : Type} [Scalar α] [Units σ α]

/-! ## One call -/

/-- What a call makes of a turning. -/
inductive Advances (w : Wander α) (source : σ) : Wander α → σ → Prop
  /-- The countdown has run out, and a target is drawn. -/
  | chooses {target : α} {after : σ} :
    w.countdown = 0 → Runs (chooseTarget w.maxTurn) source target after →
    Advances w source
      { w with target, countdown := w.interval, turn := Motion.ease w.turn target w.rate } after
  /-- The countdown goes on, and nothing is drawn. -/
  | waits {remaining : Nat} :
    w.countdown = remaining + 1 →
    Advances w source
      { w with countdown := remaining, turn := Motion.ease w.turn w.target w.rate } source

variable {w before after : Wander α} {source middle final : σ} {i : Nat}

/-- Every run of `Wander.advance` is one of the two cases of `Advances`. -/
theorem of_advance (run : Runs w.advance source after final) : Advances w source after final := by
  unfold advance at run
  extract_lets rest at run
  split at run
  · rename_i countdown
    obtain ⟨target, _, targetRun, run⟩ := Runs.of_bind run
    obtain ⟨_, _, chosenRun, run⟩ := Runs.of_bind run
    obtain ⟨rfl, rfl⟩ := Runs.of_pure chosenRun
    obtain ⟨rfl, rfl⟩ := Runs.of_pure run
    exact .chooses countdown targetRun
  · rename_i countdown
    obtain ⟨_, _, chosenRun, run⟩ := Runs.of_bind run
    obtain ⟨rfl, rfl⟩ := Runs.of_pure chosenRun
    obtain ⟨rfl, rfl⟩ := Runs.of_pure run
    exact .waits countdown

/-! ## Many calls -/

/-- A turning after some calls. -/
def advanceTimes : Nat → Wander α → Draw σ (Wander α)
  | 0, w => return w
  | i + 1, w => do
    let before ← w.advanceTimes i
    before.advance

/-- A turning `i` calls after another one. The countdown goes round in a circle that is one longer than
the interval. -/
structure Later (w : Wander α) (i : Nat) (after : Wander α) : Prop where
  interval_eq : after.interval = w.interval
  maxTurn_eq : after.maxTurn = w.maxTurn
  countdown_le : after.countdown ≤ w.interval
  phase : after.countdown + i ≡ w.countdown [MOD w.interval + 1]

omit [Scalar α] in
theorem Later.refl (small : w.countdown ≤ w.interval) : w.Later 0 w := ⟨rfl, rfl, small, rfl⟩

/-- One more call moves a turning one place on in the circle of its countdown. -/
theorem Later.of_advance (later : w.Later i before) (run : Runs before.advance middle after final) :
    w.Later (i + 1) after := by
  obtain ⟨interval, maxTurn, small, phase⟩ := later
  cases Wander.of_advance run with
  | chooses countdown _ =>
    refine ⟨interval, maxTurn, interval.le, ?_⟩
    have around : before.interval + (i + 1) = before.countdown + i + (w.interval + 1) := by omega
    show before.interval + (i + 1) ≡ _ [MOD _]
    rw [around]
    exact (Nat.add_modEq_right ..).trans phase
  | @waits remaining countdown =>
    refine ⟨interval, maxTurn, ?_, ?_⟩
    · show remaining ≤ w.interval
      omega
    · have onward : remaining + (i + 1) = before.countdown + i := by omega
      show remaining + (i + 1) ≡ _ [MOD _]
      rw [onward]
      exact phase

/-- After `i` calls a turning is `Later` by `i` places. -/
theorem Later.of_advanceTimes (small : w.countdown ≤ w.interval)
    (run : Runs (w.advanceTimes i) source after final) : w.Later i after := by
  induction i generalizing after final with
  | zero =>
    obtain ⟨rfl, -⟩ := Runs.of_pure run
    exact .refl small
  | succ i ih =>
    obtain ⟨before, middle, earlierRun, run⟩ := Runs.of_bind run
    exact (ih earlierRun).of_advance run

omit [Scalar α] in
/-- The countdown has run out once in each circle. -/
theorem Later.countdown_eq_zero_iff (small : w.countdown ≤ w.interval) (later : w.Later i after) :
    after.countdown = 0 ↔ ∃ k, i = w.countdown + k * (w.interval + 1) := by
  have phase := later.phase
  constructor
  · intro zero
    rw [zero, zero_add, Nat.ModEq, Nat.mod_eq_of_lt (Nat.lt_succ_of_le small)] at phase
    refine ⟨i / (w.interval + 1), ?_⟩
    calc i = i % (w.interval + 1) + (w.interval + 1) * (i / (w.interval + 1)) :=
          (Nat.mod_add_div i _).symm
      _ = w.countdown + i / (w.interval + 1) * (w.interval + 1) := by rw [phase, Nat.mul_comm]
  · rintro ⟨k, rfl⟩
    have whole : w.countdown + k * (w.interval + 1) ≡ w.countdown [MOD w.interval + 1] :=
      Nat.add_mul_mod_self_right ..
    have none : after.countdown ≡ 0 [MOD w.interval + 1] := by
      refine Nat.ModEq.add_right_cancel' (w.countdown + k * (w.interval + 1)) ?_
      rw [zero_add]
      exact phase.trans whole.symm
    exact none.eq_of_lt_of_lt (Nat.lt_succ_of_le later.countdown_le) (Nat.succ_pos _)

/-- A target is drawn by `chooseTarget` in the call behind as many calls as the countdown says, and
then again and again in the call behind as many more as the interval says. No other call draws
anything or changes the target. -/
theorem choices_of_advanceTimes (small : w.countdown ≤ w.interval)
    (earlier : Runs (w.advanceTimes i) source before middle)
    (call : Runs before.advance middle after final) :
    ((∃ k, i = w.countdown + k * (w.interval + 1)) →
      Runs (chooseTarget w.maxTurn) middle after.target final) ∧
    ((¬∃ k, i = w.countdown + k * (w.interval + 1)) →
      after.target = before.target ∧ final = middle) := by
  have later := Later.of_advanceTimes small earlier
  rw [← later.countdown_eq_zero_iff small, ← later.maxTurn_eq]
  cases of_advance call with
  | chooses countdown targetRun => exact ⟨fun _ => targetRun, fun counts => (counts countdown).elim⟩
  | waits countdown =>
    refine ⟨fun zero => ?_, fun _ => ⟨rfl, rfl⟩⟩
    rw [countdown] at zero
    cases zero

/-- A turning that has run out of its countdown, with an interval of two calls. -/
def restless : Wander ℚ := ⟨0, 0, 0.05, 0.1, 2, 0⟩

/-- A restless turning three calls later, and another call later. -/
def fourCalls : Except Fault ((Wander ℚ × Random.Stream) × (Wander ℚ × Random.Stream)) := do
  let third ← (restless.advanceTimes 3).run (Words.ofSeed 7)
  let fourth ← third.1.advance.run third.2
  return (third, fourth)

/-- A `restless` turning gets a target in its fourth call. -/
theorem choices_of_restless :
    ∃ (before after : Wander ℚ) (middle final : Random.Stream),
      Runs (restless.advanceTimes 3) (Words.ofSeed 7) before middle ∧
      Runs before.advance middle after final ∧
      Runs (chooseTarget 0.05) middle after.target final := by
  have ends : fourCalls.toOption.any (fun _ => true) = true := by
    decide +kernel
  obtain ⟨⟨third, fourth⟩, run, -⟩ := of_any_toOption ends
  obtain ⟨_, thirdRun, run⟩ := of_bind_eq_ok run
  obtain ⟨_, fourthRun, run⟩ := of_bind_eq_ok run
  cases of_pure_eq_ok run
  have choices := choices_of_advanceTimes (Nat.zero_le _) thirdRun fourthRun
  exact ⟨third.1, fourth.1, third.2, fourth.2, thirdRun, fourthRun, choices.1 ⟨1, rfl⟩⟩

/-- A restless turning two calls later, another call later, and the source behind one more target. -/
def threeCalls :
    Except Fault ((Wander ℚ × Random.Stream) × (Wander ℚ × Random.Stream) × (ℚ × Random.Stream)) := do
  let second ← (restless.advanceTimes 2).run (Words.ofSeed 7)
  let third ← second.1.advance.run second.2
  let target ← (chooseTarget 0.05).run second.2
  return (second, third, target)

/-- From one choice of a target to the next it is not as many calls as the interval says: the third
call of a `restless` turning, two calls after the first one, draws nothing. -/
theorem not_choices_of_interval :
    ¬∀ (w before after : Wander ℚ) (source middle final : Random.Stream) (k : Nat),
      1 ≤ w.interval → w.countdown ≤ w.interval →
      Runs (w.advanceTimes (w.countdown + k * w.interval)) source before middle →
      Runs before.advance middle after final →
      Runs (chooseTarget w.maxTurn) middle after.target final := by
  intro choices
  have ends : threeCalls.toOption.any (fun calls =>
      calls.2.1.2.position != calls.2.2.2.position) = true := by
    decide +kernel
  obtain ⟨⟨second, third, target⟩, run, moved⟩ := of_any_toOption ends
  obtain ⟨_, secondRun, run⟩ := of_bind_eq_ok run
  obtain ⟨_, thirdRun, run⟩ := of_bind_eq_ok run
  obtain ⟨_, targetRun, run⟩ := of_bind_eq_ok run
  cases of_pure_eq_ok run
  have drawn := choices restless second.1 third.1 (Words.ofSeed 7) second.2 third.2 1 (by decide)
    (by decide) secondRun thirdRun
  cases drawn.symm.trans targetRun
  exact bne_iff_ne.1 moved rfl

end Ambience.Wander
