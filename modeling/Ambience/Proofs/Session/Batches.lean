import Ambience.Proofs.Scalar.Exact
import Ambience.Proofs.Session.Presses
import Ambience.Random.Stream

/-!
# Keys that arrive together

The same keys can be typed in many turns or all in one. Whichever it is, they lead to the same
controls, the same colour mode and the same status bar. They need not lead to the same theme: of the
keys of one turn that ask for another theme only the last one counts, and each turn starts from the
theme that the one before it reached.
-/

namespace Ambience

/-! ## Knobs -/

/-- Numbers that have an order, and of which two that are equal are one after a step of the opacity
knob. Binary floating-point numbers have two zeros that are equal, and a step takes both to the same
number. -/
class Scalar.Steady (α : Type) [Scalar α] : Prop where
  le_trans (x y z : α) : x ≤ y → y ≤ z → x ≤ z
  add_step (x y : α) : same x y = true → x + Turn.opacityStep = y + Turn.opacityStep
  add_neg_step (x y : α) : same x y = true → x + -Turn.opacityStep = y + -Turn.opacityStep

namespace Controls

variable {α : Type} [Scalar α] {a b c : Controls α}

/-- Controls that agree, whether their knobs stand on a number or not. -/
structure Alike (a b : Controls α) : Prop where
  dark_eq : a.dark = b.dark
  active_eq : a.active = b.active
  opacity_same : a.opacity = b.opacity ∨ Scalar.same a.opacity b.opacity = true

theorem Alike.refl (a : Controls α) : Alike a a := ⟨rfl, rfl, .inl rfl⟩

theorem Alike.symm (alike : Alike a b) : Alike b a := by
  refine ⟨alike.dark_eq.symm, alike.active_eq.symm, ?_⟩
  rcases alike.opacity_same with eq | same
  · exact .inl eq.symm
  · rw [Scalar.same, Bool.and_comm] at same
    exact .inr same

/-- Controls that `agree` are alike. -/
theorem Alike.of_agree (agree : a.agree b = true) : Alike a b := by
  simp only [Controls.agree, Bool.and_eq_true, beq_iff_eq] at agree
  obtain ⟨⟨dark, opacity⟩, active⟩ := agree
  exact ⟨dark, active, .inr opacity⟩

variable [Scalar.Steady α]

theorem Alike.trans (first : Alike a b) (second : Alike b c) : Alike a c := by
  refine ⟨first.dark_eq.trans second.dark_eq, first.active_eq.trans second.active_eq, ?_⟩
  rcases first.opacity_same with eq | same
  · rw [eq]
    exact second.opacity_same
  rcases second.opacity_same with eq | same'
  · rw [← eq]
    exact .inr same
  · simp only [Scalar.same, Bool.and_eq_true, decide_eq_true_eq] at same same' ⊢
    exact .inr ⟨Scalar.Steady.le_trans _ _ _ same.1 same'.1,
      Scalar.Steady.le_trans _ _ _ same'.2 same.2⟩

theorem Alike.press (alike : Alike a b) (key : Key) : Alike (a.press key) (b.press key) := by
  have stepped : ∀ {x y : α}, x = y → Alike (a.withOpacity x) (b.withOpacity y) := by
    rintro x _ rfl
    exact ⟨alike.dark_eq, alike.active_eq, .inl rfl⟩
  have raised := stepped (alike.opacity_same.elim (fun eq => by rw [eq]) (Scalar.Steady.add_step _ _))
  have lowered :=
    stepped (alike.opacity_same.elim (fun eq => by rw [eq]) (Scalar.Steady.add_neg_step _ _))
  fun_cases Controls.press a key with
  | case1 => exact ⟨congrArg not alike.dark_eq, alike.active_eq, alike.opacity_same⟩
  | case2 | case3 => exact raised
  | case4 => exact lowered
  | case5 => exact ⟨alike.dark_eq, congrArg not alike.active_eq, alike.opacity_same⟩
  | case6 =>
    -- The same key does nothing to the other controls either.
    rw [Controls.press] <;> assumption

theorem Alike.foldl_press (alike : Alike a b) (keys : List Key) :
    Alike (keys.foldl Controls.press a) (keys.foldl Controls.press b) := by
  induction keys generalizing a b with
  | nil => exact alike
  | cons key later ih => exact ih (alike.press key)

end Controls

instance {α : Type} [ExactScalar α] : Scalar.Steady α where
  le_trans _ _ _ := le_trans
  add_step x y same := by
    simp only [Scalar.same, Bool.and_eq_true, decide_eq_true_eq] at same
    rw [le_antisymm same.1 same.2]
  add_neg_step x y same := by
    simp only [Scalar.same, Bool.and_eq_true, decide_eq_true_eq] at same
    rw [le_antisymm same.1 same.2]

/-! ## Batches -/

namespace Key

/-- The places that some keys ask to go on, each of them by itself. -/
def total : List Key → Int
  | [] => 0
  | key :: later => key.offset?.getD 0 + total later

/-- The places that batches of keys lead on: those of the last key of each batch that asks for
another theme. -/
def net : List (List Key) → Int
  | [] => 0
  | batch :: later => (requested batch).getD 0 + net later

/-- Each key counts by itself for the `total`, so that it adds up over batches. -/
theorem total_append (first later : List Key) : total (first ++ later) = total first + total later := by
  induction first with
  | nil => exact (Int.zero_add _).symm
  | cons key _ ih => rw [List.cons_append, total, total, ih, Int.add_assoc]

/-- How many of some keys ask for another theme. -/
def requests (keys : List Key) : Nat := keys.countP fun key => key.offset?.isSome

theorem requests_cons (key : Key) (later : List Key) :
    requests (key :: later) = requests later + if key.offset?.isSome then 1 else 0 :=
  List.countP_cons

theorem of_requests_eq_zero {keys : List Key} (none : requests keys = 0) :
    requested keys = .none ∧ total keys = 0 := by
  induction keys with
  | nil => exact ⟨rfl, rfl⟩
  | cons key later ih =>
    rw [requests_cons] at none
    obtain ⟨requestedEq, totalEq⟩ := ih (by omega)
    cases offset : key.offset? with
    | none =>
      rw [requested, total, requestedEq, totalEq, offset]
      exact ⟨rfl, rfl⟩
    | some places =>
      rw [offset] at none
      cases none

/-- Of keys of which one at most asks for another theme, what the last one asks for is the
`total`. -/
theorem requested_eq_total {keys : List Key} (few : requests keys ≤ 1) :
    (requested keys).getD 0 = total keys := by
  induction keys with
  | nil => rfl
  | cons key later ih =>
    rw [requests_cons] at few
    cases offset : key.offset? with
    | none =>
      rw [requested, total, offset, Option.or_none, ih (by omega)]
      exact (Int.zero_add _).symm
    | some places =>
      rw [offset] at few
      have rest : requests later = 0 := by
        simp at few
        omega
      obtain ⟨requestedEq, totalEq⟩ := of_requests_eq_zero rest
      rw [requested, total, offset, requestedEq, totalEq]
      exact (Int.add_zero _).symm

/-- No key is lost that is the only one of its batch to ask for another theme, so that `net` and
`total` agree. -/
theorem net_eq_total {cut : List (List Key)} (few : ∀ batch ∈ cut, requests batch ≤ 1) :
    net cut = total cut.flatten := by
  induction cut with
  | nil => rfl
  | cons batch later ih =>
    rw [net, List.flatten_cons, total_append, requested_eq_total (few batch List.mem_cons_self),
      ih fun other member => few other (List.mem_cons_of_mem _ member)]

end Key

namespace Session

variable {α σ : Type} [Scalar α] [Words σ] [Units σ α] {session last last' : Session α σ}
  {cut cut' : List (List Key)}

/-- A session after turns in each of which a batch of keys was typed. -/
inductive Played : Session α σ → List (List Key) → Session α σ → Prop
  | rests {session : Session α σ} : Played session [] session
  | turned {session last : Session α σ} {batch : List Key} {later : List (List Key)}
      {outcome : Outcome α σ} {seconds fps : α} {events events' : List (Event α)} :
    Runs (session.turn (typing batch seconds fps)) events outcome events' →
    Played outcome.session later last → Played session (batch :: later) last

/-- Plays batches of keys, in turns of one length. -/
def play (seconds fps : α) (session : Session α σ) : List (List Key) → Reporting α (Session α σ)
  | [] => return session
  | batch :: later => do
    let outcome ← session.turn (typing batch seconds fps)
    play seconds fps outcome.session later

/-- Batches that were played are batches that a session was `Played` with. -/
theorem played_of_play {seconds fps : α} {events events' : List (Event α)}
    (run : Runs (play seconds fps session cut) events last events') : Played session cut last := by
  induction cut generalizing session events with
  | nil =>
    cases (Runs.of_pure run).1
    exact .rests
  | cons batch later ih =>
    obtain ⟨outcome, _, turnRun, run⟩ := Runs.of_bind run
    exact .turned turnRun (ih run)

theorem lasts_of_cons {batch : List Key} {later : List (List Key)}
    (lasts : ∀ key ∈ (batch :: later).flatten, key.ends = false) :
    (∀ key ∈ batch, key.ends = false) ∧ ∀ key ∈ later.flatten, key.ends = false := by
  rw [List.flatten_cons] at lasts
  exact List.forall_mem_append.1 lasts

/-- After keys that go on with the session it is as ready as before. -/
theorem Played.ready (played : Played session cut last) (ready : session.Ready)
    (lasts : ∀ key ∈ cut.flatten, key.ends = false) : last.Ready := by
  induction played with
  | rests => exact ready
  | turned run _ ih =>
    obtain ⟨batchLasts, laterLasts⟩ := lasts_of_cons lasts
    exact ih (typed_of_turn ready batchLasts run).ready laterLasts

/-- The theme is as many places on as the batches lead (`Key.net`). -/
theorem Played.theme_eq (played : Played session cut last) (ready : session.Ready)
    (lasts : ∀ key ∈ cut.flatten, key.ends = false) :
    last.stage.theme = Theme.after session.stage.theme.name (Key.net cut) := by
  induction played with
  | rests => exact (Theme.after_zero ready.catalogued).symm
  | turned run _ ih =>
    obtain ⟨batchLasts, laterLasts⟩ := lasts_of_cons lasts
    have typed := typed_of_turn ready batchLasts run
    rw [ih typed.ready laterLasts, typed.theme_eq, Theme.after_after ready.catalogued]
    rfl

/-- The colour mode and the status bar are what the keys make of them one by one (`Look.press`),
whatever the batches. -/
theorem Played.look_eq (played : Played session cut last) (ready : session.Ready)
    (lasts : ∀ key ∈ cut.flatten, key.ends = false) :
    last.look = cut.flatten.foldl Look.press session.look := by
  induction played with
  | rests => rfl
  | turned run _ ih =>
    obtain ⟨batchLasts, laterLasts⟩ := lasts_of_cons lasts
    have typed := typed_of_turn ready batchLasts run
    rw [ih typed.ready laterLasts, typed.look_eq, List.flatten_cons, List.foldl_append]

/-- The controls are `Alike` to what the keys make of them one by one (`Controls.press`), whatever
the batches. -/
theorem Played.controls_alike [Scalar.Steady α] (played : Played session cut last)
    (ready : session.Ready) (lasts : ∀ key ∈ cut.flatten, key.ends = false) :
    last.stage.controls.Alike (cut.flatten.foldl Controls.press session.stage.controls) := by
  induction played with
  | rests => exact .refl _
  | turned run _ ih =>
    obtain ⟨batchLasts, laterLasts⟩ := lasts_of_cons lasts
    have typed := typed_of_turn ready batchLasts run
    rw [List.flatten_cons, List.foldl_append]
    refine (ih typed.ready laterLasts).trans (Controls.Alike.foldl_press ?_ _)
    rcases typed.controls_eq with applied | ⟨kept, agree⟩
    · rw [applied]
      exact .refl _
    · rw [kept]
      exact (Controls.Alike.of_agree agree).symm

/-- However the same keys are cut into turns (`Played`), they lead to controls that are `Alike`, one
colour mode and one status bar. The theme that they lead to is as many places on as the last key of
each turn that asks for another theme says (`Key.net`), so that two cuts lead to one theme only if
these places differ by whole rounds; and each key counts where no turn has two that ask for another
theme. -/
theorem settings_of_played [Scalar.Steady α] (ready : session.Ready)
    (played : Played session cut last) (played' : Played session cut' last')
    (same : cut.flatten = cut'.flatten) (lasts : ∀ key ∈ cut.flatten, key.ends = false) :
    last.stage.controls.Alike last'.stage.controls ∧
      last.stage.surface.map Canvas.mode = last'.stage.surface.map Canvas.mode ∧
      last.hidden = last'.hidden ∧
      last.stage.theme = Theme.after session.stage.theme.name (Key.net cut) ∧
      (last.stage.theme = last'.stage.theme ↔ Key.net cut % 9 = Key.net cut' % 9) ∧
      ((∀ batch ∈ cut, Key.requests batch ≤ 1) → Key.net cut = Key.total cut.flatten) := by
  have lasts' : ∀ key ∈ cut'.flatten, key.ends = false := by
    rw [← same]
    exact lasts
  have look := (played.look_eq ready lasts).trans
    ((congrArg (List.foldl _ _) same).trans (played'.look_eq ready lasts').symm)
  refine ⟨?_, congrArg Look.mode look, congrArg Look.hidden look, played.theme_eq ready lasts, ?_,
    Key.net_eq_total⟩
  · have alike' := played'.controls_alike ready lasts'
    rw [← same] at alike'
    exact (played.controls_alike ready lasts).trans alike'.symm
  · rw [played.theme_eq ready lasts, played'.theme_eq ready lasts']
    exact Theme.after_eq_after ready.catalogued _ _

/-- A session in a small terminal that shows snow and is paused. -/
def pausedSnow : Reporting ℚ (Session ℚ Random.Stream) := do
  let session ← start ⟨Theme.snowfall, true, 50, .trueColor, 0, 30, 0, false, ⟨1.0, some 7⟩⟩ 10 5 3
  play 0.02 30 session [[.char ' ']]

theorem ready_of_pausedSnow {session : Session ℚ Random.Stream} {events events' : List (Event ℚ)}
    (run : Runs pausedSnow events session events') : session.Ready := by
  obtain ⟨started, _, startRun, playRun⟩ := Runs.of_bind run
  have catalogued : (Theme.snowfall : Theme ℚ) ∈ Theme.all := List.mem_cons_self
  exact (played_of_play playRun).ready (ready_of_start catalogued startRun) (by decide)

/-- The paused session, and what keys in two cuts make of it. -/
def playTwice (cut cut' : List (List Key)) :
    Reporting ℚ (Session ℚ Random.Stream × Session ℚ Random.Stream × Session ℚ Random.Stream) := do
  let session ← pausedSnow
  let last ← play 0.02 30 session cut
  let last' ← play 0.02 30 session cut'
  return (session, last, last')

theorem of_playTwice {events events' : List (Event ℚ)} {session last last' : Session ℚ Random.Stream}
    (run : Runs (playTwice cut cut') events (session, last, last') events') :
    session.Ready ∧ Played session cut last ∧ Played session cut' last' := by
  obtain ⟨paused, _, pauseRun, run⟩ := Runs.of_bind run
  obtain ⟨first, _, firstRun, run⟩ := Runs.of_bind run
  obtain ⟨second, _, secondRun, run⟩ := Runs.of_bind run
  cases (Runs.of_pure run).1
  exact ⟨ready_of_pausedSnow pauseRun, played_of_play firstRun, played_of_play secondRun⟩

/-- The same key leads one theme on if it is typed twice in a turn, and two if it is in two turns. -/
theorem requests_of_one_turn :
    ∃ session together apart : Session ℚ Random.Stream, session.Ready ∧
      Played session [[.char 'n', .char 'n']] together ∧
      Played session [[.char 'n'], [.char 'n']] apart ∧
      together.stage.theme.name = "sakura" ∧ apart.stage.theme.name = "fireflies" := by
  have ends : ((playTwice [[.char 'n', .char 'n']] [[.char 'n'], [.char 'n']]).run []).toOption.any
      (fun ((_, together, apart), _) =>
        together.stage.theme.name == "sakura" && apart.stage.theme.name == "fireflies") = true := by
    decide +kernel
  obtain ⟨⟨⟨session, together, apart⟩, _⟩, run, checked⟩ := of_any_toOption ends
  obtain ⟨ready, playedTogether, playedApart⟩ := of_playTwice run
  simp only [Bool.and_eq_true, beq_iff_eq] at checked
  exact ⟨session, together, apart, ready, playedTogether, playedApart, checked⟩

/-- Keys that change all settings, in two turns and in three, lead to one brighter light without a
status bar and to two themes. -/
theorem settings_of_pausedSnow :
    ∃ session last last' : Session ℚ Random.Stream, session.Ready ∧
      Played session [[.right, .char 'd', .char 'n'], [.char '+', .char 'c', .char 'h']] last ∧
      Played session [[.right, .char 'd'], [.char 'n', .char '+', .char 'c'], [.char 'h']] last' ∧
      last.stage.controls.Alike last'.stage.controls ∧
      last.stage.surface.map Canvas.mode = last'.stage.surface.map Canvas.mode ∧
      last.hidden = last'.hidden ∧ last.stage.theme ≠ last'.stage.theme ∧
      (last.stage.controls.dark, last.stage.controls.opacity, last.stage.mode, last.hidden) =
        (false, 60, some .ansi256, true) := by
  have ends : ((playTwice
        [[.right, .char 'd', .char 'n'], [.char '+', .char 'c', .char 'h']]
        [[.right, .char 'd'], [.char 'n', .char '+', .char 'c'], [.char 'h']]).run []).toOption.any
      (fun ((_, last, _), _) =>
        (last.stage.controls.dark, last.stage.controls.opacity, last.stage.mode, last.hidden) ==
          (false, 60, some .ansi256, true)) = true := by
    decide +kernel
  obtain ⟨⟨⟨session, last, last'⟩, _⟩, run, checked⟩ := of_any_toOption ends
  obtain ⟨ready, played, played'⟩ := of_playTwice run
  obtain ⟨alike, mode, hidden, -, theme, -⟩ :=
    settings_of_played ready played played' rfl (by decide)
  refine ⟨session, last, last', ready, played, played', alike, mode, hidden, ?_, beq_iff_eq.1 checked⟩
  rw [ne_eq, theme]
  decide

end Session

end Ambience
