import Ambience.Proofs.Session.Presses
import Ambience.Proofs.Session.Sizes

/-!
# Proper sessions

A session shows a theme of the catalog in a terminal that has a cell at least. It goes on doing so:
whoever asks for another theme, by a key, by name or by waiting, gets one of the catalog, and a
terminal that is too small is passed over.
-/

namespace Ambience

variable {α σ : Type} [Scalar α]

theorem Theme.mem_of_find {wanted : String} {theme : Theme α} (found : find wanted = .ok theme) :
    theme ∈ all := by
  unfold find at found
  split at found
  · rename_i other foundAt
    cases found
    exact List.mem_of_find?_eq_some foundAt
  · cases found

/-- A theme that is `granted` is one of the catalog. -/
theorem Params.mem_of_granted {records : List (Params α)} {theme : Theme α}
    (granted : Params.granted records = some theme) : theme ∈ Theme.all := by
  obtain ⟨name, -, found⟩ := Option.bind_eq_some_iff.1 granted
  exact Theme.mem_of_find (of_toOption_eq_some found)

/-- Whatever the command line and the settings file say (`Plan.resolve`), the theme of a plan is of
the catalog. -/
theorem Plan.catalogued_of_resolve {line : CommandLine α} {config : Config α} {plan : Plan α}
    (resolved : resolve line config = .ok plan) : plan.theme ∈ Theme.all := by
  obtain ⟨theme, found, made⟩ := of_bind_eq_ok resolved
  cases of_pure_eq_ok made
  exact Theme.mem_of_find found

/-- A session that shows a theme of the catalog in a terminal that has cells. -/
structure Session.Proper (session : Session α σ) : Prop where
  catalogued : session.stage.theme ∈ Theme.all
  cols_pos : 1 ≤ session.cols
  rows_pos : 1 ≤ session.rows

/-- A turn of such a session that asks for no theme but one of the catalog. -/
structure Turn.Proper (turn : Turn α σ) : Prop where
  session : turn.session.Proper
  wanted : ∀ theme ∈ turn.theme, theme ∈ Theme.all

theorem Session.Proper.opening {session : Session α σ} (proper : session.Proper) :
    session.opening.Proper :=
  ⟨proper, by rintro _ ⟨⟩⟩

/-! ## Turns -/

namespace Turn.Proper

variable {turn after : Turn α σ} {events events' : List (Event α)}

theorem cycle (proper : turn.Proper) (offset : Int) : (turn.cycle offset).Proper := by
  refine ⟨proper.session, ?_⟩
  rintro _ ⟨⟩
  exact Theme.after_mem proper.session.catalogued offset

theorem due (proper : turn.Proper) (cycleDue : Bool) : (turn.due cycleDue).Proper := by
  unfold Turn.due
  split
  · exact proper.cycle 1
  · exact proper

/-- Whatever theme records ask for, it is one of the catalog, since a name that is not in it is
refused. -/
theorem of_wish {wishes : List (Params α)} (proper : turn.Proper)
    (run : Runs (turn.wish wishes) events after events') : after.Proper := by
  obtain ⟨⟨theme, session⟩, -⟩ := Turn.of_wish run
  constructor
  · rw [session]
    exact ⟨proper.session.catalogued, proper.session.cols_pos, proper.session.rows_pos⟩
  · intro wanted isWanted
    rw [theme] at isWanted
    rcases Option.or_eq_some_iff.1 isWanted with granted | ⟨-, before⟩
    · exact Params.mem_of_granted granted
    · exact proper.wanted wanted before

variable [Words σ] [Units σ α]

theorem of_relayout {cols rows : Nat} {hidden : Bool} (proper : turn.Proper) (wide : 1 ≤ cols)
    (high : 1 ≤ rows)
    (run : Runs (turn.relayout { turn.session with cols, rows, hidden }) events after events') :
    after.Proper := by
  obtain ⟨stage, _, stageRun, run⟩ := Runs.of_bind run
  cases (Runs.of_pure run).1
  refine ⟨⟨?_, wide, high⟩, proper.wanted⟩
  show stage.theme ∈ Theme.all
  rw [(Stage.keeps_of_relayout stageRun).theme_eq]
  exact proper.session.catalogued

theorem of_char {c : Char} (proper : turn.Proper) (run : Runs (turn.char c) events after events') :
    after.Proper := by
  unfold char at run
  dsimp only at run
  split at run
  case h_2 | h_3 =>
    cases (Runs.of_pure run).1
    exact proper.cycle _
  case h_10 => exact proper.of_relayout proper.session.cols_pos proper.session.rows_pos run
  all_goals
    cases (Runs.of_pure run).1
    exact ⟨⟨proper.session.catalogued, proper.session.cols_pos, proper.session.rows_pos⟩,
      proper.wanted⟩

/-- Every input keeps a turn `Proper`, and a terminal without a cell is passed over. -/
theorem of_take {input : Input} (proper : turn.Proper)
    (run : Runs (turn.take input) events after events') : after.Proper := by
  unfold take at run
  split at run
  · exact proper.of_char run
  case h_2 | h_5 =>
    cases (Runs.of_pure run).1
    exact ⟨proper.session, proper.wanted⟩
  case h_3 | h_4 =>
    cases (Runs.of_pure run).1
    exact proper.cycle _
  case h_6 =>
    split at run
    · rename_i large
      exact proper.of_relayout (by omega) (by omega) run
    · cases (Runs.of_pure run).1
      exact proper

theorem of_takeAll {inputs : List Input} (proper : turn.Proper)
    (run : Runs (turn.takeAll inputs) events after events') : after.Proper := by
  induction inputs generalizing turn events with
  | nil =>
    cases (Runs.of_pure run).1
    exact proper
  | cons input later ih =>
    obtain ⟨middle, _, takeRun, run⟩ := Runs.of_bind run
    have middleProper := proper.of_take takeRun
    split at run
    · cases (Runs.of_pure run).1
      exact middleProper
    · exact ih middleProper run

end Turn.Proper

/-! ## Sessions -/

namespace Session.Proper

variable [Words σ] [Units σ α] {session after : Session α σ} {events events' : List (Event α)}

theorem of_applyControls {turn : Turn α σ} (proper : turn.session.Proper)
    (run : Runs turn.applyControls events after events') : after.Proper := by
  unfold Turn.applyControls at run
  dsimp only at run
  split at run
  · cases (Runs.of_pure run).1
    exact proper
  · obtain ⟨stage, _, configureRun, run⟩ := Runs.of_bind run
    cases (Runs.of_pure run).1
    refine ⟨?_, proper.cols_pos, proper.rows_pos⟩
    show stage.theme ∈ Theme.all
    rw [(Player.of_configure configureRun).theme_eq]
    exact proper.catalogued

theorem of_applyTheme {theme : Option (Theme α)} {switched : Bool} (proper : session.Proper)
    (wanted : ∀ other ∈ theme, other ∈ Theme.all)
    (run : Runs (Turn.applyTheme theme session) events (after, switched) events') :
    after.Proper := by
  unfold Turn.applyTheme at run
  split at run
  · cases (Runs.of_pure run).1
    exact proper
  rename_i other
  split at run
  · cases (Runs.of_pure run).1
    exact proper
  · obtain ⟨_, _, _, run⟩ := Runs.of_bind run
    obtain ⟨stage, _, switchRun, run⟩ := Runs.of_bind run
    cases (Runs.of_pure run).1
    refine ⟨?_, proper.cols_pos, proper.rows_pos⟩
    show stage.theme ∈ Theme.all
    rw [(Stage.of_switchTheme switchRun).1]
    exact wanted other rfl

theorem of_draw {outcome : Outcome α σ} {seconds fps : α} {switched : Bool}
    (proper : session.Proper)
    (run : Runs (session.draw seconds fps switched) events outcome events') :
    outcome.session.Proper := by
  unfold draw at run
  obtain ⟨⟨stage, drew⟩, _, deliverRun, run⟩ := Runs.of_bind run
  cases (Runs.of_pure run).1
  refine ⟨?_, proper.cols_pos, proper.rows_pos⟩
  show stage.theme ∈ Theme.all
  rw [(Stage.keeps_of_deliver deliverRun).theme_eq]
  exact proper.catalogued

/-- Until a turn draws, its session goes on being proper. -/
theorem of_applied {taken wished : Turn α σ} {around : Surroundings α}
    {controlled themed : Session α σ} {switched : Bool}
    {events₁ events₂ events₃ events₄ : List (Event α)} (proper : session.Proper)
    (takeRun : Runs (session.opening.takeAll around.inputs) events taken events₁)
    (wishRun : Runs (taken.wish around.wishes) events₁ wished events₂)
    (controlsRun : Runs (wished.due around.cycleDue).applyControls events₂ controlled events₃)
    (themeRun : Runs (Turn.applyTheme (wished.due around.cycleDue).theme controlled) events₃
      (themed, switched) events₄) :
    themed.Proper := by
  have due := ((proper.opening.of_takeAll takeRun).of_wish wishRun).due around.cycleDue
  exact (due.session.of_applyControls controlsRun).of_applyTheme due.wanted themeRun

/-- A turn keeps its session `Proper`. -/
theorem of_turn {around : Surroundings α} {outcome : Outcome α σ} (proper : session.Proper)
    (run : Runs (session.turn around) events outcome events') : outcome.session.Proper := by
  cases Session.of_turn run with
  | ended takeRun => exact (proper.opening.of_takeAll takeRun).session
  | drawn takeRun _ wishRun controlsRun themeRun drawRun =>
    exact (proper.of_applied takeRun wishRun controlsRun themeRun).of_draw drawRun

/-- Every session that can be `Reached` from a plan of the catalog, in a terminal with a cell, is
`Proper`. -/
theorem of_reached {plan : Plan α} {cols rows : Nat} {entropy : UInt64}
    (catalogued : plan.theme ∈ Theme.all) (wide : 1 ≤ cols) (high : 1 ≤ rows)
    (reached : Reached plan cols rows entropy session) : session.Proper := by
  induction reached with
  | started run =>
    have ready := ready_of_start catalogued run
    obtain ⟨stage, _, _, run⟩ := Runs.of_bind run
    obtain ⟨_, _, _, run⟩ := Runs.of_bind run
    cases (Runs.of_pure run).1
    exact ⟨ready.catalogued, wide, high⟩
  | turned _ run proper => exact proper.of_turn run

end Session.Proper

end Ambience
