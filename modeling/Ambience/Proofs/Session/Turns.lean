import Ambience.Proofs.Runs
import Ambience.Proofs.Wishes
import Ambience.Session

/-!
# The parts of a turn

A turn first takes what was typed and how its terminal was resized. That may end the session; if it
does not, the turn takes what other programs wish, applies the controls and the theme that it has
come to, and draws. A successful turn is taken apart into the runs of these parts, and what holds of a
turn is shown part by part.
-/

namespace Ambience

/-! ## The theme that records ask for -/

namespace Params

variable {α : Type}

/-- The last name that some records give to a theme. -/
def lastName (records : List (Params α)) : Option String := (records.filterMap theme).getLast?

/-- The last name that some records give is that of the later ones, if they give any. -/
theorem lastName_append (earlier later : List (Params α)) :
    lastName (earlier ++ later) = (lastName later).or (lastName earlier) := by
  unfold lastName
  rw [List.filterMap_append, List.getLast?_append]

theorem lastName_cons (record : Params α) (later : List (Params α)) :
    lastName (record :: later) = (lastName later).or record.theme := by
  have single : lastName [record] = record.theme := by
    unfold lastName
    rw [List.filterMap_cons, List.filterMap_nil]
    cases record.theme <;> rfl
  rw [← List.singleton_append, lastName_append, single]

/-- Merged records (`Params.merge`) keep the last name that was given. -/
theorem theme_merged (collected : Params α) (records : List (Params α)) :
    (records.foldl merge collected).theme = lastName (collected :: records) := by
  rw [lastName_cons]
  refine foldl_latest Params.theme merge Params.theme (fun record _ before => ?_) collected
  exact Option.orElse_eq_or

variable [Scalar α]

/-- The theme that merged records lead to: the one of the last name, if there is one. -/
def granted (records : List (Params α)) : Option (Theme α) :=
  (lastName records).bind fun name => (Theme.find name).toOption

/-- What is reported of merged records: the last name, if no theme has it. -/
def refused (records : List (Params α)) : List (Event α) :=
  match (lastName records).map Theme.find with
  | some (.error error : Except ThemeError (Theme α)) => [.themeRefused error]
  | _ => []

end Params

variable {α σ : Type} [Scalar α]

namespace Turn

variable {turn after : Turn α σ} {events events' : List (Event α)}

/-- What records make of the theme of a turn. No wish is left over. -/
structure Wished (turn : Turn α σ) (records : List (Params α)) (after : Turn α σ) : Prop where
  theme_eq : after.theme = (Params.granted (turn.session.wishes :: records)).or turn.theme
  session_eq : after.session = { turn.session with wishes := .none }

/-- Records make of a turn what `Wished` says, and the last name is reported if it is refused. -/
theorem of_wish {records : List (Params α)} (run : Runs (turn.wish records) events after events') :
    Wished turn records after ∧
      events' = events ++ Params.refused (turn.session.wishes :: records) := by
  unfold wish at run
  dsimp only [Params.takeTheme, Params.takeControls] at run
  rw [Params.theme_merged] at run
  unfold Params.refused
  split at run
  · rename_i unnamed
    obtain ⟨rfl, rfl⟩ := Runs.of_pure run
    rw [unnamed]
    refine ⟨⟨?_, rfl⟩, (List.append_nil _).symm⟩
    rw [Params.granted, Option.map_eq_none_iff.1 unnamed]
    rfl
  · rename_i theme known
    obtain ⟨rfl, rfl⟩ := Runs.of_pure run
    rw [known]
    obtain ⟨name, last, found⟩ := Option.map_eq_some_iff.1 known
    refine ⟨⟨?_, rfl⟩, (List.append_nil _).symm⟩
    rw [Params.granted, last, Option.bind_some, found]
    rfl
  · rename_i error unknown
    obtain ⟨_, _, reportRun, run⟩ := Runs.of_bind run
    obtain ⟨rfl, rfl⟩ := Runs.of_pure run
    cases reportRun
    rw [unknown]
    obtain ⟨name, last, found⟩ := Option.map_eq_some_iff.1 unknown
    refine ⟨⟨?_, rfl⟩, rfl⟩
    rw [Params.granted, last, Option.bind_some, found]
    rfl

end Turn

/-! ## Whole turns -/

/-- A turn of a session that has taken nothing yet. -/
def Session.opening (session : Session α σ) : Turn α σ :=
  { session, controls := session.stage.controls, theme := none, quit := false }

/-- The turn with a wish for the next theme, if the theme has been shown for as long as planned. -/
def Turn.due (turn : Turn α σ) (cycleDue : Bool) : Turn α σ :=
  if cycleDue then turn.cycle 1 else turn

namespace Session

variable [Words σ] [Units σ α] {session : Session α σ} {around : Surroundings α}
  {outcome : Outcome α σ} {events events' : List (Event α)}

/-- What a turn comes to, with the runs of its parts. -/
inductive Turned (session : Session α σ) (around : Surroundings α) : Outcome α σ → Prop
  | ended {taken : Turn α σ} {events events' : List (Event α)} :
    Runs (session.opening.takeAll around.inputs) events taken events' → taken.quit = true →
    Turned session around
      { session := taken.session, marks := [], drew := false, switched := false, quit := true }
  | drawn {taken wished : Turn α σ} {controlled themed : Session α σ} {switched : Bool}
      {outcome : Outcome α σ} {events events₁ events₂ events₃ events₄ events' : List (Event α)} :
    Runs (session.opening.takeAll around.inputs) events taken events₁ → taken.quit = false →
    Runs (taken.wish around.wishes) events₁ wished events₂ →
    Runs (wished.due around.cycleDue).applyControls events₂ controlled events₃ →
    Runs (Turn.applyTheme (wished.due around.cycleDue).theme controlled) events₃ (themed, switched)
      events₄ →
    Runs (themed.draw around.seconds around.fps switched) events₄ outcome events' →
    Turned session around outcome

/-- A turn that succeeds has gone through its parts in the order that `Turned` lists. -/
theorem of_turn (run : Runs (session.turn around) events outcome events') :
    Turned session around outcome := by
  obtain ⟨taken, _, takeRun, run⟩ := Runs.of_bind run
  split at run
  · rename_i quits
    cases (Runs.of_pure run).1
    exact .ended takeRun quits
  rename_i goesOn
  obtain ⟨wished, _, wishRun, run⟩ := Runs.of_bind run
  obtain ⟨controlled, _, controlsRun, run⟩ := Runs.of_bind run
  obtain ⟨⟨themed, switched⟩, _, themeRun, drawRun⟩ := Runs.of_bind run
  exact .drawn takeRun (Bool.eq_false_iff.2 goesOn) wishRun controlsRun themeRun drawRun

end Session

end Ambience
