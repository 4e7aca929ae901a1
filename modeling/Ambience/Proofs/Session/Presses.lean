import Ambience.Proofs.Player.Settings
import Ambience.Proofs.Session.Turns
import Ambience.Proofs.Theme.Order

/-!
# What keys do in a turn

The keys of a turn change the colour mode and the status bar at once, each from what the one before
it left. So they do with the controls, which are applied after the last of them. The theme is another
matter: each key that asks for another one asks from the theme that is shown, so that of several only
the last counts.
-/

namespace Ambience

/-! ## Single keys -/

namespace Key

/-- Whether a key ends a session. -/
def ends (key : Key) : Bool := key == .char 'q' || key == .escape

/-- By how many places a key asks to go on in the catalog of themes. -/
def offset? : Key → Option Int
  | .right | .char 'n' => some 1
  | .left | .char 'p' => some (-1)
  | _ => none

/-- What the last of some keys that asks for another theme asks for. -/
def requested : List Key → Option Int
  | [] => none
  | key :: later => (requested later).or key.offset?

end Key

def Controls.press {α : Type} [Scalar α] (controls : Controls α) : Key → Controls α
  | .char 'd' => { controls with dark := !controls.dark }
  | .char '+' | .char '=' => controls.withOpacity (controls.opacity + Turn.opacityStep)
  | .char '-' => controls.withOpacity (controls.opacity + -Turn.opacityStep)
  | .char ' ' => { controls with active := !controls.active }
  | _ => controls

/-- What keys change at once. -/
structure Look where
  mode : Option ColorMode
  hidden : Bool

def Look.press (look : Look) : Key → Look
  | .char 'c' => { look with mode := look.mode.map ColorMode.next }
  | .char 'h' => { look with hidden := !look.hidden }
  | _ => look

variable {α σ : Type}

def Session.look (session : Session α σ) : Look := ⟨session.stage.mode, session.hidden⟩

/-! ## Keys of a turn -/

variable [Scalar α] [Words σ] [Units σ α] {events events' : List (Event α)}

namespace Turn

variable {turn middle after : Turn α σ} {keys : List Key}

/-- What a turn has taken after some keys that go on with the session. -/
structure Pressed (turn : Turn α σ) (keys : List Key) (after : Turn α σ) : Prop where
  controls_eq : after.controls = keys.foldl Controls.press turn.controls
  look_eq : after.session.look = keys.foldl Look.press turn.session.look
  theme_eq : after.theme =
    ((Key.requested keys).map (Theme.after turn.session.stage.theme.name)).or turn.theme
  stage_theme_eq : after.session.stage.theme = turn.session.stage.theme
  stage_controls_eq : after.session.stage.controls = turn.session.stage.controls
  wishes_eq : after.session.wishes = turn.session.wishes
  quit_eq : after.quit = turn.quit

omit [Words σ] [Units σ α] in
/-- A key and then others are `Pressed` in one turn. -/
theorem Pressed.cons {key : Key} (first : Pressed turn [key] middle)
    (rest : Pressed middle keys after) : Pressed turn (key :: keys) after where
  controls_eq := by rw [rest.controls_eq, first.controls_eq]; rfl
  look_eq := by rw [rest.look_eq, first.look_eq]; rfl
  theme_eq := by
    rw [rest.theme_eq, first.theme_eq, first.stage_theme_eq]
    show _ = (Option.map _ ((Key.requested keys).or key.offset?)).or _
    cases Key.requested keys with
    | none => rfl
    | some offset => rfl
  stage_theme_eq := rest.stage_theme_eq.trans first.stage_theme_eq
  stage_controls_eq := rest.stage_controls_eq.trans first.stage_controls_eq
  wishes_eq := rest.wishes_eq.trans first.wishes_eq
  quit_eq := rest.quit_eq.trans first.quit_eq

omit [Words σ] [Units σ α] in
/-- A key that changes neither the controls nor the look and asks for no theme leaves a turn as it
is. -/
theorem pressed_of_idle {key : Key} (controls : ∀ controls : Controls α, controls.press key = controls)
    (look : ∀ look : Look, look.press key = look) (offset : key.offset? = none) :
    Pressed turn [key] turn where
  controls_eq := (controls turn.controls).symm
  look_eq := (look turn.session.look).symm
  theme_eq := by
    rw [Key.requested, Key.requested, offset]
    rfl
  stage_theme_eq := rfl
  stage_controls_eq := rfl
  wishes_eq := rfl
  quit_eq := rfl

/-- A character that goes on with the session changes what `Controls.press`, `Look.press` and
`Key.requested` say. -/
theorem pressed_of_char {c : Char} (lasts : (Key.char c).ends = false)
    (run : Runs (turn.char c) events after events') : Pressed turn [.char c] after := by
  unfold char at run
  dsimp only at run
  split at run
  case h_1 => cases lasts
  case h_9 =>
    cases (Runs.of_pure run).1
    refine ⟨rfl, ?_, rfl, rfl, rfl, rfl, rfl⟩
    show (⟨_, turn.session.hidden⟩ : Look) = ⟨turn.session.stage.mode.map ColorMode.next, _⟩
    rw [Stage.mode_withMode, Stage.mode]
    cases turn.session.stage.surface with
    | none => rfl
    | some canvas => rfl
  case h_10 =>
    obtain ⟨stage, _, stageRun, run⟩ := Runs.of_bind run
    cases (Runs.of_pure run).1
    have keeps := Stage.keeps_of_relayout stageRun
    refine ⟨rfl, ?_, rfl, keeps.theme_eq, keeps.controls_eq, rfl, rfl⟩
    exact congrArg (fun mode => (⟨mode, !turn.session.hidden⟩ : Look)) keeps.mode_eq
  case h_11 =>
    cases (Runs.of_pure run).1
    refine pressed_of_idle (fun controls => ?_) (fun look => ?_) ?_
    · unfold Controls.press
      split <;> simp_all
    · unfold Look.press
      split <;> simp_all
    · unfold Key.offset?
      split <;> simp_all
  all_goals
    cases (Runs.of_pure run).1
    exact ⟨rfl, rfl, rfl, rfl, rfl, rfl, rfl⟩

theorem pressed_of_take {key : Key} (lasts : key.ends = false)
    (run : Runs (turn.take (.key key)) events after events') : Pressed turn [key] after := by
  cases key with
  | char c => exact pressed_of_char lasts run
  | escape => cases lasts
  | left | right =>
    cases (Runs.of_pure run).1
    exact ⟨rfl, rfl, rfl, rfl, rfl, rfl, rfl⟩
  | other =>
    cases (Runs.of_pure run).1
    exact pressed_of_idle (fun _ => rfl) (fun _ => rfl) rfl

/-- The keys of a turn are `Pressed` one after another. -/
theorem pressed_of_takeAll (lasts : ∀ key ∈ keys, key.ends = false) (goesOn : turn.quit = false)
    (run : Runs (turn.takeAll (keys.map .key)) events after events') : Pressed turn keys after := by
  induction keys generalizing turn events with
  | nil =>
    cases (Runs.of_pure run).1
    exact ⟨rfl, rfl, rfl, rfl, rfl, rfl, rfl⟩
  | cons key later ih =>
    obtain ⟨middle, _, takeRun, run⟩ := Runs.of_bind run
    have first := pressed_of_take (lasts key List.mem_cons_self) takeRun
    have middleGoesOn := first.quit_eq.trans goesOn
    rw [middleGoesOn] at run
    exact first.cons
      (ih (fun typed member => lasts typed (List.mem_cons_of_mem _ member)) middleGoesOn run)

/-! ## Changes that are applied at once -/

variable {session : Session α σ}

/-- When the controls of a turn are applied, the stage has them or had controls that agree with
them, and nothing else of its settings changes. -/
theorem of_applyControls (run : Runs turn.applyControls events session events') :
    session.stage.theme = turn.session.stage.theme ∧ session.look = turn.session.look ∧
      session.wishes = turn.session.wishes ∧
      (session.stage.controls = turn.controls ∨
        session.stage.controls = turn.session.stage.controls ∧
          turn.controls.agree turn.session.stage.controls = true) := by
  unfold applyControls at run
  dsimp only at run
  split at run
  · rename_i agree
    cases (Runs.of_pure run).1
    exact ⟨rfl, rfl, rfl, .inr ⟨rfl, agree⟩⟩
  · obtain ⟨stage, _, configureRun, run⟩ := Runs.of_bind run
    cases (Runs.of_pure run).1
    have configured := Player.of_configure configureRun
    refine ⟨configured.theme_eq, ?_, rfl, .inl configured.controls_eq⟩
    rw [Session.look, Session.look, Stage.mode_of_configured configured]

/-- When the theme of a turn is applied, the stage shows it, or goes on with its own if there is
none. -/
theorem of_applyTheme {theme : Option (Theme α)} {result : Session α σ × Bool}
    (catalogued : session.stage.theme ∈ Theme.all) (member : ∀ other ∈ theme, other ∈ Theme.all)
    (run : Runs (applyTheme theme session) events result events') :
    result.1.stage.theme = theme.getD session.stage.theme ∧ result.1.look = session.look ∧
      result.1.wishes = session.wishes ∧ result.1.stage.controls = session.stage.controls := by
  unfold applyTheme at run
  split at run
  · cases (Runs.of_pure run).1
    exact ⟨rfl, rfl, rfl, rfl⟩
  rename_i other
  split at run
  · rename_i sameName
    cases (Runs.of_pure run).1
    have same := Theme.eq_of_name (member other rfl) catalogued (beq_iff_eq.1 sameName)
    exact ⟨same.symm, rfl, rfl, rfl⟩
  · obtain ⟨_, _, _, run⟩ := Runs.of_bind run
    obtain ⟨stage, _, switchRun, run⟩ := Runs.of_bind run
    cases (Runs.of_pure run).1
    obtain ⟨theme, controls, mode⟩ := Stage.of_switchTheme switchRun
    refine ⟨theme, ?_, rfl, controls⟩
    rw [Session.look, Session.look, mode]

omit [Words σ] [Units σ α] in
theorem of_wish_nil (quiet : turn.session.wishes = .none)
    (run : Runs (turn.wish []) events after events') : after = turn := by
  obtain ⟨⟨cols, rows, hidden, stage, wishes, stale⟩, controls, theme, quit⟩ := turn
  cases quiet
  cases (Runs.of_pure run).1
  rfl

end Turn

/-! ## Whole turns -/

namespace Session

variable {session : Session α σ} {outcome : Outcome α σ} {keys : List Key} {seconds fps : α}

/-- Drawing `Keeps` the settings of the stage and of the session. -/
theorem of_draw {switched : Bool}
    (run : Runs (session.draw seconds fps switched) events outcome events') :
    Stage.Keeps session.stage outcome.session.stage ∧
      outcome.session.hidden = session.hidden ∧ outcome.session.wishes = session.wishes := by
  unfold draw at run
  dsimp only at run
  obtain ⟨⟨stage, drew⟩, _, deliverRun, run⟩ := Runs.of_bind run
  cases (Runs.of_pure run).1
  exact ⟨Stage.keeps_of_deliver deliverRun, rfl, rfl⟩

/-- A turn in which nothing happens but that some keys were typed. -/
def typing (keys : List Key) (seconds fps : α) : Surroundings α :=
  { inputs := keys.map .key, wishes := [], cycleDue := false, seconds, fps }

/-- A session that shows a theme of the catalog and to which nothing was wished. -/
structure Ready (session : Session α σ) : Prop where
  catalogued : session.stage.theme ∈ Theme.all
  quiet : session.wishes = .none

/-- A session that starts with a theme of the catalog is ready for keys. -/
theorem ready_of_start {plan : Plan α} {cols rows : Nat} {entropy : UInt64}
    (catalogued : plan.theme ∈ Theme.all)
    (run : Runs (start plan cols rows entropy) events session events') : session.Ready := by
  obtain ⟨stage, _, openRun, run⟩ := Runs.of_bind run
  obtain ⟨_, _, _, run⟩ := Runs.of_bind run
  cases (Runs.of_pure run).1
  unfold Stage.opened Player.mount at openRun
  have shown : stage.theme = plan.theme := (Player.of_activate openRun).theme_eq
  refine ⟨?_, rfl⟩
  show stage.theme ∈ Theme.all
  rw [shown]
  exact catalogued

/-- What keys that go on with a session make of it in one turn. Controls that agree with those of the
session are not applied. -/
structure Typed (session : Session α σ) (keys : List Key) (after : Session α σ) : Prop where
  ready : Ready after
  theme_eq :
    after.stage.theme = Theme.after session.stage.theme.name ((Key.requested keys).getD 0)
  look_eq : after.look = keys.foldl Look.press session.look
  controls_eq :
    after.stage.controls = keys.foldl Controls.press session.stage.controls ∨
      after.stage.controls = session.stage.controls ∧
        (keys.foldl Controls.press session.stage.controls).agree session.stage.controls = true

/-- The parts of a turn in which keys were typed that go on with the session. -/
theorem of_typing (quiet : session.wishes = .none) (lasts : ∀ key ∈ keys, key.ends = false)
    (run : Runs (session.turn (typing keys seconds fps)) events outcome events') :
    ∃ taken controlled themed switched events₁ events₂ events₃ events₄,
      Turn.Pressed { session, controls := session.stage.controls, theme := none, quit := false } keys
        taken ∧
      Runs taken.applyControls events₁ controlled events₂ ∧
      Runs (Turn.applyTheme taken.theme controlled) events₂ (themed, switched) events₃ ∧
      Runs (themed.draw seconds fps switched) events₃ outcome events₄ := by
  cases of_turn run with
  | ended takeRun quits =>
    have pressed := Turn.pressed_of_takeAll lasts rfl takeRun
    rw [pressed.quit_eq] at quits
    cases quits
  | @drawn taken wished _ _ _ _ _ _ _ _ _ _ takeRun _ wishRun controlsRun themeRun drawRun =>
    have pressed := Turn.pressed_of_takeAll lasts rfl takeRun
    obtain rfl : wished = taken := Turn.of_wish_nil (pressed.wishes_eq.trans quiet) wishRun
    exact ⟨wished, _, _, _, _, _, _, _, pressed, controlsRun, themeRun, drawRun⟩

/-- A turn in which keys were typed leaves the settings that the keys make of those before it
(`Typed`). -/
theorem typed_of_turn (ready : session.Ready) (lasts : ∀ key ∈ keys, key.ends = false)
    (run : Runs (session.turn (typing keys seconds fps)) events outcome events') :
    Typed session keys outcome.session := by
  obtain ⟨taken, controlled, themed, switched, _, _, _, _, pressed, controlsRun, themeRun, drawRun⟩ :=
    of_typing ready.quiet lasts run
  obtain ⟨theme, sameLook, wishes, controls⟩ := Turn.of_applyControls controlsRun
  have sameTheme : controlled.stage.theme = session.stage.theme := theme.trans pressed.stage_theme_eq
  have catalogued : controlled.stage.theme ∈ Theme.all := by
    rw [sameTheme]
    exact ready.catalogued
  have wanted : taken.theme = (Key.requested keys).map (Theme.after session.stage.theme.name) :=
    pressed.theme_eq.trans (Option.or_none ..)
  have wantedCatalogued : ∀ theme ∈ taken.theme, theme ∈ Theme.all := by
    intro theme wish
    rw [wanted] at wish
    obtain ⟨offset, -, rfl⟩ := Option.map_eq_some_iff.1 wish
    exact Theme.after_mem ready.catalogued offset
  obtain ⟨theme', sameLook', wishes', controls'⟩ :=
    Turn.of_applyTheme catalogued wantedCatalogued themeRun
  obtain ⟨keeps, hidden, drawnWishes⟩ := of_draw drawRun
  have reached : outcome.session.stage.theme =
      Theme.after session.stage.theme.name ((Key.requested keys).getD 0) := by
    rw [keeps.theme_eq, theme', sameTheme, wanted]
    cases Key.requested keys with
    | none => exact (Theme.after_zero ready.catalogued).symm
    | some offset => rfl
  refine ⟨⟨?_, ?_⟩, reached, ?_, ?_⟩
  · rw [reached]
    exact Theme.after_mem ready.catalogued _
  · rw [drawnWishes, wishes', wishes, pressed.wishes_eq]
    exact ready.quiet
  · have drawnLook : outcome.session.look = themed.look := by
      rw [look, look, keeps.mode_eq, hidden]
    rw [drawnLook, sameLook', sameLook]
    exact pressed.look_eq
  · rw [keeps.controls_eq, controls', ← pressed.controls_eq]
    rw [pressed.stage_controls_eq] at controls
    exact controls

end Session

end Ambience
