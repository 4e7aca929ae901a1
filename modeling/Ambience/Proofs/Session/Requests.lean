import Ambience.Proofs.Session.Batches

/-!
# Themes that other programs ask for

The records that come in before a turn are merged, and only then is the theme among them looked up.
So a turn obeys the last record that names a theme. Where the catalog has no theme of that name, the
name is reported and the theme stays as it was, whatever the records before it asked for: they were
overwritten. A record in a turn of its own is heard in any case, and over many turns the theme is that
of the last batch whose last name is known.
-/

namespace Ambience

/-! ## Names and themes -/

namespace Params

variable {α : Type}

theorem lastName_eq_none_iff {records : List (Params α)} :
    lastName records = .none ↔ ∀ record ∈ records, record.theme = .none := by
  rw [lastName, List.getLast?_eq_none_iff, List.filterMap_eq_nil_iff]

/-- The last name (`lastName`) is one that a record gives. -/
theorem exists_of_lastName {records : List (Params α)} {name : String}
    (last : lastName records = some name) : ∃ record ∈ records, record.theme = some name :=
  List.mem_filterMap.1 (List.mem_of_getLast? last)

variable [Scalar α]

/-- The theme that a record asks for, if there is one of its name. -/
def known? (record : Params α) : Option (Theme α) :=
  record.theme.bind fun name => (Theme.find name).toOption

section Lost

variable {earlier later : List (Params α)} {record : Params α} {theme : Theme α}

/-- A record that asks for a known theme is `granted` it if no name comes after it. -/
theorem granted_of_unnamed (known : record.known? = some theme)
    (unnamed : ∀ other ∈ later, other.theme = .none) :
    granted (earlier ++ record :: later) = some theme := by
  obtain ⟨name, named, found⟩ := Option.bind_eq_some_iff.1 known
  have last : lastName (earlier ++ record :: later) = some name := by
    rw [lastName_append, lastName_cons, lastName_eq_none_iff.2 unnamed, Option.none_or, named,
      Option.some_or]
  rw [granted, last]
  exact found

/-- It is lost if an unknown name comes after it. -/
theorem granted_of_named (unknown : ∀ other ∈ later, other.known? = .none)
    (named : ¬∀ other ∈ later, other.theme = .none) :
    granted (earlier ++ record :: later) = .none := by
  obtain ⟨name, last⟩ := Option.ne_none_iff_exists'.1 (mt lastName_eq_none_iff.1 named)
  obtain ⟨other, member, naming⟩ := exists_of_lastName last
  have missing := unknown other member
  rw [known?, naming] at missing
  rw [granted, lastName_append, lastName_cons, last, Option.some_or, Option.some_or]
  exact missing

end Lost

end Params

/-! ## Parts of a turn -/

namespace Turn

variable {α σ : Type} [Scalar α] {turn after : Turn α σ} {events events' : List (Event α)}

/-- The theme that is shown after another one was asked for, or none. One of the same name is not
shown anew. -/
inductive Follows (shown : Theme α) : Option (Theme α) → Theme α → Prop
  | unasked : Follows shown none shown
  | same {theme : Theme α} : theme.name = shown.name → Follows shown (some theme) shown
  | other {theme : Theme α} : Follows shown (some theme) theme

omit [Scalar α] in
theorem Follows.name_eq {shown theme : Theme α} {wanted : Option (Theme α)}
    (follows : Follows shown wanted theme) : theme.name = (wanted.getD shown).name := by
  cases follows with
  | unasked | other => rfl
  | same same => exact same.symm

omit [Scalar α] in
theorem Follows.eq_of_unasked {shown theme : Theme α} (follows : Follows shown none theme) :
    theme = shown := by
  cases follows
  rfl

variable [Words σ] [Units σ α]

/-- Applying a theme `Follows` what was asked for, and leaves the wishes alone. -/
theorem follows_of_applyTheme {session : Session α σ} {theme : Option (Theme α)}
    {result : Session α σ × Bool} (run : Runs (applyTheme theme session) events result events') :
    Follows session.stage.theme theme result.1.stage.theme ∧ result.1.wishes = session.wishes := by
  unfold applyTheme at run
  split at run
  · cases (Runs.of_pure run).1
    exact ⟨.unasked, rfl⟩
  split at run
  · rename_i sameName
    cases (Runs.of_pure run).1
    exact ⟨.same (beq_iff_eq.1 sameName), rfl⟩
  · obtain ⟨_, _, _, run⟩ := Runs.of_bind run
    obtain ⟨stage, _, switchRun, run⟩ := Runs.of_bind run
    cases (Runs.of_pure run).1
    refine ⟨?_, rfl⟩
    rw [(Stage.of_switchTheme switchRun).1]
    exact .other

/-- What a turn keeps while the terminal is resized. -/
structure Reshaped (turn after : Turn α σ) : Prop where
  stage_theme_eq : after.session.stage.theme = turn.session.stage.theme
  theme_eq : after.theme = turn.theme
  wishes_eq : after.session.wishes = turn.session.wishes
  quit_eq : after.quit = turn.quit

theorem reshaped_of_resize {cols rows : Nat}
    (run : Runs (turn.take (.resize cols rows)) events after events') : Reshaped turn after := by
  unfold take at run
  dsimp only at run
  split at run
  · obtain ⟨stage, _, stageRun, run⟩ := Runs.of_bind run
    cases (Runs.of_pure run).1
    exact ⟨(Stage.keeps_of_relayout stageRun).theme_eq, rfl, rfl, rfl⟩
  · cases (Runs.of_pure run).1
    exact ⟨rfl, rfl, rfl, rfl⟩

/-- Without keys the inputs of a turn only reshape it (`Reshaped`). -/
theorem reshaped_of_takeAll {inputs : List Input} (unkeyed : ∀ key, Input.key key ∉ inputs)
    (goesOn : turn.quit = false) (run : Runs (turn.takeAll inputs) events after events') :
    Reshaped turn after := by
  induction inputs generalizing turn events with
  | nil =>
    cases (Runs.of_pure run).1
    exact ⟨rfl, rfl, rfl, rfl⟩
  | cons input later ih =>
    cases input with
    | key key => exact (unkeyed key List.mem_cons_self).elim
    | resize cols rows =>
      obtain ⟨middle, _, takeRun, run⟩ := Runs.of_bind run
      have first := reshaped_of_resize takeRun
      have middleGoesOn := first.quit_eq.trans goesOn
      rw [middleGoesOn] at run
      have rest := ih (fun key member => unkeyed key (List.mem_cons_of_mem _ member)) middleGoesOn run
      exact ⟨rest.stage_theme_eq.trans first.stage_theme_eq, rest.theme_eq.trans first.theme_eq,
        rest.wishes_eq.trans first.wishes_eq, rest.quit_eq.trans first.quit_eq⟩

end Turn

/-! ## Turns -/

namespace Session

variable {α σ : Type} [Scalar α] [Words σ] [Units σ α] {session last : Session α σ}
  {around : Surroundings α} {outcome : Outcome α σ} {events events' : List (Event α)}

/-- A turn without keys and in which no theme is due shows what its records were granted
(`Params.granted`). -/
theorem follows_of_turn (unkeyed : ∀ key, Input.key key ∉ around.inputs)
    (undue : around.cycleDue = false) (run : Runs (session.turn around) events outcome events') :
    Turn.Follows session.stage.theme (Params.granted (session.wishes :: around.wishes))
        outcome.session.stage.theme ∧
      outcome.session.wishes = .none := by
  cases of_turn run with
  | ended takeRun quits =>
    rw [(Turn.reshaped_of_takeAll unkeyed rfl takeRun).quit_eq] at quits
    cases quits
  | @drawn taken wished controlled themed _ _ _ _ _ _ _ _ takeRun _ wishRun controlsRun themeRun
      drawRun =>
    have taken := Turn.reshaped_of_takeAll unkeyed rfl takeRun
    obtain ⟨wishes, -⟩ := Turn.of_wish wishRun
    rw [undue] at controlsRun themeRun
    obtain ⟨sameTheme, -, sameWishes, -⟩ := Turn.of_applyControls controlsRun
    obtain ⟨follows, themedWishes⟩ := Turn.follows_of_applyTheme themeRun
    obtain ⟨keeps, -, drawnWishes⟩ := of_draw drawRun
    have wanted : wished.theme = Params.granted (session.wishes :: around.wishes) := by
      rw [wishes.theme_eq, taken.theme_eq, taken.wishes_eq]
      exact Option.or_none
    have shown : controlled.stage.theme = session.stage.theme := by
      rw [sameTheme]
      show wished.session.stage.theme = _
      rw [wishes.session_eq]
      exact taken.stage_theme_eq
    constructor
    · rw [keeps.theme_eq, ← wanted, ← shown]
      exact follows
    · rw [drawnWishes, themedWishes, sameWishes]
      show wished.session.wishes = .none
      rw [wishes.session_eq]

/-- A turn in which nothing was typed and no theme was due obeys the last of its records that names
a theme (`Params.granted`); where there is no theme of that name, or no record names one, the theme
stays. So the last record that asks for a known theme (`Params.known?`) is obeyed just where no
other name comes after it, unless its theme is shown already. -/
theorem theme_of_records (unkeyed : ∀ key, Input.key key ∉ around.inputs)
    (undue : around.cycleDue = false) (run : Runs (session.turn around) events outcome events') :
    outcome.session.stage.theme.name =
        ((Params.granted (session.wishes :: around.wishes)).getD session.stage.theme).name ∧
      (Params.granted (session.wishes :: around.wishes) = none →
        outcome.session.stage.theme = session.stage.theme) ∧
      ∀ (earlier later : List (Params α)) (record : Params α) (theme : Theme α),
        around.wishes = earlier ++ record :: later → record.known? = some theme →
        (∀ other ∈ later, other.known? = none) →
        (outcome.session.stage.theme.name = theme.name ↔
          (∀ other ∈ later, other.theme = none) ∨ session.stage.theme.name = theme.name) := by
  have follows := (follows_of_turn unkeyed undue run).1
  refine ⟨follows.name_eq, fun missing => ?_, fun earlier later record theme cut known unknown => ?_⟩
  · rw [missing] at follows
    exact follows.eq_of_unasked
  · rw [follows.name_eq, cut, ← List.cons_append]
    by_cases unnamed : ∀ other ∈ later, other.theme = none
    · rw [Params.granted_of_unnamed known unnamed]
      exact ⟨fun _ => .inl unnamed, fun _ => rfl⟩
    · rw [Params.granted_of_named unknown unnamed]
      exact ⟨.inr, fun holds => holds.resolve_left unnamed⟩

/-! ## Many turns -/

/-- A session after turns in which batches of records came in, nothing was typed and no theme was
due. -/
inductive Heard : Session α σ → List (List (Params α)) → Session α σ → Prop
  | rests {session : Session α σ} : Heard session [] session
  | turned {session last : Session α σ} {around : Surroundings α} {batch : List (Params α)}
      {later : List (List (Params α))} {outcome : Outcome α σ} {events events' : List (Event α)} :
    (∀ key, Input.key key ∉ around.inputs) → around.cycleDue = false → around.wishes = batch →
    Runs (session.turn around) events outcome events' → Heard outcome.session later last →
    Heard session (batch :: later) last

/-- Over many turns (`Heard`) the theme is that of the last batch whose last name is known. -/
theorem Heard.name_eq {cut : List (List (Params α))} (heard : Heard session cut last)
    (quiet : session.wishes = .none) :
    last.stage.theme.name =
      ((cut.filterMap Params.granted).getLast?.getD session.stage.theme).name := by
  induction heard with
  | rests => rfl
  | @turned session last around batch later outcome _ _ unkeyed undue wishes run _ ih =>
    obtain ⟨follows, quiet'⟩ := follows_of_turn unkeyed undue run
    have granted : Params.granted (session.wishes :: around.wishes) = Params.granted batch := by
      rw [Params.granted, Params.lastName_cons, quiet, wishes]
      exact congrArg (Option.bind · _) Option.or_none
    rw [granted] at follows
    rw [ih quiet', List.filterMap_cons]
    cases grantedNow : Params.granted batch with
    | none =>
      rw [grantedNow] at follows
      rw [follows.eq_of_unasked]
    | some theme =>
      rw [grantedNow] at follows
      dsimp only
      rw [List.getLast?_cons, Option.getD_some]
      cases (later.filterMap Params.granted).getLast? with
      | none => exact follows.name_eq
      | some theme' => rfl

/-- Hears batches of records, in turns of one length. -/
def hear (seconds fps : α) (session : Session α σ) :
    List (List (Params α)) → Reporting α (Session α σ)
  | [] => return session
  | batch :: later => do
    let outcome ← session.turn ⟨[], batch, false, seconds, fps⟩
    hear seconds fps outcome.session later

theorem heard_of_hear {cut : List (List (Params α))} {seconds fps : α}
    (run : Runs (hear seconds fps session cut) events last events') : Heard session cut last := by
  induction cut generalizing session events with
  | nil =>
    cases (Runs.of_pure run).1
    exact .rests
  | cons batch later ih =>
    obtain ⟨outcome, _, turnRun, run⟩ := Runs.of_bind run
    exact .turned (fun _ => List.not_mem_nil) rfl rfl turnRun (ih run)

/-- A record that asks for the garden, and one that asks for a theme that there is not. -/
def misspelled : List (Params ℚ) := [⟨some "zen", none, none, none⟩, ⟨some "volcano", none, none, none⟩]

/-- A paused session, and what the two records make of it in one turn and in two. -/
def hearTwice :
    Reporting ℚ (Session ℚ Random.Stream × Session ℚ Random.Stream × Session ℚ Random.Stream) := do
  let session ← pausedSnow
  let together ← hear 0.02 30 session [misspelled]
  let apart ← hear 0.02 30 session (misspelled.map fun record => [record])
  return (session, together, apart)

/-- The garden is lost when the wrong name comes in the same turn, and shown when it comes in the
next. -/
theorem records_of_one_turn :
    misspelled.map (fun record => record.known?.map Theme.name) = [some "zen", none] ∧
    ∃ session together apart : Session ℚ Random.Stream,
      Heard session [misspelled] together ∧
      Heard session (misspelled.map fun record => [record]) apart ∧
      session.stage.theme.name = "snowfall" ∧ together.stage.theme.name = "snowfall" ∧
      apart.stage.theme.name = "zen" := by
  have ends : (hearTwice.run []).toOption.any (fun ended =>
      ended.1.1.stage.theme.name == "snowfall" && ended.1.2.1.stage.theme.name == "snowfall" &&
        ended.1.2.2.stage.theme.name == "zen") = true := by
    decide +kernel
  obtain ⟨⟨⟨session, together, apart⟩, _⟩, run, checked⟩ := of_any_toOption ends
  obtain ⟨paused, _, pauseRun, run⟩ := Runs.of_bind run
  obtain ⟨first, _, firstRun, run⟩ := Runs.of_bind run
  obtain ⟨second, _, secondRun, run⟩ := Runs.of_bind run
  cases (Runs.of_pure run).1
  simp only [Bool.and_eq_true, beq_iff_eq] at checked
  obtain ⟨⟨snow, kept⟩, garden⟩ := checked
  exact ⟨by decide +kernel, session, together, apart, heard_of_hear firstRun,
    heard_of_hear secondRun, snow, kept, garden⟩

/-- A larger terminal, a wrong name, the garden and a lighter palette. -/
def gardenRequest : Surroundings ℚ where
  inputs := [.resize 12 6]
  wishes := [⟨some "volcano", none, none, none⟩, ⟨some " Zen ", none, none, none⟩,
    ⟨none, some false, none, none⟩]
  cycleDue := false
  seconds := 0.02
  fps := 30

/-- The garden is shown, for nothing after it names a theme. -/
theorem theme_of_gardenRequest :
    ∃ (session : Session ℚ Random.Stream) (outcome : Outcome ℚ Random.Stream)
      (events events' : List (Event ℚ)),
      Runs (session.turn gardenRequest) events outcome events' ∧ session.wishes = .none ∧
      outcome.session.stage.theme.name = "zen" := by
  have ends : ((pausedSnow >>= fun session => session.turn gardenRequest).run []).toOption.any
      (fun _ => true) = true := by
    decide +kernel
  obtain ⟨⟨outcome, events'⟩, run, -⟩ := of_any_toOption ends
  obtain ⟨session, events, pauseRun, turnRun⟩ := Runs.of_bind run
  have asked : (Params.known? (⟨some " Zen ", none, none, none⟩ : Params ℚ)).map Theme.name =
      some "zen" := by
    decide +kernel
  obtain ⟨theme, known, name⟩ := Option.map_eq_some_iff.1 asked
  obtain ⟨-, -, obeyed⟩ := theme_of_records (by simp [gardenRequest]) rfl turnRun
  have shown := (obeyed [_] [_] _ theme rfl known (by simp [Params.known?])).2 (.inl (by simp))
  exact ⟨session, outcome, events, events', turnRun, (ready_of_pausedSnow pauseRun).quiet,
    shown.trans name⟩

end Session

end Ambience
