import ChipEight.Proofs.Session.Steps

/-!
# No redraw is lost

The surface loop takes the redraw flag down when it takes a picture, and shows the picture
later and without holding the machine. Meanwhile the cpu loop may draw any number of times.
While the flag is down the screen has nevertheless not moved on: a picture that waits to be
shown is a picture of the present screen, and where none waits, the picture shown last is.

The invariant `Current` says so for one state. A step of the cpu loop either keeps the screen
or leaves the flag raised, because a cycle that changes the screen answers that it drew. A step
of the surface loop takes the flag down only together with a picture, unless there is nothing
to show that is not already on the display.
-/

namespace ChipEight.Session

/-- The picture that was taken and waits to be shown. -/
def pending? (session : Session) : Option Frame :=
  match session.surface with
  | .displaying _ frame => some frame
  | _ => none

/-- While the flag is down, the newest picture is a picture of the present screen. The picture
shown last is known only while no display call was refused. -/
structure Current (around : Surroundings) (session : Session) : Prop where
  waiting : session.console.redraw = false → ∀ frame, session.pending? = some frame →
    frame.screen = session.console.machine.screen
  shown : session.console.redraw = false →
    (∀ call < session.displays, around.refusal call = none) → session.pending? = none →
    ∃ frame, session.shown = some frame ∧ frame.screen = session.console.machine.screen

variable {around : Surroundings} {session after : Session}

/-- A step that neither takes nor shows a picture keeps the newest one current, if it raises the
flag where it changes the screen and never takes the flag down. -/
theorem Current.kept (current : session.Current around)
    (quiet : after.console.redraw = false →
      session.console.redraw = false ∧
        after.console.machine.screen = session.console.machine.screen)
    (pending : after.pending? = session.pending?) (displays : after.displays = session.displays)
    (shown : after.shown = session.shown) : after.Current around where
  waiting := by
    intro low frame waits
    obtain ⟨lowBefore, same⟩ := quiet low
    rw [same]
    exact current.waiting lowBefore frame (pending ▸ waits)
  shown := by
    intro low accepted idle
    obtain ⟨lowBefore, same⟩ := quiet low
    rw [same, shown]
    exact current.shown lowBefore (displays ▸ accepted) (pending ▸ idle)

/-- While a pass of the cpu loop leaves the flag down, it leaves the screen alone. -/
theorem stepCpu_quiet (low : (session.stepCpu around).console.redraw = false) :
    session.console.redraw = false ∧
      (session.stepCpu around).console.machine.screen = session.console.machine.screen := by
  rw [stepCpu_console] at low ⊢
  cases phase : session.cpu with
  | acting loop fired =>
    simp only [phase] at low ⊢
    cases broken : session.brokenPass? around loop fired with
    | some requests =>
      simp only [broken] at low ⊢
      exact ⟨low, (breakDown_surface broken).1⟩
    | none =>
      simp only [broken] at low ⊢
      have effect := CpuLoop.act_effect loop fired session.console
      have unasked : ¬ (session.console.redraw = true ∨
          session.console.machine.answer? fired = some (.ok .drawn)) := fun asked =>
        Bool.false_ne_true (low.symm.trans (effect.redraw.mpr asked))
      obtain ⟨lowBefore, undrawn⟩ := not_or.mp unasked
      refine ⟨Bool.eq_false_iff.mpr lowBefore, ?_⟩
      rw [effect.machine]
      exact Machine.poll_screen session.console.machine fired undrawn
  | starting => simpa [phase] using low
  | checking loop => simpa [phase] using low
  | polling loop => simpa [phase] using low
  | ended result => simpa [phase] using low

/-- A step of the cpu loop keeps the newest picture current. -/
theorem Current.stepCpu (current : session.Current around) :
    (session.stepCpu around).Current around := by
  have kept := stepCpu_kept around session
  refine current.kept stepCpu_quiet ?_ kept.displays kept.shown
  rw [pending?, pending?, kept.surface]

/-- Taking a picture, where one is due, makes it the newest one. -/
theorem Current.framed (current : session.Current around) {loop : SurfaceLoop} {now : Instant}
    (phase : session.surface = .framing loop now) :
    (session.stepSurface around).Current around := by
  have idle : session.pending? = none := by rw [pending?, phase]
  cases due : (loop.ticker.fire now).2 with
  | false =>
    have early := loop.snapshot_early now session.console due
    refine current.kept ?_ ?_ ?_ ?_ <;>
      simp [stepSurface, phase, early, pending?]
  | true =>
    obtain ⟨taken, picture⟩ := loop.snapshot_due now session.console due
    have screen : (session.stepSurface around).console.machine.screen =
        session.console.machine.screen := by
      simp [stepSurface, phase, taken]
    rcases picture with ⟨nothing, low⟩ | ⟨frame, something, present⟩
    · refine current.kept (fun _ => ⟨low, screen⟩) ?_ ?_ ?_ <;>
        simp [stepSurface, phase, nothing, pending?]
    · have waits : (session.stepSurface around).pending? = some frame := by
        simp [stepSurface, phase, something, pending?]
      constructor
      · intro _ other waitsToo
        obtain rfl : frame = other := Option.some.inj (waits.symm.trans waitsToo)
        rw [screen, present]
      · intro _ _ gone
        rw [waits] at gone
        nomatch gone

/-- A step of the surface loop keeps the newest picture current. -/
theorem Current.stepSurface (current : session.Current around) :
    (session.stepSurface around).Current around := by
  cases phase : session.surface with
  | framing loop now => exact current.framed phase
  | displaying loop frame =>
    have waits : session.pending? = some frame := by rw [pending?, phase]
    cases refused : around.refusal session.displays with
    | some failure =>
      constructor
      · intro _ other gone
        simp [Session.stepSurface, phase, refused, pending?] at gone
      · intro _ accepted _
        have made : session.displays < (session.stepSurface around).displays := by
          simp [Session.stepSurface, phase, refused]
        rw [accepted session.displays made] at refused
        nomatch refused
    | none =>
      constructor
      · intro _ other gone
        simp [Session.stepSurface, phase, refused, pending?] at gone
      · intro low _ _
        simp only [Session.stepSurface, phase, refused] at low ⊢
        exact ⟨frame, rfl, current.waiting low frame waits⟩
  | pressing loop host now =>
    obtain ⟨keypad, pressed⟩ := loop.press_console host now session.console
    refine current.kept ?_ ?_ ?_ ?_ <;>
      simp [Session.stepSurface, phase, pressed, pending?]
  | releasing loop now =>
    obtain ⟨keypad, released⟩ := loop.release_console now session.console
    refine current.kept ?_ ?_ ?_ ?_ <;>
      simp [Session.stepSurface, phase, released, pending?]
  | polling loop =>
    cases replied : around.reply session.polls with
    | error failure =>
      refine current.kept ?_ ?_ ?_ ?_ <;>
        simp [Session.stepSurface, phase, replied, pending?]
    | ok event =>
      rcases event with _ | ⟨host | _⟩ <;> refine current.kept ?_ ?_ ?_ ?_ <;>
        simp [Session.stepSurface, phase, replied, answered, Console.raiseStop, pending?]
  | checking loop =>
    cases raised : session.console.stop <;> refine current.kept ?_ ?_ ?_ ?_ <;>
      simp [Session.stepSurface, phase, raised, pending?]
  | joining failure =>
    cases ended : session.cpu <;> refine current.kept ?_ ?_ ?_ ?_ <;>
      simp [Session.stepSurface, phase, ended, pending?]
  | starting =>
    refine current.kept ?_ ?_ ?_ ?_ <;> simp [Session.stepSurface, phase, pending?]
  | stopping failure =>
    refine current.kept ?_ ?_ ?_ ?_ <;>
      simp [Session.stepSurface, phase, Console.raiseStop, pending?]
  | returned result =>
    refine current.kept ?_ ?_ ?_ ?_ <;> simp [Session.stepSurface, phase, pending?]

/-- Steps of either loop, in any order, keep the newest picture current. -/
theorem Current.run (current : session.Current around) (schedule : List Thread) :
    (session.run around schedule).Current around := by
  induction schedule generalizing session with
  | nil => exact current
  | cons thread later inductionHypothesis =>
    cases thread with
    | cpu => exact inductionHypothesis current.stepCpu
    | surface => exact inductionHypothesis current.stepSurface

/-- A session starts with the flag up. -/
theorem start_current (around : Surroundings) (machine : Machine) :
    (start around.paces machine).Current around where
  waiting := fun low => nomatch low
  shown := fun low => nomatch low

/-- A due frame is a picture of the present screen, if the flag is up. -/
theorem framed_raised {loop : SurfaceLoop} {now : Instant}
    (phase : session.surface = .framing loop now) (due : (loop.ticker.fire now).2 = true)
    (raised : session.console.redraw = true) :
    ∃ frame, (session.step around .surface).pending? = some frame ∧
      frame.screen = session.console.machine.screen := by
  obtain ⟨_, picture⟩ := loop.snapshot_due now session.console due
  rcases picture with ⟨_, low⟩ | ⟨frame, taken, present⟩
  · simp [raised] at low
  · exact ⟨frame, by simp [step, Session.stepSurface, phase, taken, pending?], present⟩

/-- No redraw is lost, whatever the interleaving of the two loops.

While the flag is down, a picture that waits to be shown is a picture of the present screen,
and where none waits the picture shown last is one. So the flag is up for every screen that
the newest picture does not show, and the next due frame is a picture of the screen then. -/
theorem newest_picture_is_current (around : Surroundings) (machine : Machine)
    (schedule : List Thread) (session : Session)
    (reached : session = (start around.paces machine).run around schedule)
    (accepted : ∀ call < session.displays, around.refusal call = none) :
    (session.console.redraw = false →
      (∀ frame, session.pending? = some frame → frame.screen = session.console.machine.screen) ∧
      (session.pending? = none →
        ∃ frame, session.shown = some frame ∧ frame.screen = session.console.machine.screen)) ∧
    ((∃ frame, session.pending? = some frame ∧ frame.screen ≠ session.console.machine.screen) ∨
      (session.pending? = none ∧
        ∀ frame, session.shown = some frame → frame.screen ≠ session.console.machine.screen) →
      session.console.redraw = true ∧
        ∀ loop now, session.surface = .framing loop now → (loop.ticker.fire now).2 = true →
          ∃ frame, (session.step around .surface).pending? = some frame ∧
            frame.screen = session.console.machine.screen) := by
  have current : session.Current around := by
    rw [reached]
    exact (start_current around machine).run schedule
  have settled (low : session.console.redraw = false) := current.shown low accepted
  refine ⟨fun low => ⟨current.waiting low, settled low⟩, ?_⟩
  intro stale
  have raised : session.console.redraw = true := by
    cases low : session.console.redraw with
    | true => rfl
    | false =>
      rcases stale with ⟨frame, waits, differs⟩ | ⟨idle, differs⟩
      · exact absurd (current.waiting low frame waits) differs
      · obtain ⟨frame, last, present⟩ := settled low idle
        exact absurd present (differs frame last)
  exact ⟨raised, fun loop now phase due => framed_raised phase due raised⟩

/-- A machine whose cycles all draw the same row of a sprite. -/
def drawingMachine : Machine where
  name := "rows"
  memory := ⟨Vector.replicate 4096 0xD1⟩
  registers := Vector.replicate 16 0
  index := 0
  pc := Fin.ofNat 4096 programStart
  opcode := 0
  stack := .empty
  timers := .finished
  screen := .blank
  keypad := .released
  entropy := ⟨fun _ => 0, 0⟩

/-- Surroundings in which every loop finds its work due at every reading. -/
def promptSurroundings : Surroundings where
  paces := {}
  cpuClock := fun reading => some (17000000 * reading)
  surfaceClock := fun reading => 17000000 * reading
  reply := fun _ => .ok none
  refusal := fun _ => none

/-- The first picture is taken and waits while the cpu loop draws; then it is shown, and a
second one is taken and shown. -/
def drawnMeanwhile : List Thread :=
  List.replicate 5 .surface ++ List.replicate 4 .cpu ++ List.replicate 6 .surface

/-- The second picture reaches the display, and shows what was drawn before the first one did. -/
theorem drawn_meanwhile_is_shown :
    let session :=
      (start promptSurroundings.paces drawingMachine).run promptSurroundings drawnMeanwhile
    session.console.machine.screen ≠ .blank ∧
      ∃ frame, session.shown = some frame ∧ frame.screen = session.console.machine.screen := by
  intro session
  have accepted : ∀ call < session.displays, promptSurroundings.refusal call = none :=
    fun _ _ => rfl
  have settled := newest_picture_is_current promptSurroundings drawingMachine drawnMeanwhile session
    rfl accepted
  have low : session.console.redraw = false := by decide +kernel
  have idle : session.pending? = none := by decide +kernel
  have drawn : session.console.machine.screen ≠ .blank := by decide +kernel
  exact ⟨drawn, (settled.1 low).2 idle⟩

end ChipEight.Session
