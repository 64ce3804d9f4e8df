import ChipEight.Loop.Session
import ChipEight.Proofs.Loop.Requests

/-!
# What single steps of a session leave alone

The two loops share the machine and two flags; everything else belongs to one of them. The
laws of this module say, for one step of either loop, what it can change of what is shared and
that it leaves alone what belongs to the other loop. The theories about whole sessions use
these laws where a loop is not the one they are about.
-/

namespace ChipEight

namespace SurfaceLoop

/-- Pressing moves keys and nothing else that is shared. -/
theorem press_console (loop : SurfaceLoop) (host : Char) (now : Instant) (console : Console) :
    ∃ keypad, (loop.press host now console).2.1 =
      { console with machine := { console.machine with keypad } } := by
  unfold press
  cases found : Key.ofChar? host with
  | none => exact ⟨console.machine.keypad, rfl⟩
  | some key =>
    by_cases isNew : (loop.latch.press key now).2 = true
    · exact ⟨console.machine.keypad.set key true, by simp [isNew, Machine.setKey]⟩
    · exact ⟨console.machine.keypad, by simp [isNew]⟩

/-- Releasing moves keys and nothing else that is shared. -/
theorem release_console (loop : SurfaceLoop) (now : Instant) (console : Console) :
    ∃ keypad, (loop.release now console).2 =
      { console with machine := { console.machine with keypad } } := by
  have each (keys : List Key) (machine : Machine) : ∃ keypad,
      keys.foldl (fun machine key => machine.setKey key false) machine =
        { machine with keypad } := by
    induction keys generalizing machine with
    | nil => exact ⟨machine.keypad, rfl⟩
    | cons key later inductionHypothesis =>
      obtain ⟨keypad, released⟩ := inductionHypothesis (machine.setKey key false)
      exact ⟨keypad, released⟩
  obtain ⟨keypad, released⟩ := each (loop.latch.releaseExpired now).2 console.machine
  exact ⟨keypad, congrArg (fun machine => { console with machine }) released⟩

/-- A frame that is not due changes nothing that is shared, and nothing is shown. -/
theorem snapshot_early (loop : SurfaceLoop) (now : Instant) (console : Console)
    (early : (loop.ticker.fire now).2 = false) :
    (loop.snapshot now console).2 = (console, none) := by
  simp [snapshot, early]

/-- A due frame takes the redraw flag down. If the flag was up, the frame is a picture of the
screen as it is; in any case it is such a picture, or there is none. -/
theorem snapshot_due (loop : SurfaceLoop) (now : Instant) (console : Console)
    (due : (loop.ticker.fire now).2 = true) :
    (loop.snapshot now console).2.1 = { console with redraw := false } ∧
      ((loop.snapshot now console).2.2 = none ∧ console.redraw = false ∨
        ∃ frame, (loop.snapshot now console).2.2 = some frame ∧
          frame.screen = console.machine.screen) := by
  refine ⟨by simp [snapshot, due], ?_⟩
  by_cases changed :
      (console.redraw || console.machine.isBeeping != loop.shownBeep) = true
  · refine .inr ⟨⟨console.machine.screen, console.machine.isBeeping⟩, ?_, rfl⟩
    simp only [snapshot, due, changed, if_true]
  · have low : console.redraw = false := by
      cases raised : console.redraw with
      | false => rfl
      | true => simp [raised] at changed
    exact .inl ⟨by simp only [snapshot, due, changed]; rfl, low⟩

end SurfaceLoop

namespace Session

/-- What belongs to the surface loop and the display. A step of the cpu loop keeps it. -/
structure SurfaceKept (session after : Session) : Prop where
  surface : after.surface = session.surface
  surfaceReadings : after.surfaceReadings = session.surfaceReadings
  polls : after.polls = session.polls
  displays : after.displays = session.displays
  shown : after.shown = session.shown

/-- A clock reading of the cpu loop keeps what is shared, and what is the other loop's. -/
theorem readCpuClock_kept (around : Surroundings) (session : Session) (next : Instant → CpuPhase) :
    session.SurfaceKept (session.readCpuClock around next) ∧
      (session.readCpuClock around next).console = session.console := by
  unfold readCpuClock
  split <;> exact ⟨⟨rfl, rfl, rfl, rfl, rfl⟩, rfl⟩

/-- The cpu loop leaves the surface loop and the display alone. -/
theorem stepCpu_kept (around : Surroundings) (session : Session) :
    session.SurfaceKept (session.stepCpu around) := by
  unfold stepCpu
  cases session.cpu with
  | starting => exact (readCpuClock_kept around session _).1
  | checking loop => exact ⟨rfl, rfl, rfl, rfl, rfl⟩
  | polling loop => exact (readCpuClock_kept around session _).1
  | acting loop fired =>
    dsimp only
    split <;> exact ⟨rfl, rfl, rfl, rfl, rfl⟩
  | ended result => exact ⟨rfl, rfl, rfl, rfl, rfl⟩

/-- The cpu loop changes what is shared only while it holds the machine, and then as one pass
of the loop does, or one that breaks down. -/
theorem stepCpu_console (around : Surroundings) (session : Session) :
    (session.stepCpu around).console =
      match session.cpu with
      | .acting loop fired =>
        match session.brokenPass? around loop fired with
        | some requests => (session.breakDown requests).console
        | none => (loop.act fired session.console).console
      | _ => session.console := by
  unfold stepCpu
  cases session.cpu with
  | starting => exact (readCpuClock_kept around session _).2
  | checking loop => rfl
  | polling loop => exact (readCpuClock_kept around session _).2
  | acting loop fired =>
    dsimp only
    cases session.brokenPass? around loop fired <;> rfl
  | ended result => rfl

/-- A pass that breaks down made its requests from the first one on, and at least one. -/
theorem requests_of_brokenPass {around : Surroundings} {session : Session} {loop : CpuLoop}
    {fired : Fired} {requests : List Request}
    (broken : session.brokenPass? around loop fired = some requests) :
    requests ≠ [] ∧ requests <+: loop.requests fired session.console := by
  unfold brokenPass? at broken
  split at broken
  case h_1 last _ =>
    obtain ⟨within, same⟩ := Option.ite_none_right_eq_some.mp broken
    obtain rfl := Option.some.inj same
    have filled : loop.requests fired session.console ≠ [] := List.ne_nil_of_length_pos (by omega)
    exact ⟨by simpa using filled, List.take_prefix _ _⟩
  case h_2 => nomatch broken

/-- A pass that breaks down leaves the flags, the screen and the keys as it found them. -/
theorem breakDown_surface {around : Surroundings} {session : Session} {loop : CpuLoop}
    {fired : Fired} {requests : List Request}
    (broken : session.brokenPass? around loop fired = some requests) :
    (session.breakDown requests).console.machine.SameSurface session.console.machine := by
  obtain ⟨nonempty, first⟩ := requests_of_brokenPass broken
  have made : requests.getLast nonempty ∈ loop.requests fired session.console :=
    first.subset (List.getLast_mem nonempty)
  rw [breakDown, List.getLast?_eq_some_getLast nonempty]
  exact CpuLoop.requests_surface made

/-- The surface loop leaves the cpu loop alone. -/
theorem stepSurface_cpu (around : Surroundings) (session : Session) :
    (session.stepSurface around).cpu = session.cpu := by
  unfold stepSurface
  split
  case h_3 loop =>
    split
    · rfl
    · unfold answered
      split <;> rfl
  case h_7 loop frame => split <;> rfl
  case h_9 failure => split <;> rfl
  all_goals rfl

end Session
end ChipEight
