import ChipEight.Proofs.Loop.Keys
import ChipEight.Proofs.Session.Redraw
import Mathlib.Data.List.Infix

/-!
# Keys go up after their hold time

A host reports only that a key goes down. The surface loop moves the key down in the machine,
remembers the reading of that pass, and moves the key up in the first later pass whose reading
says that the hold time has gone by. Latch and machine are changed at different places of a
pass, and between any two of its steps the cpu loop, or somebody else, may take the machine.

The invariant `KeysFollow` ties both copies to the history: a key is down exactly if it went
down in a pass whose hold has not run out at the readings of the passes served since. It is
kept by every occurrence. Only three steps of the surface loop need an argument of their own: the
press that is taken, the sweep of releases, and the poll that ends the loop, in whose pass
nothing is released any more. The clock may run backwards; a reading from before a press says
that no time has gone by.
-/

namespace ChipEight

/-- What can happen next to a session that others interfere with: a step of one of its loops,
or an activity of somebody who takes the machine in between. -/
inductive Occurrence
  | step (thread : Thread)
  | activity (activity : Activity)
  deriving DecidableEq, Repr

/-- The surface loop, while it runs. -/
def SurfacePhase.loop? : SurfacePhase → Option SurfaceLoop
  | checking loop | polling loop | pressing loop _ _ | releasing loop _ | framing loop _
  | displaying loop _ => some loop
  | starting | stopping _ | joining _ | returned _ => none

/-- Whether a step in some phase can move keys. -/
def SurfacePhase.movesKeys : SurfacePhase → Bool
  | pressing _ _ _ | releasing _ _ => true
  | _ => false

namespace Surroundings

/-- The reading a pass of the surface loop is served with. The very first reading starts the
loop. -/
def passReading (around : Surroundings) (pass : Nat) : Instant := around.surfaceClock (pass + 1)

/-- Whether a pass is served: the surface answers its poll, and the user does not quit. -/
def IsServed (around : Surroundings) (pass : Nat) : Prop :=
  ∃ event, around.reply pass = .ok event ∧ event ≠ some .exit

/-- Whether a key that went down in a pass has been held for less than the hold time at the
readings of all passes served from then on, up to some pass. -/
def StillHeld (around : Surroundings) (pass bound : Nat) : Prop :=
  ∀ later, pass ≤ later → later < bound → around.IsServed later →
    around.passReading later - around.passReading pass < around.paces.keyHold

/-- A pass that is not served releases nothing. -/
theorem stillHeld_of_unserved {around : Surroundings} {pass bound : Nat}
    (unserved : ¬ around.IsServed bound) :
    around.StillHeld pass (bound + 1) ↔ around.StillHeld pass bound := by
  constructor
  · intro held later since before
    exact held later since (Nat.lt_succ_of_lt before)
  · intro held later since before served
    rcases Nat.lt_succ_iff_lt_or_eq.mp before with earlier | rfl
    · exact held later since earlier served
    · exact absurd served unserved

/-- A pass that is served releases what has been held for long enough at its reading. -/
theorem stillHeld_of_served {around : Surroundings} {pass bound : Nat}
    (served : around.IsServed bound) (begun : pass ≤ bound) :
    around.StillHeld pass (bound + 1) ↔ around.StillHeld pass bound ∧
      around.passReading bound - around.passReading pass < around.paces.keyHold := by
  constructor
  · intro held
    exact ⟨fun later since before => held later since (Nat.lt_succ_of_lt before),
      held bound begun (Nat.lt_succ_self bound) served⟩
  · rintro ⟨held, short⟩ later since before servedToo
    rcases Nat.lt_succ_iff_lt_or_eq.mp before with earlier | rfl
    · exact held later since earlier servedToo
    · exact short

end Surroundings

namespace Session

/-- The session after an occurrence. -/
def occur (around : Surroundings) (session : Session) : Occurrence → Session
  | .step thread => session.step around thread
  | .activity activity => { session with console := activity.act session.console }

/-- The session after several occurrences, from its start. The flags may be in any state then. -/
def reached (around : Surroundings) (console : Console) (occurrences : List Occurrence) : Session :=
  occurrences.foldl (occur around) { start around.paces console.machine with console }

/-- Whether a key is down in the machine. -/
def isDown (session : Session) (key : Key) : Bool := session.console.machine.keypad.isDown key

/-- How many passes have made their releases. A pass that ended at its poll counts as well,
but makes none. -/
def sweptPasses (session : Session) : Nat :=
  match session.surface with
  | .pressing _ _ _ | .releasing _ _ => session.polls - 1
  | _ => session.polls

/-- Whether a key went down in a pass of the surface loop, by whatever occurrence. -/
def WentDown (around : Surroundings) (console : Console) (occurrences : List Occurrence)
    (key : Key) (pass : Nat) : Prop :=
  ∃ earlier occurrence, earlier ++ [occurrence] <+: occurrences ∧
    (reached around console earlier).isDown key = false ∧
    (reached around console (earlier ++ [occurrence])).isDown key = true ∧
    (reached around console earlier).polls = pass + 1

variable {around : Surroundings} {console : Console} {occurrences : List Occurrence}
  {session : Session}

/-- One more occurrence acts on the session that the earlier ones left. -/
theorem reached_concat (occurrence : Occurrence) :
    reached around console (occurrences ++ [occurrence]) =
      (reached around console occurrences).occur around occurrence := by
  simp [reached]

/-- A key went down earlier, or it goes down in the latest occurrence. -/
theorem wentDown_concat {occurrence : Occurrence} {key : Key} {pass : Nat} :
    WentDown around console (occurrences ++ [occurrence]) key pass ↔
      WentDown around console occurrences key pass ∨
        (reached around console occurrences).isDown key = false ∧
        ((reached around console occurrences).occur around occurrence).isDown key = true ∧
        (reached around console occurrences).polls = pass + 1 := by
  constructor
  · rintro ⟨earlier, last, early, before, after, polls⟩
    rcases List.prefix_concat_iff.mp early with same | sooner
    · obtain ⟨rfl, rfl⟩ : earlier = occurrences ∧ last = occurrence := by simpa using same
      exact .inr ⟨before, reached_concat last ▸ after, polls⟩
    · exact .inl ⟨earlier, last, sooner, before, after, polls⟩
  · rintro (⟨earlier, last, early, before, after, polls⟩ | ⟨before, after, polls⟩)
    · exact ⟨earlier, last, early.trans (List.prefix_append _ _), before, after, polls⟩
    · exact ⟨occurrences, occurrence, List.prefix_rfl, before, reached_concat occurrence ▸ after, polls⟩

/-- Passes, readings and answers belong together: what a phase carries is what the surroundings
give to its pass. -/
def InStep (around : Surroundings) (session : Session) : Prop :=
  match session.surface with
  | .starting => session.surfaceReadings = 0 ∧ session.polls = 0
  | .checking _ | .polling _ | .framing _ _ | .displaying _ _ =>
    session.surfaceReadings = session.polls + 1
  | .pressing _ host now =>
    session.surfaceReadings = session.polls + 1 ∧ ∃ pass, session.polls = pass + 1 ∧
      now = around.passReading pass ∧ around.reply pass = .ok (some (.key host))
  | .releasing _ now =>
    session.surfaceReadings = session.polls + 1 ∧ ∃ pass, session.polls = pass + 1 ∧
      now = around.passReading pass ∧ around.IsServed pass
  | .stopping _ | .joining _ | .returned _ => True

/-- What does not touch the surface loop keeps passes and readings together. -/
theorem InStep.kept {after : Session} (inStep : session.InStep around)
    (kept : session.SurfaceKept after) : after.InStep around := by
  unfold InStep
  rw [kept.surface, kept.surfaceReadings, kept.polls]
  exact inStep

/-- The surface loop keeps passes and readings together. -/
theorem InStep.stepSurface (inStep : session.InStep around) :
    (session.stepSurface around).InStep around := by
  unfold InStep at inStep
  cases phase : session.surface with
  | starting =>
    simp only [phase] at inStep
    simp [InStep, Session.stepSurface, phase, inStep]
  | checking loop =>
    simp only [phase] at inStep
    cases raised : session.console.stop <;> simp [InStep, Session.stepSurface, phase, raised, inStep]
  | polling loop =>
    simp only [phase] at inStep
    cases replied : around.reply session.polls with
    | error failure => simp [InStep, Session.stepSurface, phase, replied]
    | ok event =>
      rcases event with _ | ⟨host | _⟩ <;>
        simp [InStep, Session.stepSurface, phase, replied, answered, inStep,
          Surroundings.passReading, Surroundings.IsServed]
  | pressing loop host now =>
    simp only [phase] at inStep
    obtain ⟨readings, pass, polls, now, replied⟩ := inStep
    have served : around.IsServed pass := ⟨_, replied, by simp⟩
    simp only [InStep, Session.stepSurface, phase]
    exact ⟨readings, pass, polls, now, served⟩
  | releasing loop now =>
    simp only [phase] at inStep
    simp [InStep, Session.stepSurface, phase, inStep]
  | framing loop now =>
    simp only [phase] at inStep
    cases taken : (loop.snapshot now session.console).2.2 <;>
      simp [InStep, Session.stepSurface, phase, taken, inStep]
  | displaying loop frame =>
    simp only [phase] at inStep
    cases refused : around.refusal session.displays <;>
      simp [InStep, Session.stepSurface, phase, refused, inStep]
  | stopping failure => simp [InStep, Session.stepSurface, phase]
  | joining failure =>
    cases ended : session.cpu <;> simp [InStep, Session.stepSurface, phase, ended]
  | returned result => simp [InStep, Session.stepSurface, phase]

/-- The cpu loop moves no key. -/
theorem stepCpu_isDown (key : Key) : (session.stepCpu around).isDown key = session.isDown key := by
  unfold isDown
  rw [stepCpu_console]
  cases session.cpu with
  | acting loop fired =>
    dsimp only
    cases broken : session.brokenPass? around loop fired with
    | some requests => exact congrArg (Keypad.isDown · key) (breakDown_surface broken).2
    | none =>
      have effect := CpuLoop.act_effect loop fired session.console
      rw [effect.machine, Machine.poll_keypad]
  | _ => rfl

/-- The surface loop moves keys only where it presses or releases. -/
theorem stepSurface_isDown (idle : session.surface.movesKeys = false) (key : Key) :
    (session.stepSurface around).isDown key = session.isDown key := by
  cases phase : session.surface with
  | polling loop =>
    cases replied : around.reply session.polls with
    | error failure => simp [stepSurface, phase, replied, isDown]
    | ok event =>
      rcases event with _ | ⟨host | _⟩ <;>
        simp [stepSurface, phase, replied, answered, Console.raiseStop, isDown]
  | framing loop now => simp [stepSurface, phase, (loop.snapshot_keeps now session.console).2, isDown]
  | displaying loop frame =>
    cases refused : around.refusal session.displays <;> simp [stepSurface, phase, refused, isDown]
  | joining failure => cases ended : session.cpu <;> simp [stepSurface, phase, ended, isDown]
  | stopping failure => simp [stepSurface, phase, Console.raiseStop, isDown]
  | starting | checking loop | returned result => simp [stepSurface, phase, isDown]
  | pressing loop host now | releasing loop now => simp [phase, SurfacePhase.movesKeys] at idle

/-- Releasing moves exactly the keys up that have expired. -/
theorem releasing_isDown {loop : SurfaceLoop} {now : Instant}
    (phase : session.surface = .releasing loop now) (key : Key) :
    (session.stepSurface around).isDown key =
      if loop.latch.isExpired now key then false else session.isDown key := by
  simp [stepSurface, phase, isDown, (loop.release_effect now session.console key).2]

/-- Whatever is not a step of the surface loop leaves that loop and the keys alone. -/
theorem occur_elsewhere (around : Surroundings) (session : Session) {occurrence : Occurrence}
    (elsewhere : occurrence ≠ .step .surface) :
    session.SurfaceKept (session.occur around occurrence) ∧
      ∀ key, (session.occur around occurrence).isDown key = session.isDown key := by
  cases occurrence with
  | step thread =>
    cases thread with
    | cpu => exact ⟨stepCpu_kept around session, stepCpu_isDown⟩
    | surface => exact absurd rfl elsewhere
  | activity activity =>
    refine ⟨⟨rfl, rfl, rfl, rfl, rfl⟩, fun key => ?_⟩
    exact congrArg (Keypad.isDown · key) (activity.act_keypad session.console)

/-- Passes and readings stay together, whatever occurs. -/
theorem InStep.occur (inStep : session.InStep around) (occurrence : Occurrence) :
    (session.occur around occurrence).InStep around := by
  by_cases surface : occurrence = .step .surface
  · subst surface
    exact inStep.stepSurface
  · exact inStep.kept (occur_elsewhere around session surface).1

/-- The two copies of the keys and the presses so far.

A key that is down is down since a pass in which it went down and whose hold has not run out.
The times of the latch are the readings of these passes. -/
structure KeysFollow (around : Surroundings) (console : Console) (occurrences : List Occurrence)
    (session : Session) : Prop where
  reached : session = reached around console occurrences
  inStep : session.InStep around
  hold : ∀ loop, session.surface.loop? = some loop → loop.latch.hold = around.paces.keyHold
  copies : ∀ loop, session.surface.loop? = some loop →
    ∀ key, session.isDown key = loop.latch.isHeld key
  times : ∀ loop, session.surface.loop? = some loop →
    ∀ key pass, WentDown around console occurrences key pass →
      around.StillHeld pass session.sweptPasses →
      loop.latch.since.get key = some (around.passReading pass)
  down : ∀ key, session.isDown key = true → ∃ pass,
    WentDown around console occurrences key pass ∧ around.StillHeld pass session.sweptPasses
  up : ∀ key, session.isDown key = false → ∀ pass,
    WentDown around console occurrences key pass → ¬ around.StillHeld pass session.sweptPasses
  made : ∀ key pass, WentDown around console occurrences key pass → pass < session.polls

namespace KeysFollow

variable {occurrence : Occurrence} {loop : SurfaceLoop} {now : Instant}

/-- The time of a held key is the reading of a pass in which it went down. -/
theorem since (follow : session.KeysFollow around console occurrences)
    (running : session.surface.loop? = some loop) {key : Key} {time : Instant}
    (held : loop.latch.since.get key = some time) :
    ∃ pass, WentDown around console occurrences key pass ∧
      around.StillHeld pass session.sweptPasses ∧ time = around.passReading pass := by
  have isHeld : loop.latch.isHeld key = true := by rw [KeyLatch.isHeld_val, held]; rfl
  obtain ⟨pass, went, still⟩ := follow.down key ((follow.copies loop running key).trans isHeld)
  exact ⟨pass, went, still,
    Option.some.inj (held.symm.trans (follow.times loop running key pass went still))⟩

/-- A key that does not go down in an occurrence went down before it. -/
theorem wentDown_of_quiet (follow : session.KeysFollow around console occurrences) {key : Key}
    (quiet : session.isDown key = false → (session.occur around occurrence).isDown key = false)
    {pass : Nat} :
    WentDown around console (occurrences ++ [occurrence]) key pass ↔
      WentDown around console occurrences key pass := by
  rw [wentDown_concat, ← follow.reached]
  constructor
  · rintro (went | ⟨before, after, _⟩)
    · exact went
    · simp [quiet before] at after
  · exact .inl

/-- An occurrence that moves no key keeps the copies together, if it also leaves the latch alone
and lets no hold run out. -/
theorem quiet (follow : session.KeysFollow around console occurrences) (occurrence : Occurrence)
    (keys : ∀ key, (session.occur around occurrence).isDown key = session.isDown key)
    (latch : ∀ loop, (session.occur around occurrence).surface.loop? = some loop →
      ∃ earlier, session.surface.loop? = some earlier ∧ loop.latch = earlier.latch)
    (swept : ∀ pass, around.StillHeld pass (session.occur around occurrence).sweptPasses ↔
      around.StillHeld pass session.sweptPasses)
    (polls : session.polls ≤ (session.occur around occurrence).polls) :
    (session.occur around occurrence).KeysFollow around console (occurrences ++ [occurrence]) := by
  have went (key : Key) (pass : Nat) :
      WentDown around console (occurrences ++ [occurrence]) key pass ↔
        WentDown around console occurrences key pass :=
    follow.wentDown_of_quiet fun up => (keys key).trans up
  constructor
  case reached =>
    rw [reached_concat, ← follow.reached]
  case inStep =>
    exact follow.inStep.occur occurrence
  case hold =>
    intro loop running
    obtain ⟨earlier, ran, same⟩ := latch loop running
    rw [same]
    exact follow.hold earlier ran
  case copies =>
    intro loop running key
    obtain ⟨earlier, ran, same⟩ := latch loop running
    rw [keys, same]
    exact follow.copies earlier ran key
  case times =>
    intro loop running key pass
    obtain ⟨earlier, ran, same⟩ := latch loop running
    rw [went, swept, same]
    exact follow.times earlier ran key pass
  case down =>
    intro key
    simp only [keys, went, swept]
    exact follow.down key
  case up =>
    intro key
    simp only [keys, went, swept]
    exact follow.up key
  case made =>
    intro key pass
    rw [went]
    intro earlier
    exact Nat.lt_of_lt_of_le (follow.made key pass earlier) polls

/-- What is not a step of the surface loop keeps the copies together. -/
theorem elsewhere (follow : session.KeysFollow around console occurrences)
    (elsewhere : occurrence ≠ .step .surface) :
    (session.occur around occurrence).KeysFollow around console (occurrences ++ [occurrence]) := by
  obtain ⟨kept, keys⟩ := occur_elsewhere around session elsewhere
  have swept : (session.occur around occurrence).sweptPasses = session.sweptPasses := by
    rw [sweptPasses, sweptPasses, kept.surface, kept.polls]
  refine follow.quiet occurrence keys ?_ (fun pass => by rw [swept]) (Nat.le_of_eq kept.polls.symm)
  intro loop running
  exact ⟨loop, kept.surface ▸ running, rfl⟩

/-- A report that is ignored keeps the copies together. -/
theorem ignored (follow : session.KeysFollow around console occurrences) {host : Char}
    (phase : session.surface = .pressing loop host now)
    (held : ∀ key, Key.ofChar? host = some key → loop.latch.isHeld key = true) :
    (session.stepSurface around).KeysFollow around console (occurrences ++ [.step .surface]) := by
  obtain ⟨same, unmoved⟩ := loop.press_ignored now session.console held
  refine follow.quiet (.step .surface) ?_ ?_ ?_ ?_
  · intro key
    simp [occur, step, stepSurface, phase, isDown, unmoved]
  · intro earlier running
    refine ⟨loop, by rw [phase]; rfl, ?_⟩
    simp [occur, step, stepSurface, phase, SurfacePhase.loop?, same] at running
    exact running ▸ rfl
  · intro pass
    simp [occur, step, stepSurface, phase, sweptPasses]
  · simp [occur, step, stepSurface, phase]

/-- A report of a key that is up presses it in both copies, and counts from its pass on. -/
theorem taken (follow : session.KeysFollow around console occurrences) {host : Char} {key : Key}
    (phase : session.surface = .pressing loop host now) (found : Key.ofChar? host = some key)
    (free : loop.latch.isHeld key = false) :
    (session.stepSurface around).KeysFollow around console (occurrences ++ [.step .surface]) := by
  obtain ⟨pressed, moved⟩ := loop.press_taken now session.console found free
  obtain ⟨_, hold, times⟩ := loop.latch.press_of_not_isHeld now free
  simp only [Fin.ofNat_val_eq_self] at times
  have ran : session.surface.loop? = some loop := by rw [phase]; rfl
  obtain ⟨pass, polls, rfl⟩ : ∃ pass, session.polls = pass + 1 ∧ now = around.passReading pass := by
    have inStep := follow.inStep
    simp only [InStep, phase] at inStep
    obtain ⟨_, pass, polls, now, _⟩ := inStep
    exact ⟨pass, polls, now⟩
  have up : session.isDown key = false := (follow.copies loop ran key).trans free
  have latch (next : SurfaceLoop)
      (goesOn : (session.stepSurface around).surface.loop? = some next) :
      next.latch = (loop.latch.press key (around.passReading pass)).1 := by
    simp [stepSurface, phase, pressed, SurfacePhase.loop?] at goesOn
    exact goesOn ▸ rfl
  have keys (other : Key) : (session.stepSurface around).isDown other =
      if other = key then true else session.isDown other := by
    simp [stepSurface, phase, moved, isDown, Machine.setKey, Keypad.isDown_set]
  have swept : (session.stepSurface around).sweptPasses = session.sweptPasses := by
    simp [stepSurface, phase, sweptPasses]
  have pollsKept : (session.stepSurface around).polls = session.polls := by
    simp [stepSurface, phase]
  have went (other : Key) (moment : Nat) :
      WentDown around console (occurrences ++ [.step .surface]) other moment ↔
        WentDown around console occurrences other moment ∨ other = key ∧ moment = pass := by
    rw [wentDown_concat, ← follow.reached]
    change _ ∨ session.isDown other = false ∧ (session.stepSurface around).isDown other = true ∧ _ ↔ _
    rw [keys, polls]
    by_cases same : other = key
    · subst same
      simp [up, eq_comm]
    · cases before : session.isDown other <;> simp [same]
  have begun : around.StillHeld pass session.sweptPasses := by
    intro later since before
    simp [sweptPasses, phase, polls] at before
    omega
  constructor
  case reached =>
    rw [reached_concat, ← follow.reached]
    rfl
  case inStep =>
    exact follow.inStep.stepSurface
  case hold =>
    intro next goesOn
    rw [latch next goesOn, hold]
    exact follow.hold loop ran
  case copies =>
    intro next goesOn other
    rw [keys, latch next goesOn, KeyLatch.isHeld_val, times]
    by_cases same : other = key
    · simp [same]
    · simp only [same, if_false]
      exact (follow.copies loop ran other).trans (loop.latch.isHeld_val other)
  case times =>
    intro next goesOn other moment wentDown still
    rw [swept] at still
    rw [latch next goesOn, times]
    rcases (went other moment).mp wentDown with earlier | ⟨rfl, rfl⟩
    · have apart : other ≠ key := fun same => follow.up other (same ▸ up) moment earlier still
      simp only [apart, if_false]
      exact follow.times loop ran other moment earlier still
    · simp
  case down =>
    intro other isDown
    rw [swept]
    by_cases same : other = key
    · exact ⟨pass, (went other pass).mpr (.inr ⟨same, rfl⟩), begun⟩
    · obtain ⟨moment, earlier, still⟩ := follow.down other (by simpa [keys, same] using isDown)
      exact ⟨moment, (went other moment).mpr (.inl earlier), still⟩
  case up =>
    intro other isUp moment wentDown
    have apart : other ≠ key := fun same => by simp [keys, same] at isUp
    rw [swept]
    rcases (went other moment).mp wentDown with earlier | ⟨same, _⟩
    · exact follow.up other (by simpa [keys, apart] using isUp) moment earlier
    · exact absurd same apart
  case made =>
    intro other moment wentDown
    rw [pollsKept]
    rcases (went other moment).mp wentDown with earlier | ⟨_, rfl⟩
    · exact follow.made other moment earlier
    · omega

/-- What has expired when keys are about to be released: what went down in a pass whose hold did
not run out before, and does now. -/
theorem expired (follow : session.KeysFollow around console occurrences)
    (phase : session.surface = .releasing loop now) :
    ∃ present, session.polls = present + 1 ∧ now = around.passReading present ∧
      around.IsServed present ∧
      ∀ key, loop.latch.isExpired now key = true ↔ ∃ pass,
        WentDown around console occurrences key pass ∧ around.StillHeld pass present ∧
        around.paces.keyHold ≤ now - around.passReading pass := by
  have inStep := follow.inStep
  simp only [InStep, phase] at inStep
  obtain ⟨_, present, polls, reading, served⟩ := inStep
  have running : session.surface.loop? = some loop := by rw [phase]; rfl
  have swept : session.sweptPasses = present := by simp [sweptPasses, phase, polls]
  have hold : loop.latch.hold = around.paces.keyHold := follow.hold loop running
  refine ⟨present, polls, reading, served, fun key => ?_⟩
  rw [loop.latch.isExpired_iff, hold]
  constructor
  · rintro ⟨time, held, long⟩
    obtain ⟨pass, went, still, rfl⟩ := follow.since running held
    exact ⟨pass, went, swept ▸ still, long⟩
  · rintro ⟨pass, went, still, long⟩
    exact ⟨_, follow.times loop running key pass went (swept ▸ still), long⟩

/-- A sweep moves the same keys up in both copies: those whose hold runs out in its pass. -/
theorem swept (follow : session.KeysFollow around console occurrences)
    (phase : session.surface = .releasing loop now) :
    (session.stepSurface around).KeysFollow around console (occurrences ++ [.step .surface]) := by
  obtain ⟨present, polls, reading, served, expired⟩ := follow.expired phase
  have ran : session.surface.loop? = some loop := by rw [phase]; rfl
  have effect := loop.release_effect now session.console
  have latch (next : SurfaceLoop)
      (goesOn : (session.stepSurface around).surface.loop? = some next) :
      next.latch = (loop.release now session.console).1.latch := by
    simp [stepSurface, phase, SurfacePhase.loop?] at goesOn
    exact goesOn ▸ rfl
  have keys (key : Key) : (session.stepSurface around).isDown key =
      if loop.latch.isExpired now key then false else session.isDown key := releasing_isDown phase key
  have pollsKept : (session.stepSurface around).polls = session.polls := by
    simp [stepSurface, phase]
  have sweptBefore : session.sweptPasses = present := by simp [sweptPasses, phase, polls]
  have sweptAfter : (session.stepSurface around).sweptPasses = present + 1 := by
    simp [sweptPasses, stepSurface, phase, polls]
  have went (key : Key) (pass : Nat) :
      WentDown around console (occurrences ++ [.step .surface]) key pass ↔
        WentDown around console occurrences key pass := by
    refine follow.wentDown_of_quiet fun isUp => ?_
    exact (keys key).trans (by simp [isUp])
  -- A hold that has lasted so far goes on exactly if its key has not expired.
  have still (key : Key) (pass : Nat) (earlier : WentDown around console occurrences key pass) :
      around.StillHeld pass (present + 1) ↔
        around.StillHeld pass present ∧ now - around.passReading pass < around.paces.keyHold := by
    have since := follow.made key pass earlier
    rw [Surroundings.stillHeld_of_served served (by omega), reading]
  have fresh {key : Key} {pass : Nat} (earlier : WentDown around console occurrences key pass)
      (lasting : around.StillHeld pass (present + 1)) :
      loop.latch.since.get key = some (around.passReading pass) ∧
        loop.latch.isExpired now key = false := by
    obtain ⟨sofar, short⟩ := (still key pass earlier).mp lasting
    have held := follow.times loop ran key pass earlier (sweptBefore ▸ sofar)
    refine ⟨held, ?_⟩
    simp [KeyLatch.isExpired, held, follow.hold loop ran, short]
  constructor
  case reached =>
    rw [reached_concat, ← follow.reached]
    rfl
  case inStep =>
    exact follow.inStep.stepSurface
  case hold =>
    intro next goesOn
    rw [latch next goesOn, loop.release_hold]
    exact follow.hold loop ran
  case copies =>
    intro next goesOn key
    rw [keys, latch next goesOn, KeyLatch.isHeld_val, (effect key).1]
    cases gone : loop.latch.isExpired now key with
    | true => rfl
    | false => exact (follow.copies loop ran key).trans (loop.latch.isHeld_val key)
  case times =>
    intro next goesOn key pass wentDown lasting
    obtain ⟨held, stays⟩ := fresh ((went key pass).mp wentDown) (sweptAfter ▸ lasting)
    rw [latch next goesOn, (effect key).1]
    simpa [stays] using held
  case down =>
    intro key isDown
    rw [keys] at isDown
    have stays : ¬ loop.latch.isExpired now key = true := fun gone => by simp [gone] at isDown
    obtain ⟨pass, wentDown, lasting⟩ := follow.down key (by simpa [stays] using isDown)
    rw [sweptBefore] at lasting
    refine ⟨pass, (went key pass).mpr wentDown, ?_⟩
    rw [sweptAfter, still key pass wentDown]
    refine ⟨lasting, Nat.lt_of_not_le fun long => ?_⟩
    exact stays ((expired key).mpr ⟨pass, wentDown, lasting, long⟩)
  case up =>
    intro key isUp pass wentDown lasting
    rw [went] at wentDown
    rw [sweptAfter] at lasting
    rw [keys, (fresh wentDown lasting).2] at isUp
    have sofar := ((still key pass wentDown).mp lasting).1
    exact follow.up key isUp pass wentDown (sweptBefore ▸ sofar)
  case made =>
    intro key pass wentDown
    rw [pollsKept]
    exact follow.made key pass ((went key pass).mp wentDown)

/-- The first clock reading makes a latch that holds nothing, and no key is down by then. -/
theorem begun (follow : session.KeysFollow around console occurrences)
    (phase : session.surface = .starting) :
    (session.stepSurface around).KeysFollow around console (occurrences ++ [.step .surface]) := by
  have polls : session.polls = 0 := by
    have inStep := follow.inStep
    simp only [InStep, phase] at inStep
    exact inStep.2
  have keys : ∀ key, (session.stepSurface around).isDown key = session.isDown key :=
    stepSurface_isDown (by rw [phase]; rfl)
  have neverDown (key : Key) (pass : Nat) :
      ¬ WentDown around console (occurrences ++ [.step .surface]) key pass := by
    have unmoved : WentDown around console (occurrences ++ [.step .surface]) key pass ↔
        WentDown around console occurrences key pass := by
      refine follow.wentDown_of_quiet fun isUp => ?_
      exact (keys key).trans isUp
    intro went
    have before := follow.made key pass (unmoved.mp went)
    omega
  have isUp (key : Key) : session.isDown key = false := by
    rw [Bool.eq_false_iff]
    intro isDown
    obtain ⟨pass, earlier, _⟩ := follow.down key isDown
    have before := follow.made key pass earlier
    omega
  have loop (loop : SurfaceLoop) (running : (session.stepSurface around).surface.loop? = some loop) :
      loop.latch = .idle around.paces.keyHold := by
    simp [stepSurface, phase, SurfacePhase.loop?] at running
    exact running ▸ rfl
  constructor
  case reached =>
    rw [reached_concat, ← follow.reached]
    rfl
  case inStep =>
    exact follow.inStep.stepSurface
  case hold =>
    intro started running
    rw [loop started running]
    rfl
  case copies =>
    intro started running key
    rw [keys, isUp, loop started running, KeyLatch.isHeld_val, KeyLatch.since_idle]
    rfl
  case times =>
    intro _ _ key pass went
    exact absurd went (neverDown key pass)
  case down =>
    intro key isDown
    simp [keys, isUp] at isDown
  case up =>
    intro key _ pass went
    exact absurd went (neverDown key pass)
  case made =>
    intro key pass went
    exact absurd went (neverDown key pass)

/-- A step of the surface loop that neither presses nor releases keeps the copies together. -/
theorem idle (follow : session.KeysFollow around console occurrences)
    (idle : session.surface.movesKeys = false)
    (latch : ∀ loop, (session.stepSurface around).surface.loop? = some loop →
      ∃ earlier, session.surface.loop? = some earlier ∧ loop.latch = earlier.latch)
    (swept : ∀ pass, around.StillHeld pass (session.stepSurface around).sweptPasses ↔
      around.StillHeld pass session.sweptPasses)
    (polls : session.polls ≤ (session.stepSurface around).polls) :
    (session.stepSurface around).KeysFollow around console (occurrences ++ [.step .surface]) :=
  follow.quiet (.step .surface) (stepSurface_isDown idle) latch swept polls

/-- Polling keeps the copies together. Where the poll ends the loop, nothing is released in its
pass, and no hold runs out. -/
theorem polled (follow : session.KeysFollow around console occurrences)
    (phase : session.surface = .polling loop) :
    (session.stepSurface around).KeysFollow around console (occurrences ++ [.step .surface]) := by
  have sweptBefore : session.sweptPasses = session.polls := by simp [sweptPasses, phase]
  have idle : session.surface.movesKeys = false := by rw [phase]; rfl
  cases replied : around.reply session.polls with
  | error failure =>
    have unserved : ¬ around.IsServed session.polls := by simp [Surroundings.IsServed, replied]
    refine follow.idle idle ?_ ?_ ?_
    · simp [stepSurface, phase, replied, SurfacePhase.loop?]
    · intro pass
      rw [sweptBefore, ← Surroundings.stillHeld_of_unserved unserved]
      simp [stepSurface, phase, replied, sweptPasses]
    · simp [stepSurface, phase, replied]
  | ok event =>
    rcases event with _ | ⟨host | _⟩
    case some.exit =>
      have unserved : ¬ around.IsServed session.polls := by simp [Surroundings.IsServed, replied]
      refine follow.idle idle ?_ ?_ ?_
      · simp [stepSurface, phase, replied, answered, SurfacePhase.loop?]
      · intro pass
        rw [sweptBefore, ← Surroundings.stillHeld_of_unserved unserved]
        simp [stepSurface, phase, replied, answered, sweptPasses]
      · simp [stepSurface, phase, replied, answered]
    all_goals
      refine follow.idle idle ?_ ?_ ?_ <;>
        simp [stepSurface, phase, replied, answered, SurfacePhase.loop?, sweptPasses]

/-- The surface loop keeps the copies together. -/
theorem stepSurface (follow : session.KeysFollow around console occurrences) :
    (session.stepSurface around).KeysFollow around console (occurrences ++ [.step .surface]) := by
  cases phase : session.surface with
  | starting => exact follow.begun phase
  | polling loop => exact follow.polled phase
  | releasing loop now => exact follow.swept phase
  | pressing loop host now =>
    cases found : Key.ofChar? host with
    | none => exact follow.ignored phase (by simp [found])
    | some key =>
      cases held : loop.latch.isHeld key with
      | true => exact follow.ignored phase (by simp [found, held])
      | false => exact follow.taken phase found held
  | checking loop =>
    refine follow.idle (by rw [phase]; rfl) ?_ ?_ ?_ <;>
      cases raised : session.console.stop <;>
      simp [Session.stepSurface, phase, raised, SurfacePhase.loop?, sweptPasses]
  | framing loop now =>
    have latch := (loop.snapshot_keeps now session.console).1
    refine follow.idle (by rw [phase]; rfl) ?_ ?_ ?_ <;>
      cases taken : (loop.snapshot now session.console).2.2 <;>
      simp [Session.stepSurface, phase, taken, latch, SurfacePhase.loop?, sweptPasses]
  | displaying loop frame =>
    refine follow.idle (by rw [phase]; rfl) ?_ ?_ ?_ <;>
      cases refused : around.refusal session.displays <;>
      simp [Session.stepSurface, phase, refused, SurfacePhase.loop?, sweptPasses, SurfaceLoop.shown]
  | joining failure =>
    refine follow.idle (by rw [phase]; rfl) ?_ ?_ ?_ <;>
      cases ended : session.cpu <;>
      simp [Session.stepSurface, phase, ended, SurfacePhase.loop?, sweptPasses]
  | stopping failure | returned result =>
    refine follow.idle (by rw [phase]; rfl) ?_ ?_ ?_ <;>
      simp [Session.stepSurface, phase, SurfacePhase.loop?, sweptPasses]

/-- Whatever occurs, the copies stay together. -/
theorem occur (follow : session.KeysFollow around console occurrences) (occurrence : Occurrence) :
    (session.occur around occurrence).KeysFollow around console (occurrences ++ [occurrence]) := by
  by_cases surface : occurrence = .step .surface
  · subst surface
    exact follow.stepSurface
  · exact follow.elsewhere surface

/-- Where a key is about to be pressed, it is down afterwards, and so is what was down before. A
report of no key, or of one that is down, is ignored. -/
theorem pressed (follow : session.KeysFollow around console occurrences) {host : Char}
    (phase : session.surface = .pressing loop host now) :
    (∃ pass, session.polls = pass + 1 ∧ now = around.passReading pass ∧
      around.reply pass = .ok (some (.key host))) ∧
    (∀ key, (session.stepSurface around).isDown key = true ↔
      session.isDown key = true ∨ Key.ofChar? host = some key) ∧
    ((∀ key, Key.ofChar? host = some key → session.isDown key = true) →
      (session.stepSurface around).surface = .releasing loop now ∧
        (session.stepSurface around).console = session.console) := by
  have copies := follow.copies loop (by rw [phase]; rfl)
  have ignored (held : ∀ key, Key.ofChar? host = some key → session.isDown key = true) :
      (session.stepSurface around).surface = .releasing loop now ∧
        (session.stepSurface around).console = session.console := by
    obtain ⟨same, unmoved⟩ := loop.press_ignored now session.console
      fun key found => (copies key).symm.trans (held key found)
    simp [Session.stepSurface, phase, same, unmoved]
  have inStep := follow.inStep
  simp only [InStep, phase] at inStep
  refine ⟨inStep.2, fun key => ?_, ignored⟩
  by_cases held : ∀ key, Key.ofChar? host = some key → session.isDown key = true
  · have same : (session.stepSurface around).isDown key = session.isDown key := by
      rw [isDown, (ignored held).2, isDown]
    rw [same]
    exact ⟨.inl, fun isDown => isDown.elim id (held key)⟩
  · obtain ⟨fresh, found, isUp⟩ : ∃ fresh, Key.ofChar? host = some fresh ∧
        session.isDown fresh = false := by simpa using held
    have moved := (loop.press_taken now session.console found ((copies fresh).symm.trans isUp)).2
    have after : (session.stepSurface around).isDown key =
        if key = fresh then true else session.isDown key := by
      simp [Session.stepSurface, phase, moved, isDown, Machine.setKey, Keypad.isDown_set]
    rw [after, found]
    by_cases same : key = fresh
    · simp [same]
    · simp [same, Ne.symm same]

/-- Where keys are about to be released, those go up whose hold runs out at the reading of this
pass. -/
theorem released (follow : session.KeysFollow around console occurrences)
    (phase : session.surface = .releasing loop now) :
    ∃ present, session.polls = present + 1 ∧ now = around.passReading present ∧
      around.IsServed present ∧
      ∀ key, (session.isDown key = true ∧ (session.stepSurface around).isDown key = false) ↔
        ∃ pass, WentDown around console occurrences key pass ∧ around.StillHeld pass present ∧
          around.paces.keyHold ≤ now - around.passReading pass := by
  obtain ⟨present, polls, reading, served, expired⟩ := follow.expired phase
  refine ⟨present, polls, reading, served, fun key => ?_⟩
  rw [← expired key, releasing_isDown phase key]
  constructor
  · rintro ⟨isDown, isUp⟩
    cases gone : loop.latch.isExpired now key with
    | true => rfl
    | false => simp [gone, isDown] at isUp
  · intro gone
    obtain ⟨time, held, _⟩ := (loop.latch.isExpired_iff now).mp gone
    have isHeld : loop.latch.isHeld key = true := by rw [KeyLatch.isHeld_val, held]; rfl
    exact ⟨(follow.copies loop (by rw [phase]; rfl) key).trans isHeld, by simp [gone]⟩

end KeysFollow

/-- Every history of a session whose keys are all up in the beginning keeps the copies together. -/
theorem reached_keysFollow (around : Surroundings) (console : Console)
    (allUp : console.machine.keypad = .released) (occurrences : List Occurrence) :
    (reached around console occurrences).KeysFollow around console occurrences := by
  induction occurrences using List.reverseRecOn with
  | nil =>
    have isUp (key : Key) : (reached around console []).isDown key = false := by
      rw [isDown, ← Keypad.isDown_released key, ← allUp]
      rfl
    have unmoved (key : Key) (pass : Nat) : ¬ WentDown around console [] key pass := by
      rintro ⟨earlier, occurrence, early, _⟩
      simp at early
    constructor
    case reached =>
      rfl
    case inStep =>
      exact ⟨rfl, rfl⟩
    case hold =>
      exact nofun
    case copies =>
      exact nofun
    case times =>
      exact nofun
    case down =>
      intro key isDown
      simp [isUp] at isDown
    case up =>
      intro key _ pass went
      exact absurd went (unmoved key pass)
    case made =>
      intro key pass went
      exact absurd went (unmoved key pass)
  | append_singleton earlier occurrence inductionHypothesis =>
    rw [reached_concat]
    exact inductionHypothesis.occur occurrence

/-- An occurrence that moves a key is a step of the surface loop that presses or releases. -/
theorem moves_of_isDown_ne {occurrence : Occurrence} {key : Key}
    (moved : (session.occur around occurrence).isDown key ≠ session.isDown key) :
    occurrence = .step .surface ∧
      ((∃ loop host now, session.surface = .pressing loop host now) ∨
        ∃ loop now, session.surface = .releasing loop now) := by
  by_cases surface : occurrence = .step .surface
  · subst surface
    refine ⟨rfl, ?_⟩
    have moves : session.surface.movesKeys ≠ false := fun idle => moved (stepSurface_isDown idle key)
    cases phase : session.surface with
    | pressing loop host now => exact .inl ⟨loop, host, now, rfl⟩
    | releasing loop now => exact .inr ⟨loop, now, rfl⟩
    | _ => simp [phase, SurfacePhase.movesKeys] at moves
  · exact absurd ((occur_elsewhere around session surface).2 key) moved

/-- A key that is reported goes down and stays down for the hold time, whatever the clock reads
and whatever else has the machine in between.

Whenever the loop is about to look at the stop flag, latch and machine agree about every key. At
any time the keys that are down are those that went down in a pass whose hold has not run out. A
key goes down only where a pass presses it, which happens exactly if it is reported while it is
up; and it goes up only where a pass releases it, which is the first served pass, from its press
on, whose reading is late enough. A report of a key that is down, or of no key, changes nothing. -/
theorem keys_released_after_hold (around : Surroundings) (console : Console)
    (allUp : console.machine.keypad = .released) (occurrences : List Occurrence) :
    let session := reached around console occurrences
    (∀ loop, session.surface = .checking loop →
      ∀ key, session.isDown key = loop.latch.isHeld key) ∧
    (∀ key, session.isDown key = true ↔
      ∃ pass, WentDown around console occurrences key pass ∧
        around.StillHeld pass session.sweptPasses) ∧
    (∀ occurrence key, session.isDown key = false →
      (session.occur around occurrence).isDown key = true →
      occurrence = .step .surface ∧ ∃ loop host pass,
        session.surface = .pressing loop host (around.passReading pass) ∧
        session.polls = pass + 1 ∧ around.reply pass = .ok (some (.key host)) ∧
        Key.ofChar? host = some key) ∧
    (∀ occurrence key, session.isDown key = true →
      (session.occur around occurrence).isDown key = false →
      occurrence = .step .surface ∧ ∃ loop now, session.surface = .releasing loop now) ∧
    (∀ loop now, session.surface = .releasing loop now →
      ∃ present, session.polls = present + 1 ∧ now = around.passReading present ∧
        around.IsServed present ∧
        ∀ key, (session.isDown key = true ∧ (session.stepSurface around).isDown key = false) ↔
          ∃ pass, WentDown around console occurrences key pass ∧ around.StillHeld pass present ∧
            around.paces.keyHold ≤ now - around.passReading pass) ∧
    ∀ loop host now, session.surface = .pressing loop host now →
      (∀ key, (session.stepSurface around).isDown key = true ↔
        session.isDown key = true ∨ Key.ofChar? host = some key) ∧
      ((∀ key, Key.ofChar? host = some key → session.isDown key = true) →
        (session.stepSurface around).surface = .releasing loop now ∧
          (session.stepSurface around).console = session.console) := by
  intro session
  have follow : session.KeysFollow around console occurrences :=
    reached_keysFollow around console allUp occurrences
  refine ⟨?_, ?_, ?_, ?_, ?_, ?_⟩
  · intro loop phase
    exact follow.copies loop (by rw [phase]; rfl)
  · intro key
    constructor
    · exact follow.down key
    · rintro ⟨pass, went, still⟩
      by_contra isUp
      exact follow.up key (Bool.eq_false_iff.mpr isUp) pass went still
  · intro occurrence key isUp goesDown
    obtain ⟨rfl, moves⟩ := moves_of_isDown_ne (by rw [isUp, goesDown]; exact nofun)
    refine ⟨rfl, ?_⟩
    change (session.stepSurface around).isDown key = true at goesDown
    rcases moves with ⟨loop, host, now, phase⟩ | ⟨loop, now, phase⟩
    · obtain ⟨⟨pass, polls, rfl, replied⟩, after, _⟩ := follow.pressed phase
      rcases (after key).mp goesDown with isDown | found
      · simp [isUp] at isDown
      · exact ⟨loop, host, pass, phase, polls, replied, found⟩
    · simp [releasing_isDown phase key, isUp] at goesDown
  · intro occurrence key isDown goesUp
    obtain ⟨rfl, moves⟩ := moves_of_isDown_ne (by rw [isDown, goesUp]; exact nofun)
    refine ⟨rfl, ?_⟩
    change (session.stepSurface around).isDown key = false at goesUp
    rcases moves with ⟨loop, host, now, phase⟩ | releases
    · have stays := ((follow.pressed phase).2.1 key).mpr (.inl isDown)
      simp [goesUp] at stays
    · exact releases
  · intro loop now phase
    exact follow.released phase
  · intro loop host now phase
    exact (follow.pressed phase).2

/-- A host that reports a key twice while its clock runs back. -/
def jumpySurroundings : Surroundings where
  paces := { keyHold := 100 }
  cpuClock := fun _ => none
  surfaceClock := fun reading => [0, 10, 5, 120].getD reading 0
  reply := fun pass => .ok (if pass < 2 then some (.key 'w') else none)
  refusal := fun _ => none

/-- The key stays down through the second report, though the clock reads less, and goes up in the
third pass, for its press in the first one. -/
theorem released_by_the_third_reading :
    let console : Console := ⟨drawingMachine, true, false⟩
    let occurrences := List.replicate 13 (Occurrence.step .surface)
    let session := reached jumpySurroundings console occurrences
    session.isDown 5 = true ∧ (session.stepSurface jumpySurroundings).isDown 5 = false ∧
      ∃ pass, WentDown jumpySurroundings console occurrences 5 pass ∧
        jumpySurroundings.StillHeld pass 2 ∧ 100 ≤ 120 - jumpySurroundings.passReading pass := by
  intro console occurrences session
  have theory := keys_released_after_hold jumpySurroundings console rfl occurrences
  have isDown : session.isDown 5 = true := by decide +kernel
  have goesUp : (session.stepSurface jumpySurroundings).isDown 5 = false := by decide +kernel
  have polls : session.polls = 3 := by decide +kernel
  obtain ⟨_, loop, now, phase⟩ := theory.2.2.2.1 (.step .surface) 5 isDown goesUp
  obtain ⟨present, passes, rfl, _, released⟩ := theory.2.2.2.2.1 loop now phase
  obtain rfl : present = 2 := Nat.succ.inj (passes.symm.trans polls)
  obtain ⟨pass, went, still, long⟩ := (released 5).mp ⟨isDown, goesUp⟩
  exact ⟨isDown, goesUp, pass, went, still, long⟩

end Session
end ChipEight
