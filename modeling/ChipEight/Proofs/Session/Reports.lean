import ChipEight.Proofs.Session.Keys

/-!
# Which reports of keys are lost

A pass of the surface loop first presses the key that was reported and then releases the keys that
were held for long enough. So a report of a key whose hold runs out at the reading of the same pass
comes too early: the key is still held, the report is ignored, and the release moves the key up. It
stays up until it is reported once more. Every other report leaves its key down.

The invariant `Answered` follows the pass of a report through its two halves. It is kept by
every occurrence; only the press and the release need an argument, and both are taken from the theory
of keys that go up after their hold time.
-/

namespace ChipEight

/-- Whether the surface reports a key in a pass. -/
def Surroundings.Reports (around : Surroundings) (pass : Nat) (key : Key) : Prop :=
  ∃ host, around.reply pass = .ok (some (.key host)) ∧ Key.ofChar? host = some key

namespace Session

/-- Whether the hold of an earlier press of a key runs out at the reading of a pass. -/
def RunsOut (around : Surroundings) (console : Console) (occurrences : List Occurrence) (key : Key)
    (pass : Nat) : Prop :=
  ∃ earlier < pass, WentDown around console occurrences key earlier ∧
    around.StillHeld earlier pass ∧
    around.paces.keyHold ≤ around.passReading pass - around.passReading earlier

/-- What the latest report has done to its key: before the releases of its pass the key is down, and
afterwards it is down unless a hold has run out. -/
structure Answered (around : Surroundings) (console : Console) (occurrences : List Occurrence)
    (session : Session) : Prop where
  pressed : ∀ loop now, session.surface = .releasing loop now → ∀ pass key,
    session.polls = pass + 1 → around.Reports pass key → session.isDown key = true
  released : session.surface.movesKeys = false → ∀ pass key,
    session.polls = pass + 1 → around.Reports pass key →
    (session.isDown key = true ↔ ¬ RunsOut around console occurrences key pass)

variable {around : Surroundings} {console : Console} {occurrences : List Occurrence}
  {session : Session}

/-- A step that does not poll stays in its pass, and from where no key moves none is about to move. -/
theorem stepSurface_unpolled (around : Surroundings) (idle : session.surface.movesKeys = false)
    (unpolled : ∀ loop, session.surface ≠ .polling loop) :
    (session.stepSurface around).polls = session.polls ∧
      (session.stepSurface around).surface.movesKeys = false := by
  cases phase : session.surface with
  | polling loop => exact absurd phase (unpolled loop)
  | pressing loop host now | releasing loop now => simp [phase, SurfacePhase.movesKeys] at idle
  | checking loop =>
    cases raised : session.console.stop <;> simp [stepSurface, phase, raised, SurfacePhase.movesKeys]
  | framing loop now =>
    cases taken : (loop.snapshot now session.console).2.2 <;>
      simp [stepSurface, phase, taken, SurfacePhase.movesKeys]
  | displaying loop frame =>
    cases refused : around.refusal session.displays <;>
      simp [stepSurface, phase, refused, SurfacePhase.movesKeys]
  | joining failure =>
    cases ended : session.cpu <;> simp [stepSurface, phase, ended, SurfacePhase.movesKeys]
  | starting | stopping failure | returned result =>
    simp [stepSurface, phase, SurfacePhase.movesKeys]

/-- A poll begins a pass, and if it reports a key, the key is pressed next. -/
theorem stepSurface_polling (around : Surroundings) {loop : SurfaceLoop}
    (phase : session.surface = .polling loop) :
    (session.stepSurface around).polls = session.polls + 1 ∧
      ∀ key, around.Reports session.polls key → ∃ host now,
        (session.stepSurface around).surface = .pressing loop host now := by
  constructor
  · cases replied : around.reply session.polls with
    | error failure => simp [stepSurface, phase, replied]
    | ok event => rcases event with _ | ⟨_ | _⟩ <;> simp [stepSurface, phase, replied, answered]
  · rintro key ⟨host, replied, _⟩
    exact ⟨host, around.surfaceClock session.surfaceReadings, by simp [stepSurface, phase, replied, answered]⟩

/-- A step from where no key moves does not reach the second half of a pass that reports a key; and
where it is past that half, so was the session before it. -/
theorem stepSurface_in_pass (idle : session.surface.movesKeys = false) {pass : Nat} {key : Key}
    (reports : around.Reports pass key) (polls : (session.stepSurface around).polls = pass + 1) :
    (∀ loop now, (session.stepSurface around).surface ≠ .releasing loop now) ∧
      ((session.stepSurface around).surface.movesKeys = false → session.polls = pass + 1) := by
  by_cases unpolled : ∀ loop, session.surface ≠ .polling loop
  · obtain ⟨same, stays⟩ := stepSurface_unpolled around idle unpolled
    refine ⟨fun loop now phase => ?_, fun _ => same.symm.trans polls⟩
    rw [phase] at stays
    nomatch stays
  · obtain ⟨loop, phase⟩ : ∃ loop, session.surface = .polling loop := by simpa using unpolled
    obtain ⟨begun, presses⟩ := stepSurface_polling around phase
    obtain rfl : session.polls = pass := Nat.succ.inj (begun.symm.trans polls)
    obtain ⟨host, now, pressing⟩ := presses key reports
    rw [pressing]
    exact ⟨nofun, nofun⟩

namespace Answered

variable {occurrence : Occurrence}

/-- An occurrence that moves no key and makes no press or release keeps what a report has done. -/
theorem quiet (answered : session.Answered around console occurrences)
    (follow : session.KeysFollow around console occurrences)
    (keys : ∀ key, (session.occur around occurrence).isDown key = session.isDown key)
    (pressed : ∀ loop now, (session.occur around occurrence).surface = .releasing loop now →
      ∀ pass key, (session.occur around occurrence).polls = pass + 1 → around.Reports pass key →
        session.surface = .releasing loop now ∧ session.polls = pass + 1)
    (released : (session.occur around occurrence).surface.movesKeys = false → ∀ pass key,
      (session.occur around occurrence).polls = pass + 1 → around.Reports pass key →
        session.surface.movesKeys = false ∧ session.polls = pass + 1) :
    (session.occur around occurrence).Answered around console (occurrences ++ [occurrence]) := by
  constructor
  case pressed =>
    intro loop now phase pass key polls reports
    obtain ⟨before, same⟩ := pressed loop now phase pass key polls reports
    rw [keys]
    exact answered.pressed loop now before pass key same reports
  case released =>
    intro idle pass key polls reports
    obtain ⟨before, same⟩ := released idle pass key polls reports
    have went (earlier : Nat) : WentDown around console (occurrences ++ [occurrence]) key earlier ↔
        WentDown around console occurrences key earlier :=
      follow.wentDown_of_quiet fun up => (keys key).trans up
    simp only [RunsOut, keys, went]
    exact answered.released before pass key same reports

/-- The press of a reported key moves it down, if it was not down before. -/
theorem press (follow : session.KeysFollow around console occurrences) {loop : SurfaceLoop}
    {host : Char} {now : Instant} (phase : session.surface = .pressing loop host now) :
    (session.stepSurface around).Answered around console (occurrences ++ [.step .surface]) := by
  obtain ⟨⟨present, polls, _, replied⟩, after, _⟩ := follow.pressed phase
  constructor
  case pressed =>
    rintro _ _ _ pass key pollsToo ⟨other, repliedToo, found⟩
    have kept : (session.stepSurface around).polls = session.polls := by simp [stepSurface, phase]
    obtain rfl : present = pass := Nat.succ.inj (polls.symm.trans (kept.symm.trans pollsToo))
    obtain rfl : host = other := by simpa [replied] using repliedToo
    exact (after key).mpr (.inr found)
  case released =>
    intro idle
    simp [stepSurface, phase, SurfacePhase.movesKeys] at idle

/-- The releases move a reported key up exactly if the hold of an earlier press runs out. -/
theorem release (answered : session.Answered around console occurrences)
    (positive : 0 < around.paces.keyHold)
    (follow : session.KeysFollow around console occurrences) {loop : SurfaceLoop} {now : Instant}
    (phase : session.surface = .releasing loop now) :
    (session.stepSurface around).Answered around console (occurrences ++ [.step .surface]) := by
  obtain ⟨present, polls, rfl, _, after⟩ := follow.released phase
  constructor
  case pressed =>
    intro _ _ phaseToo
    simp [stepSurface, phase] at phaseToo
  case released =>
    intro _ pass key pollsToo reports
    have kept : (session.stepSurface around).polls = session.polls := by simp [stepSurface, phase]
    obtain rfl : present = pass := Nat.succ.inj (polls.symm.trans (kept.symm.trans pollsToo))
    have isDown := answered.pressed loop _ phase present key polls reports
    have went (earlier : Nat) : WentDown around console (occurrences ++ [.step .surface]) key earlier ↔
        WentDown around console occurrences key earlier :=
      follow.wentDown_of_quiet fun isUp => by simp [isDown] at isUp
    have goesUp : (session.stepSurface around).isDown key = false ↔
        RunsOut around console (occurrences ++ [.step .surface]) key present := by
      refine (and_iff_right isDown).symm.trans ((after key).trans ?_)
      simp only [RunsOut, went]
      constructor
      · rintro ⟨earlier, wentDown, still, long⟩
        have before := follow.made key earlier wentDown
        have apart : earlier ≠ present := by
          rintro rfl
          rw [Nat.sub_self] at long
          exact Nat.not_lt.mpr long positive
        exact ⟨earlier, by omega, wentDown, still, long⟩
      · rintro ⟨earlier, _, wentDown, still, long⟩
        exact ⟨earlier, wentDown, still, long⟩
    rw [← goesUp, Bool.not_eq_false]

/-- Every occurrence keeps what a report has done. -/
theorem occur (answered : session.Answered around console occurrences)
    (positive : 0 < around.paces.keyHold)
    (follow : session.KeysFollow around console occurrences) (occurrence : Occurrence) :
    (session.occur around occurrence).Answered around console (occurrences ++ [occurrence]) := by
  by_cases surface : occurrence = .step .surface
  · subst surface
    cases moves : session.surface.movesKeys with
    | false =>
      refine answered.quiet follow (stepSurface_isDown moves) ?_ ?_
      · intro loop now phase pass key polls reports
        exact absurd phase ((stepSurface_in_pass moves reports polls).1 loop now)
      · intro idle pass key polls reports
        exact ⟨moves, (stepSurface_in_pass moves reports polls).2 idle⟩
    | true =>
      cases phase : session.surface with
      | pressing loop host now => exact press follow phase
      | releasing loop now => exact answered.release positive follow phase
      | _ => simp [phase, SurfacePhase.movesKeys] at moves
  · obtain ⟨kept, keys⟩ := occur_elsewhere around session surface
    refine answered.quiet follow keys ?_ ?_
    · intro loop now phase pass key polls _
      exact ⟨kept.surface ▸ phase, kept.polls ▸ polls⟩
    · intro idle pass key polls _
      exact ⟨kept.surface ▸ idle, kept.polls ▸ polls⟩

end Answered

/-- Before the first poll nothing was reported, and every occurrence keeps what reports have done. -/
theorem reached_answered (around : Surroundings) (console : Console)
    (allUp : console.machine.keypad = .released) (positive : 0 < around.paces.keyHold)
    (occurrences : List Occurrence) :
    (reached around console occurrences).Answered around console occurrences := by
  induction occurrences using List.reverseRecOn with
  | nil =>
    have unpolled : (reached around console []).polls = 0 := rfl
    constructor <;> simp [unpolled]
  | append_singleton earlier occurrence inductionHypothesis =>
    rw [reached_concat]
    exact inductionHypothesis.occur positive (reached_keysFollow around console allUp earlier) occurrence

/-- What becomes of a report.

Once a pass that reports a key has made its releases, and until the next poll, the key is down exactly
if the hold of no earlier press of this key has run out at the reading of this very pass. If one has,
the report is lost: it was ignored for the sake of that press, and the key is up. This holds
whatever the clock reads, and whatever else has the machine in between. -/
theorem reported_key_down_iff (around : Surroundings) (console : Console)
    (allUp : console.machine.keypad = .released) (positive : 0 < around.paces.keyHold)
    (occurrences : List Occurrence) (pass : Nat) (key : Key) (reports : around.Reports pass key)
    (begun : (reached around console occurrences).polls = pass + 1)
    (released : (reached around console occurrences).surface.movesKeys = false) :
    (reached around console occurrences).isDown key = true ↔
      ¬ ∃ earlier < pass, WentDown around console occurrences key earlier ∧
        around.StillHeld earlier pass ∧
        around.paces.keyHold ≤ around.passReading pass - around.passReading earlier :=
  (reached_answered around console allUp positive occurrences).released released pass key begun reports

/-- A host that reports a key twice, and whose clock reads late when it comes to the second report. -/
def lateSurroundings : Surroundings where
  paces := { keyHold := 100 }
  cpuClock := fun _ => none
  surfaceClock := fun reading => [0, 10, 200].getD reading 200
  reply := fun pass => .ok (if pass < 2 then some (.key 'w') else none)
  refusal := fun _ => none

/-- The first report is kept, the second one is lost to the release of the first. -/
theorem late_report_is_lost :
    let console : Console := ⟨drawingMachine, true, false⟩
    let first := reached lateSurroundings console (List.replicate 6 (.step .surface))
    let second := reached lateSurroundings console (List.replicate 11 (.step .surface))
    first.isDown 5 = true ∧ second.isDown 5 = false ∧
      ∃ earlier < 1, WentDown lateSurroundings console (List.replicate 11 (.step .surface)) 5 earlier ∧
        lateSurroundings.StillHeld earlier 1 ∧ 100 ≤ 200 - lateSurroundings.passReading earlier := by
  intro console first second
  have reports (pass : Nat) (early : pass < 2) : lateSurroundings.Reports pass 5 :=
    ⟨'w', by simp only [lateSurroundings, if_pos early], by decide⟩
  have kept := reported_key_down_iff lateSurroundings console rfl (by decide)
    (List.replicate 6 (.step .surface)) 0 5 (reports 0 (by decide)) (by decide +kernel) (by decide +kernel)
  have lost := reported_key_down_iff lateSurroundings console rfl (by decide)
    (List.replicate 11 (.step .surface)) 1 5 (reports 1 (by decide)) (by decide +kernel) (by decide +kernel)
  have isUp : second.isDown 5 = false := by decide +kernel
  refine ⟨kept.mpr (by simp), isUp, ?_⟩
  by_contra none
  exact Bool.false_ne_true (isUp.symm.trans (lost.mpr none))

/-- So not every report leaves its key down, even where keys are held for some time. -/
theorem reports_can_be_lost :
    ¬ ∀ (around : Surroundings) (console : Console) (occurrences : List Occurrence) (pass : Nat)
      (key : Key), console.machine.keypad = .released → 0 < around.paces.keyHold →
      around.Reports pass key → (reached around console occurrences).polls = pass + 1 →
      (reached around console occurrences).surface.movesKeys = false →
      (reached around console occurrences).isDown key = true := by
  intro always
  have isDown := always lateSurroundings ⟨drawingMachine, true, false⟩
    (List.replicate 11 (.step .surface)) 1 5 rfl (by decide) ⟨'w', by decide, by decide⟩
    (by decide +kernel) (by decide +kernel)
  have isUp : (reached lateSurroundings ⟨drawingMachine, true, false⟩
      (List.replicate 11 (.step .surface))).isDown 5 = false := by decide +kernel
  exact Bool.false_ne_true (isUp.symm.trans isDown)

end Session
end ChipEight
