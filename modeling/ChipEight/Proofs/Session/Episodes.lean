import ChipEight.Proofs.Loop.Episodes
import ChipEight.Proofs.Machine.Waiting
import ChipEight.Proofs.Session.Keys

/-!
# Episodes of waiting in a session

In a session the surface loop writes keys, and somebody else may take the machine, at any point between two
steps of the cpu loop. So a stretch of waiting may begin, go on and end with keys that nobody foresees.
The theory of the loop on its own needs to know nothing of them: a pass reports what the machine that it
finds makes of its cycle, and remembers whether that waited.

The invariant `Accounted` says so for the cycles of a history. It is kept by every occurrence; only the
step in which the cpu loop acts needs an argument. A cycle that breaks off has no answer. What it recorded
until then is the last that the loop reports, and does not say that it waits.
-/

namespace ChipEight

namespace Notice

/-- Whether a notice is one of the cpu loop. -/
def isOfCpu : Notice → Bool
  | awaitingKey | stopped .. => true
  | notice => notice.isOfCycle

end Notice

namespace CpuPhase

/-- The cpu loop, while it runs. -/
def loop? : CpuPhase → Option CpuLoop
  | checking loop | polling loop | acting loop _ => some loop
  | starting | ended _ => none

end CpuPhase

namespace Session
open Machine

/-- What a cycle asked of the outside until it broke off, if the cycle of a pass does. -/
def brokenOff? (around : Surroundings) (session : Session) (loop : CpuLoop) (fired : Fired) :
    Option (List Request) :=
  (session.brokenPass? around loop fired).filter fun made =>
    !(session.console.machine.ticked fired).isDoneBy made

/-- The machine that the cycle of an occurrence starts from, if the cpu loop makes a whole one in it. -/
def origin? (around : Surroundings) (session : Session) : Occurrence → Option Machine
  | .step .cpu =>
    match session.cpu with
    | .acting loop fired =>
      if (session.brokenOff? around loop fired).isSome then none
      else session.console.machine.origin? fired
    | _ => none
  | _ => none

/-- The records of a cycle that breaks off in an occurrence. -/
def cut (around : Surroundings) (session : Session) : Occurrence → List Notice
  | .step .cpu =>
    match session.cpu with
    | .acting loop fired =>
      ((session.brokenOff? around loop fired).getD []).filterMap Request.notice
    | _ => []
  | _ => []

/-- The machines that the cycles of the cpu loop start from in several occurrences, in their order. -/
def origins (around : Surroundings) (session : Session) : List Occurrence → List Machine
  | [] => []
  | occurrence :: later =>
    (session.origin? around occurrence).toList ++
      (session.occur around occurrence).origins around later

/-- The records of cycles that break off in several occurrences. -/
def cuts (around : Surroundings) (session : Session) : List Occurrence → List Notice
  | [] => []
  | occurrence :: later =>
    session.cut around occurrence ++ (session.occur around occurrence).cuts around later

/-- What the cpu loop has reported. -/
def cpuJournal (session : Session) : List Notice := session.journal.toList.filter Notice.isOfCpu

/-- The cpu loop of a session has told of all of its cycles, and remembers whether the last one waited.
Behind them it has told what a cycle recorded that broke off, and with that it has ended. -/
structure Accounted (session : Session) (cycles : List Machine) (cut : List Notice) : Prop where
  told : session.cpuJournal = told false cycles ++ cut
  idle : session.cpu = .starting → cycles = []
  remembers : ∀ loop, session.cpu.loop? = some loop → loop.waiting = lastAwaits false cycles
  whole : (∀ result, session.cpu ≠ .ended result) → cut = []
  silent : .awaitingKey ∉ cut

variable {around : Surroundings} {session : Session} {cycles : List Machine} {cut : List Notice}
  {notice : Notice}

/-- All that a pass of the cpu loop reports is of the cpu loop. -/
theorem isOfCpu_of_act {loop : CpuLoop} {fired : Fired} {console : Console}
    (told : notice ∈ (loop.act fired console).notices) : notice.isOfCpu = true := by
  have ofCycle (told : notice ∈ (console.machine.ticked fired).cycleNotices) :
      notice.isOfCpu = true := by
    have kind := isOfCycle_of_cycleNotices told
    cases notice <;> first | rfl | nomatch kind
  rw [CpuLoop.act, CpuLoop.ticked_console] at told
  cases due : fired.cpu with
  | false => simp [due] at told
  | true =>
    cases answered : (console.machine.ticked fired).cycle.2 with
    | error fault =>
      simp only [due, answered, Console.cycle, if_true, List.mem_append] at told
      rcases told with told | told
      · exact ofCycle told
      · obtain rfl := List.mem_singleton.mp told
        rfl
    | ok signal =>
      simp only [due, answered, Console.cycle, if_true, List.mem_append] at told
      rcases told with told | told
      · exact ofCycle told
      · split at told
        · obtain rfl := List.mem_singleton.mp told
          rfl
        · simp at told

/-- A press reports nothing of the cpu loop. -/
theorem isOfCpu_of_press {loop : SurfaceLoop} {host : Char} {now : Instant} {console : Console}
    (told : notice ∈ (loop.press host now console).2.2) : notice.isOfCpu = false := by
  cases found : Key.ofChar? host with
  | none =>
    obtain rfl : notice = .unmappedKey host := by simpa [SurfaceLoop.press, found] using told
    rfl
  | some key =>
    cases isNew : (loop.latch.press key now).2 with
    | false => simp [SurfaceLoop.press, found, isNew] at told
    | true =>
      obtain rfl : notice = .keyDown key := by simpa [SurfaceLoop.press, found, isNew] using told
      rfl

/-- The end of a run reports nothing of the cpu loop. -/
theorem isOfCpu_of_endNotices {name : String} {failure : Option DeviceError} {result : CpuResult}
    (told : notice ∈ endNotices name failure result) : notice.isOfCpu = false := by
  rcases List.mem_append.mp told with told | told <;> split at told <;> simp at told <;>
    (subst told; rfl)

/-- What is reported behind a journal and is not of the cpu loop is left out of its part. -/
theorem filter_append_of_foreign {journal : Array Notice} {notices : List Notice}
    (foreign : ∀ notice ∈ notices, notice.isOfCpu = false) :
    (journal ++ notices).toList.filter Notice.isOfCpu = journal.toList.filter Notice.isOfCpu := by
  have none : notices.filter Notice.isOfCpu = [] :=
    List.filter_eq_nil_iff.mpr fun notice told => by simp [foreign notice told]
  rw [Array.toList_appendList, List.filter_append, none, List.append_nil]

/-- The surface loop, and the end of a run, add nothing to what the cpu loop has reported. -/
theorem stepSurface_cpuJournal (around : Surroundings) (session : Session) :
    (session.stepSurface around).cpuJournal = session.cpuJournal := by
  unfold cpuJournal
  cases phase : session.surface with
  | pressing loop host now =>
    simp only [stepSurface, phase]
    exact filter_append_of_foreign fun _ => isOfCpu_of_press
  | joining failure =>
    cases ended : session.cpu with
    | ended result =>
      simp only [stepSurface, phase, ended]
      exact filter_append_of_foreign fun _ => isOfCpu_of_endNotices
    | _ => simp [stepSurface, phase, ended]
  | polling loop =>
    cases replied : around.reply session.polls with
    | error failure => simp [stepSurface, phase, replied]
    | ok event =>
      rcases event with _ | ⟨host | _⟩ <;>
        simp [stepSurface, phase, replied, answered, Notice.isOfCpu, Notice.isOfCycle]
  | displaying loop frame =>
    cases refused : around.refusal session.displays <;> simp [stepSurface, phase, refused]
  | starting | checking loop | releasing loop now | framing loop now | stopping failure
  | returned result => simp [stepSurface, phase]

/-- What a pass records until it breaks down is of the cpu loop. -/
theorem breakDown_cpuJournal {loop : CpuLoop} {fired : Fired} {requests : List Request}
    (broken : session.brokenPass? around loop fired = some requests) :
    (session.breakDown requests).cpuJournal =
      session.cpuJournal ++ requests.filterMap Request.notice := by
  have own : (requests.filterMap Request.notice).filter Notice.isOfCpu =
      requests.filterMap Request.notice := by
    refine List.filter_eq_self.mpr fun notice told => ?_
    have part : notice ∈ (loop.requests fired session.console).filterMap Request.notice :=
      ((requests_of_brokenPass broken).2.filterMap _).subset told
    rw [CpuLoop.requests_notices] at part
    exact isOfCpu_of_act part
  simp [cpuJournal, breakDown, own]

/-- Before anything occurs the cpu loop has told of no cycle, and there was none. -/
theorem start_accounted (around : Surroundings) (console : Console) :
    ({ start around.paces console.machine with console } : Session).Accounted [] [] where
  told := rfl
  idle _ := rfl
  remembers _ running := nomatch running
  whole _ := rfl
  silent := List.not_mem_nil

/-- The cpu loop reads its clock: it starts, or it polls and finds out what is due. -/
theorem Accounted.readCpuClock (accounted : session.Accounted cycles []) {next : Instant → CpuPhase}
    (begun : ∀ now, next now ≠ .starting)
    (remembers : ∀ now loop, (next now).loop? = some loop → loop.waiting = lastAwaits false cycles) :
    (session.readCpuClock around next).Accounted cycles [] := by
  unfold Session.readCpuClock
  split
  case h_1 now _ =>
    exact ⟨accounted.told, fun starts => absurd starts (begun now), remembers now, fun _ => rfl,
      accounted.silent⟩
  case h_2 => exact ⟨accounted.told, nofun, nofun, fun _ => rfl, accounted.silent⟩

/-- A pass that breaks down has told of its cycle if that was over, and else of a part of it. -/
theorem Accounted.breakDown (accounted : session.Accounted cycles []) {loop : CpuLoop}
    {fired : Fired} {requests : List Request} (phase : session.cpu = .acting loop fired)
    (broken : session.brokenPass? around loop fired = some requests) :
    (session.breakDown requests).Accounted (cycles ++ (session.origin? around (.step .cpu)).toList)
      (session.cut around (.step .cpu)) := by
  obtain ⟨filled, first⟩ := requests_of_brokenPass broken
  obtain ⟨-, made⟩ := CpuLoop.requests_prefix first filled
  have journal := breakDown_cpuJournal broken
  rw [accounted.told, List.append_nil] at journal
  cases done : (session.console.machine.ticked fired).isDoneBy requests with
  | true =>
    rw [if_pos done] at made
    have whole : session.brokenOff? around loop fired = none := by
      simp [brokenOff?, broken, done]
    have remembers := accounted.remembers loop (by rw [phase]; rfl)
    have told := (loop.act_told fired session.console remembers).1
    simp only [origin?, Session.cut, phase, whole]
    refine ⟨?_, nofun, nofun, fun _ => rfl, List.not_mem_nil⟩
    rw [journal, made, CpuLoop.requests_notices, told]
    simp
  | false =>
    rw [if_neg (by simp [done])] at made
    have partly : session.brokenOff? around loop fired = some requests := by
      simp [brokenOff?, broken, done]
    simp only [origin?, Session.cut, phase, partly]
    refine ⟨?_, nofun, nofun, fun running => absurd rfl (running .panicked), fun told => ?_⟩
    · rw [journal]
      simp
    · have part := (List.IsPrefix.filterMap Request.notice made).subset told
      rw [cycleRequests_notices] at part
      nomatch isOfCycle_of_cycleNotices part

/-- A step of the cpu loop accounts for its cycle, if it makes one. -/
theorem Accounted.stepCpu (accounted : session.Accounted cycles cut) (around : Surroundings) :
    (session.stepCpu around).Accounted (cycles ++ (session.origin? around (.step .cpu)).toList)
      (cut ++ session.cut around (.step .cpu)) := by
  have remembers := accounted.remembers
  cases phase : session.cpu with
  | starting =>
    have none : cycles = [] := accounted.idle phase
    obtain rfl : cut = [] := accounted.whole (by rw [phase]; nofun)
    simp only [Session.stepCpu, origin?, Session.cut, phase, Option.toList_none, List.append_nil]
    refine accounted.readCpuClock (fun now => nofun) fun now loop running => ?_
    obtain rfl := Option.some.inj running
    rw [none]
    rfl
  | checking loop =>
    have same := remembers loop (by rw [phase]; rfl)
    obtain rfl : cut = [] := accounted.whole (by rw [phase]; nofun)
    simp only [Session.stepCpu, origin?, Session.cut, phase, Option.toList_none, List.append_nil]
    refine ⟨accounted.told, fun starts => ?_, fun next running => ?_, fun _ => rfl, accounted.silent⟩
    · split at starts <;> nomatch starts
    · split at running
      · nomatch running
      · obtain rfl := Option.some.inj running
        exact same
  | polling loop =>
    have same := remembers loop (by rw [phase]; rfl)
    obtain rfl : cut = [] := accounted.whole (by rw [phase]; nofun)
    simp only [Session.stepCpu, origin?, Session.cut, phase, Option.toList_none, List.append_nil]
    -- The poll moves the scheduler of the loop only, whether anything is due or not.
    refine accounted.readCpuClock (fun now => ?_) fun now next running => ?_
    · split <;> nofun
    · split at running <;> (obtain rfl := Option.some.inj running; exact same)
  | acting loop fired =>
    obtain rfl : cut = [] := accounted.whole (by rw [phase]; nofun)
    rw [List.nil_append]
    cases broken : session.brokenPass? around loop fired with
    | some requests =>
      simp only [Session.stepCpu, phase, broken]
      exact accounted.breakDown phase broken
    | none =>
      have same := remembers loop (by rw [phase]; rfl)
      have whole : session.brokenOff? around loop fired = none := by simp [brokenOff?, broken]
      obtain ⟨told, remembersNext⟩ := loop.act_told fired session.console same
      simp only [Session.stepCpu, origin?, Session.cut, phase, broken, whole]
      refine ⟨?_, fun starts => ?_, fun next running => ?_, fun _ => rfl, List.not_mem_nil⟩
      · have own : (loop.act fired session.console).notices.filter Notice.isOfCpu =
            (loop.act fired session.console).notices :=
          List.filter_eq_self.mpr fun _ => isOfCpu_of_act
        have before := accounted.told
        rw [List.append_nil] at before
        simp [← told, ← before, cpuJournal, own]
      · split at starts <;> nomatch starts
      · split at running
        · nomatch running
        case h_2 passed =>
          obtain rfl := Option.some.inj running
          exact remembersNext passed
  | ended result =>
    simp only [Session.stepCpu, origin?, Session.cut, phase, Option.toList_none, List.append_nil]
    exact accounted

/-- Whatever occurs, the cpu loop has told of its cycles. -/
theorem Accounted.occur (accounted : session.Accounted cycles cut) (around : Surroundings)
    (occurrence : Occurrence) :
    (session.occur around occurrence).Accounted
      (cycles ++ (session.origin? around occurrence).toList)
      (cut ++ session.cut around occurrence) := by
  cases occurrence with
  | step thread =>
    cases thread with
    | cpu => exact accounted.stepCpu around
    | surface =>
      have kept : (session.stepSurface around).cpu = session.cpu := stepSurface_cpu around session
      simp only [origin?, Session.cut, Option.toList_none, List.append_nil]
      exact ⟨(stepSurface_cpuJournal around session).trans accounted.told,
        fun starts => accounted.idle (kept ▸ starts),
        fun loop running => accounted.remembers loop (kept ▸ running),
        fun running => accounted.whole (kept ▸ running), accounted.silent⟩
  | activity activity =>
    simp only [origin?, Session.cut, Option.toList_none, List.append_nil]
    exact ⟨accounted.told, accounted.idle, accounted.remembers, accounted.whole, accounted.silent⟩

/-- After a whole history the cpu loop has told of its cycles. -/
theorem Accounted.occurrences (accounted : session.Accounted cycles cut) (around : Surroundings)
    (occurrences : List Occurrence) :
    (occurrences.foldl (Session.occur around) session).Accounted
      (cycles ++ session.origins around occurrences) (cut ++ session.cuts around occurrences) := by
  induction occurrences generalizing session cycles cut with
  | nil => simpa [origins, cuts] using accounted
  | cons occurrence later inductionHypothesis =>
    rw [List.foldl_cons, origins, cuts, ← List.append_assoc, ← List.append_assoc]
    exact inductionHypothesis (accounted.occur around occurrence)

/-- No cycle breaks off where every request of a pass has an answer. -/
theorem cuts_of_answered (answered : ∀ readings, around.unanswered readings = none)
    (session : Session) (occurrences : List Occurrence) :
    session.cuts around occurrences = [] := by
  induction occurrences generalizing session with
  | nil => rfl
  | cons occurrence later inductionHypothesis =>
    have whole (loop : CpuLoop) (fired : Fired) : session.brokenOff? around loop fired = none := by
      simp [brokenOff?, brokenPass?, answered]
    rw [cuts, inductionHypothesis, List.append_nil]
    unfold Session.cut
    split
    · split
      · simp [whole]
      · rfl
    · rfl

/-- Waiting is reported once per episode.

The record is no part of what is reported of single cycles. The journal of the cpu loop is what is
reported of its cycles, stretch by stretch, with one record behind the first cycle of each stretch that
waits. So it is for a run on its own, with whatever clock and paces, and wherever it is stopped; and
at any time of a session, in which the surface loop writes keys between the steps of the cpu loop, and
somebody else may stop both or take the machine. Behind it comes only what a cycle recorded that broke off,
if the worker broke down in one; that it waits is not among it. A pass that makes no cycle reports nothing
and changes nothing that the loop remembers, so that it does not end a stretch either. -/
theorem waiting_is_reported_once_per_stretch :
    (∀ machine : Machine, .awaitingKey ∉ machine.report) ∧
    (∀ (loop : CpuLoop) (fired : Fired) (console : Console), fired.cpu = false →
      (loop.act fired console).loop = loop ∧ (loop.act fired console).notices = []) ∧
    (∀ (paces : Paces) (clock : Clock) (stopSeen : Nat → Bool) (console : Console) (bound : Nat)
      (last : CpuRun), (CpuRun.start paces clock console).finish? clock stopSeen bound = some last →
      last.journal.toList =
        (stretches (console.machine.origins (firings paces clock last.polls))).flatMap stretchReport) ∧
    ∀ (around : Surroundings) (console : Console) (occurrences : List Occurrence),
      let begun : Session := { start around.paces console.machine with console }
      (reached around console occurrences).cpuJournal =
        (stretches (begun.origins around occurrences)).flatMap stretchReport ++
          begun.cuts around occurrences ∧
      .awaitingKey ∉ begun.cuts around occurrences ∧
      ((∀ readings, around.unanswered readings = none) → begun.cuts around occurrences = []) := by
  refine ⟨awaitingKey_notMem_report, ?_, fun _ _ _ _ _ _ => CpuRun.journal_of_finished, ?_⟩
  · intro loop fired console idle
    simp [CpuLoop.act, idle]
  · intro around console occurrences begun
    have accounted := (start_accounted around console).occurrences around occurrences
    rw [← told_eq_stretches]
    exact ⟨accounted.told, accounted.silent, fun answered => cuts_of_answered answered begun occurrences⟩

/-- What is reported of a machine that waits at a word. -/
theorem report_of_waits {machine : Machine} {word : Word}
    (read : machine.memory.word machine.pc = .ok word) (waits : machine.Waits word) :
    machine.awaits = true ∧ machine.report = [.executing machine.pc word (.awaitKey word.x)] := by
  have answer : machine.cycle.2 = .ok .waiting := congrArg Prod.snd (cycle_of_waits read waits)
  have notices : machine.cycleNotices = [.executing machine.pc word (.awaitKey word.x)] := by
    simp only [cycleNotices, read, Instruction.ofWord?_of_isAwaiting waits.1]
    rfl
  simp [awaits, report, answer, notices]

/-- Of four polls the second and the last make a cycle. A machine that waits is reported to wait behind
the first of the two. -/
theorem waits_across_idle_poll {machine : Machine} {word : Word}
    (read : machine.memory.word machine.pc = .ok word) (waits : machine.Waits word) :
    let polls : List Fired := [⟨false, false⟩, ⟨true, false⟩, ⟨false, false⟩, ⟨true, false⟩]
    machine.answers polls = [.ok .waiting, .ok .waiting] ∧
      (stretches (machine.origins polls)).flatMap stretchReport =
        [.executing machine.pc word (.awaitKey word.x), .awaitingKey,
          .executing machine.pc word (.awaitKey word.x)] := by
  intro polls
  let waited : Machine := { machine with opcode := word }
  have readAgain : waited.memory.word waited.pc = .ok word := read
  have waitsAgain : waited.Waits word := waits
  have first : machine.cycle = (waited, .ok .waiting) := cycle_of_waits read waits
  have second : waited.cycle = (waited, .ok .waiting) := cycle_of_waits readAgain waitsAgain
  have cycles : machine.origins polls = [machine, waited] := by
    simp [polls, Machine.origins, Machine.origin?, poll, ticked, first]
  obtain ⟨firstWaits, firstReport⟩ := report_of_waits read waits
  obtain ⟨secondWaits, secondReport⟩ := report_of_waits readAgain waitsAgain
  refine ⟨by simp [polls, answers, answer?, poll, ticked, first, second], ?_⟩
  have one : stretches [machine, waited] = [[machine, waited]] := by
    simp [stretches, List.splitBy, List.splitBy.loop, agree, firstWaits, secondWaits]
  rw [cycles, one]
  simp [stretchReport, firstWaits, firstReport, secondReport, waited]

/-- A console with a program that waits for a key, while no key is down. -/
def waitingConsole : Console :=
  ⟨Machine.boot ⟨"wait", #[0xF3, 0x0A], by decide⟩ ⟨fun _ => 0, 0⟩, false, false⟩

/-- A program that waits for a key over and over. -/
def listeningConsole : Console :=
  ⟨{ drawingMachine with
      memory := Memory.writeAll ⟨Vector.replicate 4096 0⟩ [(512, 0xF3), (513, 0x0A), (514, 0x12)] },
    false, false⟩

/-- A host that reports a key at every poll, while keys go up in the pass in which they go down. -/
def typingSurroundings : Surroundings where
  paces := { keyHold := 0 }
  cpuClock := fun reading => some (17000000 * reading)
  surfaceClock := fun _ => 0
  reply := fun _ => .ok (some (.key 'w'))
  refusal := fun _ => none

/-- The program waits, and waits again after the key went down and up. The next time it finds the key
down, and then it waits anew. -/
def typedBetween : List Occurrence :=
  let steps : List Thread := List.replicate 4 .cpu ++ List.replicate 5 .surface ++
    List.replicate 3 .cpu ++ List.replicate 4 .surface ++ List.replicate 3 .cpu ++ [.surface] ++
    List.replicate 6 .cpu
  steps.map .step

/-- Both cycles of four polls wait, and the poll between them makes none. So the record comes once. In a
session it comes once for two cycles between which the surface writes a key, because both wait, and again
when a cycle that finds the key down has come between. -/
theorem idle_poll_continues_waiting :
    (∃ last, (CpuRun.start {} CpuRun.everySecond waitingConsole).finish? CpuRun.everySecond (4 ≤ ·) 5 =
        some last ∧
      last.journal.toList = [.executing 0x200 0xF30A (.awaitKey 3), .awaitingKey,
        .executing 0x200 0xF30A (.awaitKey 3)]) ∧
      (reached typingSurroundings listeningConsole typedBetween).cpuJournal =
        [.executing 0x200 0xF30A (.awaitKey 3), .awaitingKey, .executing 0x200 0xF30A (.awaitKey 3),
          .executing 0x200 0xF30A (.awaitKey 3), .executing 0x202 0x1200 (.jump 0x200),
          .executing 0x200 0xF30A (.awaitKey 3), .awaitingKey] := by
  have due : firings {} CpuRun.everySecond 4 =
      [⟨false, false⟩, ⟨true, false⟩, ⟨false, false⟩, ⟨true, false⟩] := by decide
  have read : waitingConsole.machine.memory.word waitingConsole.machine.pc = .ok 0xF30A :=
    (Memory.word_load (by decide)).trans (congrArg Except.ok (by decide))
  have waits : waitingConsole.machine.Waits 0xF30A := ⟨by decide, Keypad.firstDown?_eq_none.mp rfl⟩
  obtain ⟨answers, told⟩ := waits_across_idle_poll read waits
  have succeeded : Succeeded (waitingConsole.machine.answers (firings {} CpuRun.everySecond 4)) := by
    intro answer made
    rw [due, answers] at made
    exact ⟨.waiting, by simpa using made⟩
  have ends : ∃ last,
      (CpuRun.start {} CpuRun.everySecond waitingConsole).finish? CpuRun.everySecond (4 ≤ ·) 5 =
        some last ∧ last.polls = 4 ∧ last.fault = none :=
    (CpuRun.start_running {} CpuRun.everySecond (4 ≤ ·) waitingConsole).finish_complete
      (.stopped 4 (fun check before => by simpa using before) (by decide) succeeded)
      (Nat.zero_le _) (by decide)
  obtain ⟨last, finished, polls, -⟩ := ends
  refine ⟨⟨last, finished, ?_⟩, ?_⟩
  · rw [waiting_is_reported_once_per_stretch.2.2.1 {} CpuRun.everySecond (4 ≤ ·) waitingConsole 5 last
      finished, polls, due]
    exact told
  · obtain ⟨journal, -, whole⟩ :=
      waiting_is_reported_once_per_stretch.2.2.2 typingSurroundings listeningConsole typedBetween
    rw [journal, whole fun _ => rfl]
    decide +kernel

end Session
end ChipEight
