import ChipEight.Proofs.Loop.Report
import Mathlib.Data.List.SplitBy

/-!
# Episodes of waiting

An instruction that waits for a key is executed again and again, and each of its cycles answers that it
waits. The loop reports the first of them only. It remembers whether its last cycle waited; a pass
without a cycle remembers the same and reports nothing.

A reference that knows no loop cuts the list of all cycles into the longest stretches in which either all
cycles wait or none does, and lets every stretch that waits be reported once, behind its first cycle.
What is remembered across passes is what the cut decides between neighbours.
-/

namespace ChipEight

namespace Notice

/-- Whether a notice is one of a cycle. -/
def isOfCycle : Notice → Bool
  | passedOver .. | executing .. | ignoredRoutine .. | calling .. | returning .. | ignoredWrite .. => true
  | _ => false

end Notice

namespace Machine

/-! ## Cycles and what they report -/

/-- The machine that the cycle of a poll starts from, if the poll makes one. -/
def origin? (machine : Machine) (fired : Fired) : Option Machine :=
  if fired.cpu then some (machine.ticked fired) else none

/-- The machines that the cycles of several polls start from, in their order. -/
def origins (machine : Machine) : List Fired → List Machine
  | [] => []
  | fired :: later => (machine.origin? fired).toList ++ (machine.poll fired).origins later

/-- Whether the cycle of a machine answers that it waits for a key. -/
def awaits (machine : Machine) : Bool :=
  match machine.cycle.2 with
  | .ok signal => signal == .waiting
  | .error _ => false

/-- What is reported of the cycle of a machine: what the cycle itself reports, and its failure. -/
def report (machine : Machine) : List Notice :=
  machine.cycleNotices ++ match machine.cycle.2 with
    | .ok _ => []
    | .error fault => [.stopped machine.cycle.1.pc fault]

/-- Whether two cycles both wait for a key, or both do not. -/
def agree (machine other : Machine) : Bool := machine.awaits == other.awaits

/-- The stretches of some cycles: the longest pieces in which all cycles wait for a key, or none. -/
def stretches (cycles : List Machine) : List (List Machine) := cycles.splitBy agree

/-- What is reported of a stretch. That it waits is reported once, behind its first cycle. -/
def stretchReport : List Machine → List Notice
  | [] => []
  | first :: later =>
    first.report ++ (if first.awaits then [.awaitingKey] else []) ++ later.flatMap report

variable {machine : Machine} {notice : Notice}

/-- One more poll adds its own cycle, if it makes one. -/
theorem origins_concat (machine : Machine) (firings : List Fired) (fired : Fired) :
    machine.origins (firings ++ [fired]) =
      machine.origins firings ++ ((machine.polls firings).origin? fired).toList := by
  induction firings generalizing machine with
  | nil => simp [origins, polls]
  | cons first later inductionHypothesis =>
    simp only [List.cons_append, origins, List.append_assoc]
    rw [inductionHypothesis]
    rfl

/-- Whatever a cycle reports is one of the notices of cycles. -/
theorem isOfCycle_of_cycleNotices (told : notice ∈ machine.cycleNotices) :
    notice.isOfCycle = true := by
  rcases cycleNotices_kinds told with ⟨_, rfl⟩ | ⟨_, _, rfl⟩ | ⟨_, _, told⟩
  · rfl
  · rfl
  · rcases executeNotices_kinds told with ⟨_, rfl⟩ | ⟨_, rfl⟩ | ⟨_, _, rfl⟩ | ⟨_, _, rfl⟩ <;> rfl

/-- That a cycle waits is not part of its own report. -/
theorem awaitingKey_notMem_report (machine : Machine) : .awaitingKey ∉ machine.report := by
  intro told
  rcases List.mem_append.mp told with told | told
  · nomatch isOfCycle_of_cycleNotices told
  · split at told <;> simp at told

/-! ## From the left, and by stretches -/

/-- What is reported of some cycles if it is remembered whether the cycle before waited. -/
def told (waited : Bool) : List Machine → List Notice
  | [] => []
  | machine :: later =>
    machine.report ++ (if machine.awaits && !waited then [.awaitingKey] else []) ++
      told machine.awaits later

/-- Whether the last of some cycles waited, or the one before them if there is none. -/
def lastAwaits (waited : Bool) (cycles : List Machine) : Bool :=
  cycles.foldl (fun _ machine => machine.awaits) waited

/-- One more cycle reports that it waits unless the last one did. -/
theorem told_concat (waited : Bool) (cycles : List Machine) (machine : Machine) :
    told waited (cycles ++ [machine]) = told waited cycles ++
      (machine.report ++ if machine.awaits && !lastAwaits waited cycles then [.awaitingKey] else []) := by
  induction cycles generalizing waited with
  | nil => simp [told, lastAwaits]
  | cons first later inductionHypothesis =>
    simp only [List.cons_append, told, inductionHypothesis, List.append_assoc]
    rfl

/-- One more cycle is the last one. -/
theorem lastAwaits_concat (waited : Bool) (cycles : List Machine) (machine : Machine) :
    lastAwaits waited (cycles ++ [machine]) = machine.awaits := by
  simp [lastAwaits]

/-- Cycles that wait after one that waits, or that do not after one that does not, add nothing to their
own reports. -/
theorem told_even {waited : Bool} {piece : List Machine}
    (even : ∀ machine ∈ piece, machine.awaits = waited) (later : List Machine) :
    told waited (piece ++ later) = piece.flatMap report ++ told waited later := by
  induction piece with
  | nil => rfl
  | cons first rest inductionHypothesis =>
    have same : first.awaits = waited := even first List.mem_cons_self
    have silent : (first.awaits && !waited) = false := by rw [same, Bool.and_not_self]
    rw [List.cons_append, told, silent, same,
      inductionHypothesis fun machine member => even machine (List.mem_cons_of_mem first member)]
    simp

/-- All cycles of a piece whose neighbours agree do what the first one does. -/
theorem awaits_of_isChain {first : Machine} {rest : List Machine}
    (even : (first :: rest).IsChain fun machine next => agree machine next = true) :
    ∀ machine ∈ first :: rest, machine.awaits = first.awaits := by
  induction rest generalizing first with
  | nil => simp
  | cons second rest inductionHypothesis =>
    obtain ⟨same, even⟩ := List.isChain_cons_cons.mp even
    have agrees : second.awaits = first.awaits := (beq_iff_eq.mp same).symm
    intro machine member
    rcases List.mem_cons.mp member with rfl | member
    · rfl
    · rw [inductionHypothesis even machine member, agrees]

/-- Pieces that each agree in themselves, and not with the next one, are reported one by one.

Proof: by induction on the pieces. The first cycle of a piece is reported to wait if it does, because the
one before it did not; the others are not, because the first one did the same. -/
theorem told_flatten (waited : Bool) (pieces : List (List Machine)) (filled : [] ∉ pieces)
    (even : ∀ piece ∈ pieces, piece.IsChain fun machine next => agree machine next = true)
    (apart : pieces.IsChain fun piece next => ∃ some other,
      agree (piece.getLast some) (next.head other) = false)
    (fresh : ∀ first ∈ pieces.flatten.head?, waited = true → first.awaits = false) :
    told waited pieces.flatten = pieces.flatMap stretchReport := by
  induction pieces generalizing waited with
  | nil => rfl
  | cons piece pieces inductionHypothesis =>
    obtain ⟨here, later⟩ := not_or.mp (mt List.mem_cons.mpr filled)
    cases piece with
    | nil => exact absurd rfl here
    | cons first rest =>
      have alike := awaits_of_isChain (even _ List.mem_cons_self)
      have begins : (first.awaits && !waited) = first.awaits := by
        have before := fresh first rfl
        cases waited <;> simp_all
      have freshLater : ∀ other ∈ pieces.flatten.head?, first.awaits = true → other.awaits = false := by
        intro other leads waits
        cases pieces with
        | nil => simp at leads
        | cons next pieces =>
          obtain ⟨⟨some, filled, differ⟩, -⟩ := List.isChain_cons_cons.mp apart
          have leads : next.head filled = other := by
            simpa [List.head?_eq_some_head filled] using leads
          rw [agree, alike _ (List.getLast_mem some), leads, waits] at differ
          simpa using differ
      have step := inductionHypothesis first.awaits later
        (fun piece member => even piece (List.mem_cons_of_mem _ member)) apart.tail freshLater
      calc told waited ((first :: rest) :: pieces).flatten
          = first.report ++ (if first.awaits && !waited then [.awaitingKey] else []) ++
              told first.awaits (rest ++ pieces.flatten) := rfl
        _ = stretchReport (first :: rest) ++ told first.awaits pieces.flatten := by
          rw [begins, told_even fun machine member => alike machine (List.mem_cons_of_mem _ member),
            stretchReport, List.append_assoc _ _ (told _ _)]
        _ = ((first :: rest) :: pieces).flatMap stretchReport := by
          rw [step, List.flatMap_cons]

/-- Cycles that are reported from the left are reported by stretches. -/
theorem told_eq_stretches (cycles : List Machine) :
    told false cycles = (stretches cycles).flatMap stretchReport := by
  have whole : (stretches cycles).flatten = cycles := List.flatten_splitBy _ cycles
  have cut := told_flatten false (stretches cycles) (List.nil_notMem_splitBy agree cycles)
    (fun _ => List.isChain_of_mem_splitBy) (List.isChain_getLast_head_splitBy agree cycles)
    fun _ _ waited => nomatch waited
  exact (congrArg (told false) whole.symm).trans cut

end Machine

namespace CpuLoop
open Machine

/-- A loop that remembers whether the last of its cycles waited reports what a pass adds to them, and
remembers the same of them all. A pass without a cycle adds none. -/
theorem act_told (loop : CpuLoop) (fired : Fired) (console : Console) {cycles : List Machine}
    (remembers : loop.waiting = lastAwaits false cycles) :
    told false cycles ++ (loop.act fired console).notices =
        told false (cycles ++ (console.machine.origin? fired).toList) ∧
      ((loop.act fired console).fault = none → (loop.act fired console).loop.waiting =
        lastAwaits false (cycles ++ (console.machine.origin? fired).toList)) := by
  rw [act, ticked_console]
  cases due : fired.cpu with
  | false => simp [origin?, due, remembers]
  | true =>
    have made : (console.machine.origin? fired).toList = [console.machine.ticked fired] := by
      simp [origin?, due]
    rw [made, told_concat, lastAwaits_concat, ← remembers]
    cases answered : (console.machine.ticked fired).cycle.2 with
    | error fault => simp [report, awaits, answered, Console.cycle]
    | ok signal => simp [report, awaits, answered, Console.cycle]

end CpuLoop

namespace CpuRun
open Machine

variable {paces : Paces} {clock : Clock} {stopSeen : Nat → Bool} {console : Console} {run : CpuRun}

/-- The cycles of a run grow by the one of the next poll, if it makes one. -/
theorem Follows.origins_next (follows : run.Follows paces clock console) :
    console.machine.origins (firings paces clock (run.polls + 1)) =
      console.machine.origins (firings paces clock run.polls) ++
        (run.console.machine.origin? (run.nextFired clock)).toList := by
  rw [follows.firings_next, origins_concat, follows.machine]

/-- The journal of a run has told of its cycles, and its loop remembers whether the last one waited. -/
structure Accounted (paces : Paces) (clock : Clock) (console : Console) (run : CpuRun) : Prop where
  journal : run.journal.toList =
    told false (console.machine.origins (firings paces clock run.polls))
  remembers : run.loop.waiting =
    lastAwaits false (console.machine.origins (firings paces clock run.polls))

/-- A pass tells of its cycle, if it makes one; and unless that fails, the run remembers it. -/
theorem Accounted.turn (accounted : run.Accounted paces clock console)
    (follows : run.Follows paces clock console) :
    (run.turn clock).journal.toList =
        told false (console.machine.origins (firings paces clock (run.polls + 1))) ∧
      ((run.turn clock).fault = none → (run.turn clock).Accounted paces clock console) := by
  obtain ⟨notices, remembers⟩ := CpuLoop.act_told (run.loop.poll (clock run.readings)).1
    (run.nextFired clock) run.console accounted.remembers
  rw [← follows.origins_next] at notices remembers
  have journal : (run.turn clock).journal.toList =
      told false (console.machine.origins (firings paces clock (run.polls + 1))) := by
    rw [journal_turn, accounted.journal]
    exact notices
  exact ⟨journal, fun passed => ⟨journal, remembers passed⟩⟩

/-- The journal of a run that ends is that of the stretches of its cycles. A check reports nothing, and
the pass that fails tells of its cycle like every other. -/
theorem journal_of_finished {bound : Nat} {last : CpuRun}
    (finished : (start paces clock console).finish? clock stopSeen bound = some last) :
    last.journal.toList =
      (stretches (console.machine.origins (firings paces clock last.polls))).flatMap stretchReport := by
  obtain ⟨moment, running, accounted, ⟨-, rfl⟩ | ⟨-, -, rfl⟩⟩ :=
    (start_running paces clock stopSeen console).last_moment (Accounted paces clock console) ⟨rfl, rfl⟩
      (fun run running accounted => (accounted.turn running.toFollows).2) finished
  · exact accounted.journal.trans (told_eq_stretches _)
  · exact (accounted.turn running.toFollows).1.trans (told_eq_stretches _)

end CpuRun
end ChipEight
