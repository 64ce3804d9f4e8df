import ChipEight.Journal

/-!
# Workers

A worker runs a job beside its owner until the job returns; the job can watch a stop flag.
All that is assumed of a job is when it ends and with what. A job that breaks down has no
result.
-/

namespace ChipEight

/-- How a job ends. -/
inductive Job (α : Type)
  /-- It returns at once. -/
  | returns (value : α)
  /-- It returns as soon as the stop flag is raised. -/
  | untilStopped (value : α)
  /-- It breaks down. -/
  | panics
  deriving DecidableEq, Repr

/-- A job, whether its result was collected, and the stop flag. -/
structure Worker (α : Type) where
  job : Job α
  isJoined : Bool
  isStopRaised : Bool
  deriving DecidableEq, Repr

namespace Worker
variable {α : Type}

/-- A worker that was just started. -/
def start (job : Job α) : Worker α := ⟨job, false, false⟩

/-- Raises the stop flag from outside. -/
def raiseStop (worker : Worker α) : Worker α := { worker with isStopRaised := true }

/-- Whether the job still runs. -/
def isAlive (worker : Worker α) : Bool :=
  match worker.job with
  | .untilStopped _ => !worker.isJoined && !worker.isStopRaised
  | .returns _ | .panics => false

/-- Raises the flag, waits for the job and takes its result. The result can be taken once. -/
def stop (worker : Worker α) : Worker α × Option α :=
  ({ worker with isJoined := true, isStopRaised := true },
    if worker.isJoined then none
    else
      match worker.job with
      | .returns value | .untilStopped value => some value
      | .panics => none)

/-- What a stop reports: a job that broke down, at the first stop. -/
def stopNotices (worker : Worker α) : List Notice :=
  match worker.isJoined, worker.job with
  | false, .panics => [.workerPanicked]
  | _, _ => []

/-- A worker that is let go raises the flag and waits, but takes no result. -/
def drop (worker : Worker α) : Worker α :=
  { worker with isJoined := true, isStopRaised := true }

end Worker
end ChipEight
