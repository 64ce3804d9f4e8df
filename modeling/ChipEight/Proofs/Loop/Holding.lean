import ChipEight.Proofs.Loop.Keys
import Mathlib.Data.List.FinRange
import Mathlib.Data.List.Induction

/-!
# What a latch remembers

A latch holds one time for each key. It is asked in any order, with times that may run backwards
and with numbers that need not be keys; a number stands for the key of its lowest digit. This module
compares the latch with the mere record of what it was asked and what it answered.

A key is held iff the record has a press of it that was taken as new, and no later release lists the
key; its time is the time of this press. Whatever a latch answers is so settled by its earlier
answers: a press is new iff its key is not held, and a release lists the keys that have been held for
long enough, counting time that runs backwards as no time.
-/

namespace ChipEight
namespace KeyLatch

/-- What a latch is asked for: to press the key of a number, or to release the expired keys. -/
inductive Request
  | press (number : Nat) (now : Instant)
  | release (now : Instant)
  deriving DecidableEq, Repr

/-- A request with the answer it got. -/
inductive Exchange
  | pressed (number : Nat) (now : Instant) (isNew : Bool)
  | released (now : Instant) (keys : List Key)
  deriving DecidableEq, Repr

/-- The latch a request leaves, and the answer. -/
def serve (latch : KeyLatch) : Request → KeyLatch × Exchange
  | .press number now =>
    let (latch, isNew) := latch.press number now
    (latch, .pressed number now isNew)
  | .release now =>
    let (latch, keys) := latch.releaseExpired now
    (latch, .released now keys)

/-- The latch after several requests. -/
def after (latch : KeyLatch) (requests : List Request) : KeyLatch :=
  requests.foldl (fun latch request => (latch.serve request).1) latch

/-- The record of several requests, the first one first. -/
def record (latch : KeyLatch) : List Request → List Exchange
  | [] => []
  | request :: later => (latch.serve request).2 :: (latch.serve request).1.record later

/-- A record has a press of a key at a time that was taken as new, and no release behind it lists the
key. -/
def HeldSince (exchanges : List Exchange) (key : Key) (time : Instant) : Prop :=
  ∃ earlier later number, exchanges = earlier ++ .pressed number time true :: later ∧
    Fin.ofNat 16 number = key ∧ ∀ now keys, .released now keys ∈ later → key ∉ keys

/-- One more exchange either is the press that counts, or leaves the one that counted if it does not
list the key. -/
theorem heldSince_concat {exchanges : List Exchange} {exchange : Exchange} {key : Key}
    {time : Instant} :
    HeldSince (exchanges ++ [exchange]) key time ↔
      (∃ number, exchange = .pressed number time true ∧ Fin.ofNat 16 number = key) ∨
      HeldSince exchanges key time ∧ ∀ now keys, exchange = .released now keys → key ∉ keys := by
  constructor
  · rintro ⟨earlier, later, number, same, named, unreleased⟩
    -- Either nothing is behind the press that counts, or the last exchange is.
    rcases List.eq_nil_or_concat' later with rfl | ⟨before, last, rfl⟩
    · obtain ⟨rfl, rfl⟩ := List.append_singleton_inj.mp same
      exact .inl ⟨number, rfl, named⟩
    · rw [← List.cons_append, ← List.append_assoc] at same
      obtain ⟨rfl, rfl⟩ := List.append_singleton_inj.mp same
      refine .inr ⟨⟨earlier, before, number, rfl, named, ?_⟩, ?_⟩
      · exact fun now keys member => unreleased now keys (List.mem_append_left _ member)
      · rintro now keys rfl
        exact unreleased now keys (List.mem_append_right _ (List.mem_singleton_self _))
  · rintro (⟨number, rfl, named⟩ | ⟨⟨earlier, later, number, rfl, named, unreleased⟩, unlisted⟩)
    · exact ⟨exchanges, [], number, rfl, named, by simp⟩
    · refine ⟨earlier, later ++ [exchange], number, by simp, named, ?_⟩
      intro now keys member
      rcases List.mem_append.mp member with member | member
      · exact unreleased now keys member
      · exact unlisted now keys (List.mem_singleton.mp member).symm

/-- The time between two readings is zero where the clock ran backwards. -/
theorem le_elapsed (hold now time : Nat) :
    hold ≤ now - time ↔ (hold : Int) ≤ max ((now : Int) - time) 0 := by
  omega

variable (latch : KeyLatch)

/-- The last of several requests is served by the latch the others left. -/
theorem after_concat (requests : List Request) (request : Request) :
    latch.after (requests ++ [request]) = ((latch.after requests).serve request).1 := by
  simp [after]

/-- The last exchange of a record is that of the last request. -/
theorem record_concat (requests : List Request) (request : Request) :
    latch.record (requests ++ [request]) =
      latch.record requests ++ [((latch.after requests).serve request).2] := by
  induction requests generalizing latch with
  | nil => rfl
  | cons first later inductionHypothesis =>
    simp only [List.cons_append, record]
    rw [inductionHypothesis]
    rfl

/-! ## Single requests -/

/-- A press is new iff its key is not held. -/
theorem press_isNew (number : Nat) (now : Instant) :
    (latch.press number now).2 = true ↔ latch.isHeld number = false := by
  cases held : latch.isHeld number <;> simp [press, held]

/-- A press gives the present time to its key, unless that is held, and to no other key. -/
theorem since_press (number : Nat) (other : Key) (now : Instant) :
    (latch.press number now).1.since.get other =
      if other = Fin.ofNat 16 number ∧ latch.isHeld number = false then some now
      else latch.since.get other := by
  cases held : latch.isHeld number with
  | true => simp [latch.press_of_isHeld now held]
  | false => simp [(latch.press_of_not_isHeld now held).2.2 other]

/-- A key has a time after a press iff the press was new and is of this key and time, or the key had
the time before. A key without a time is the only one a press can be new for. -/
theorem since_press_eq_some {number : Nat} {other : Key} {now time : Instant} :
    (latch.press number now).1.since.get other = some time ↔
      (latch.press number now).2 = true ∧ other = Fin.ofNat 16 number ∧ now = time ∨
        latch.since.get other = some time := by
  rw [since_press, press_isNew]
  by_cases taken : other = Fin.ofNat 16 number ∧ latch.isHeld number = false
  · obtain ⟨named, free⟩ := taken
    have vacant : latch.since.get other = none := by
      rw [named]
      exact Option.not_isSome_iff_eq_none.mp (Bool.eq_false_iff.mp free)
    rw [if_pos ⟨named, free⟩, vacant]
    simp [named, free]
  · rw [if_neg taken, or_iff_right]
    rintro ⟨free, rfl, _⟩
    exact taken ⟨rfl, free⟩

/-- No request changes the hold time. -/
theorem serve_hold (request : Request) : (latch.serve request).1.hold = latch.hold := by
  cases request with
  | release now => rfl
  | press number now =>
    simp only [serve]
    cases held : latch.isHeld number <;> simp [press, held]

/-- A release lists each expired key once, in ascending order. -/
theorem releaseExpired_ascending (now : Instant) :
    (latch.releaseExpired now).2.Pairwise (· < ·) :=
  (List.pairwise_lt_finRange 16).filter _

/-- A request gives a key a time if it is a press taken as new, and takes it if it is a release that
lists the key. -/
theorem since_serve (request : Request) (key : Key) (time : Instant) :
    (latch.serve request).1.since.get key = some time ↔
      (∃ number, (latch.serve request).2 = .pressed number time true ∧ Fin.ofNat 16 number = key) ∨
      latch.since.get key = some time ∧
        ∀ now keys, (latch.serve request).2 = .released now keys → key ∉ keys := by
  cases request with
  | press number now =>
    simp only [serve, since_press_eq_some, Exchange.pressed.injEq, reduceCtorEq, false_imp_iff,
      implies_true, and_true]
    refine or_congr_left ⟨?_, ?_⟩
    · rintro ⟨isNew, rfl, rfl⟩
      exact ⟨number, ⟨rfl, rfl, isNew⟩, rfl⟩
    · rintro ⟨_, ⟨rfl, rfl, isNew⟩, rfl⟩
      exact ⟨isNew, rfl, rfl⟩
  | release now =>
    have listed : key ∈ (latch.releaseExpired now).2 ↔ latch.isExpired now key = true :=
      latch.mem_releaseExpired now
    simp only [serve, since_releaseExpired, reduceCtorEq, false_and, exists_false, false_or,
      Exchange.released.injEq, and_imp]
    cases expired : latch.isExpired now key <;> simp [listed, expired]

/-! ## Runs -/

/-- The hold time is never changed. -/
theorem after_hold (requests : List Request) : (latch.after requests).hold = latch.hold := by
  induction requests using List.reverseRecOn with
  | nil => rfl
  | append_singleton requests request inductionHypothesis =>
    rw [after_concat, serve_hold, inductionHypothesis]

/-- The time of a key is that of the press that counts. -/
theorem since_after (hold : Duration) (requests : List Request) (key : Key) (time : Instant) :
    ((idle hold).after requests).since.get key = some time ↔
      HeldSince ((idle hold).record requests) key time := by
  induction requests using List.reverseRecOn with
  | nil =>
    have nothing : ((idle hold).after []).since.get key = none := since_idle hold key
    simp [nothing, record, HeldSince]
  | append_singleton requests request inductionHypothesis =>
    rw [after_concat, record_concat, since_serve, heldSince_concat, inductionHypothesis]

/-- A latch against the record of its answers.

After any requests to a new latch, at any times, the time of a key is the time of its latest press that
was taken as new, if no release since has listed the key; and the key is held iff there is such a
press. A further press is new iff its key is not held, and then gives the present time to this key
only; otherwise all times stay. A further release lists, in ascending order and each once, the
keys that have been held for at least the hold time; it frees these and leaves the times of all others. -/
theorem latch_follows_record (hold : Duration) (requests : List Request) :
    let latch := (idle hold).after requests
    let exchanges := (idle hold).record requests
    (∀ number time, latch.since.get (Fin.ofNat 16 number) = some time ↔
      HeldSince exchanges (Fin.ofNat 16 number) time) ∧
    (∀ number, latch.isHeld number = true ↔
      ∃ time, HeldSince exchanges (Fin.ofNat 16 number) time) ∧
    (∀ number now,
      ((latch.press number now).2 = true ↔ latch.isHeld number = false) ∧
      ∀ key, (latch.press number now).1.since.get key =
        if key = Fin.ofNat 16 number ∧ latch.isHeld number = false then some now
        else latch.since.get key) ∧
    (∀ now,
      (latch.releaseExpired now).2.Pairwise (· < ·) ∧ (latch.releaseExpired now).2.Nodup ∧
      (∀ key, key ∈ (latch.releaseExpired now).2 ↔
        ∃ time, HeldSince exchanges key time ∧ (hold : Int) ≤ max ((now : Int) - time) 0) ∧
      ∀ key, (latch.releaseExpired now).1.since.get key =
        if key ∈ (latch.releaseExpired now).2 then none else latch.since.get key) := by
  intro latch exchanges
  have times (key : Key) (time : Instant) :
      latch.since.get key = some time ↔ HeldSince exchanges key time :=
    since_after hold requests key time
  refine ⟨fun number => times _, fun number => ?_, fun number now => ?_, fun now => ?_⟩
  · simp only [isHeld_iff, times]
  · exact ⟨latch.press_isNew number now, fun key => latch.since_press number key now⟩
  · have ascending := latch.releaseExpired_ascending now
    refine ⟨ascending, ascending.imp Fin.ne_of_lt, fun key => ?_, fun key => ?_⟩
    · have sameHold : latch.hold = hold := after_hold (idle hold) requests
      simp only [mem_releaseExpired, isExpired_iff, times, sameHold, le_elapsed]
    · simp only [since_releaseExpired, mem_releaseExpired]

-- The number 21 stands for key 5, and the clock runs backwards twice.
example :
    (idle 100).record [.press 5 50, .press 21 60, .release 20, .release 150, .press 5 10] =
      [.pressed 5 50 true, .pressed 21 60 false, .released 20 [], .released 150 [5],
        .pressed 5 10 true] := by
  decide

end KeyLatch
end ChipEight
