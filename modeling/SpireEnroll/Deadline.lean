import SpireEnroll.Error
import SpireEnroll.Value.Basic

/-!
# Deadlines

A reconcile runs against a deadline: an optional time budget, fixed as an expiry
instant when the deadline starts, and a cancellation flag that, once raised,
stays raised. Times are exact seconds on a monotonic clock; every operation takes
the clock's current reading.

Before each external call the deadline is *checked*: a cancelled deadline fails
with `cancelled`, checked first, and a spent budget with `deadlineExceeded`. The
timeout a call receives is its own per-call timeout, cut down to what is left of
the budget; what is left is read from the clock anew after the check.
-/

namespace SpireEnroll

/-- A time budget and a cancellation flag. -/
structure Deadline where
  /-- The instant the budget runs out; none for no budget. -/
  expiresAt : Option Rat
  cancelled : Bool
deriving DecidableEq, Repr, Inhabited

namespace Deadline

/-- A deadline whose budget (in seconds, if any) starts at `now`. -/
def start (budget : Option Rat) (now : Rat) : Deadline :=
  ⟨budget.map (now + ·), false⟩

def unlimited : Deadline :=
  ⟨none, false⟩

/-- Seconds left at `now`, never below zero; none without a budget. -/
def remaining (d : Deadline) (now : Rat) : Option Rat :=
  d.expiresAt.map fun t => if t - now ≤ 0 then 0 else t - now

/-- Fail if the reconcile must stop at `now`: cancellation first, then a spent budget. -/
def check (d : Deadline) (now : Rat) : Except OperatorError Unit :=
  if d.cancelled then .error .cancelled
  else match d.remaining now with
    | some r => if r ≤ 0 then .error .deadlineExceeded else .ok ()
    | none => .ok ()

/-- What the next call is given once the check has passed, what is left of the
budget being read at `now`: the per-call timeout without a budget, what is left
without a per-call timeout, and otherwise the smaller of the two (the per-call
timeout when they are equal). -/
def grant (d : Deadline) (now : Rat) (perCall : Option Rat) : Option Rat :=
  match d.remaining now, perCall with
  | none, p => p
  | some r, none => some r
  | some r, some p => some (if r < p then r else p)

/-- The timeout for the next call: the check, with the clock read at `checkedAt`,
then the grant, with what is left read again at `now`, which may be later. -/
def timeout (d : Deadline) (checkedAt now : Rat) (perCall : Option Rat) :
    Except OperatorError (Option Rat) := do
  d.check checkedAt
  pure (d.grant now perCall)

theorem check_eq_error {d : Deadline} {now : Rat} {e : OperatorError}
    (h : d.check now = .error e) : e = if d.cancelled then .cancelled else .deadlineExceeded := by
  unfold check at h
  cases hc : d.cancelled with
  | true =>
      simp only [hc, if_true] at h
      cases h
      rfl
  | false =>
      simp only [hc, Bool.false_eq_true, if_false] at h ⊢
      cases hr : d.remaining now with
      | none =>
          rw [hr] at h
          cases h
      | some r =>
          rw [hr] at h
          by_cases hle : r ≤ 0
          · simp only [hle, if_true] at h
            cases h
            rfl
          · simp only [hle, if_false] at h
            cases h

theorem check_of_timeout_error {d : Deadline} {checkedAt now : Rat} {perCall : Option Rat}
    {e : OperatorError} (h : d.timeout checkedAt now perCall = .error e) :
    d.check checkedAt = .error e := by
  unfold timeout at h
  cases hc : d.check checkedAt with
  | error e' =>
      rw [hc] at h
      rw [Except.error.inj h]
  | ok u =>
      rw [hc] at h
      cases h

/-- How a deadline shows itself at `now`: what is left of its budget, as a float,
or `None` without one, and whether it is cancelled. -/
def describe (d : Deadline) (now : Rat) : String :=
  let left := match d.remaining now with
    | none => "None"
    | some r => Value.floatText (Float.ofInt r.num / Float.ofNat r.den)
  "Deadline(remaining=" ++ left ++ ", cancelled=" ++ (if d.cancelled then "True" else "False") ++ ")"

/-- Raise the cancellation flag. -/
def cancel (d : Deadline) : Deadline :=
  { d with cancelled := true }

/-- A call on a deadline, with the clock readings it takes: a check reads the
clock once, a request for a timeout twice (for its check, then for what is left),
reading what is left once, and a cancellation not at all. -/
inductive Request where
  | check (now : Rat)
  | timeout (checkedAt now : Rat) (perCall : Option Rat)
  | remaining (now : Rat)
  | cancel
deriving Repr

def Request.readings : Request → List Rat
  | .check now => [now]
  | .timeout checkedAt now _ => [checkedAt, now]
  | .remaining now => [now]
  | .cancel => []

def Request.checks : Request → Bool
  | .check _ | .timeout .. => true
  | .remaining _ | .cancel => false

def serve (d : Deadline) : Request → Deadline × Except OperatorError (Option Rat)
  | .check now => (d, (d.check now).map fun _ => none)
  | .timeout checkedAt now perCall => (d, d.timeout checkedAt now perCall)
  | .remaining now => (d, .ok (d.remaining now))
  | .cancel => (d.cancel, .ok none)

def serveAll (d : Deadline) : List Request → List (Request × Except OperatorError (Option Rat))
  | [] => []
  | q :: qs => (q, (d.serve q).2) :: serveAll (d.serve q).1 qs

end Deadline
end SpireEnroll
