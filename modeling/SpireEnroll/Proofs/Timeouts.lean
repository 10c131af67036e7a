import Mathlib.Algebra.Order.Ring.Rat
import Mathlib.Tactic.Linarith
import SpireEnroll.Deadline

/-!
# What a deadline hands out

A deadline stops a reconcile when it is cancelled or its budget is spent
(`Deadline.stops`). A check fails exactly then, with the cancellation first.
Stopping is for good: a cancellation is never undone and what is left of a
budget only shrinks as the clock goes on, so over any run of calls on one
deadline, with a clock that never goes back, every check and every request for
a timeout after one that failed fails too (`Deadline.fails_after_failure`).

A request for a timeout reads the clock twice: once for its check, and once more
for what is left. The timeout it hands out is never above the per-call timeout
nor above what is left at the second reading, and without a budget it is the
per-call timeout itself. It is positive unless the budget runs out between the
two readings: then the request neither fails nor hands out time, but gives a
timeout of zero (`Deadline.timeout_zero_of_spent_between`).
-/

namespace SpireEnroll
namespace Deadline

/-! ## Checks -/

def spent (d : Deadline) (t : Rat) : Bool :=
  d.expiresAt.any (· ≤ t)

/-- The deadline stops a reconcile checked at `t`: it is cancelled, or its budget
is spent. -/
def stops (d : Deadline) (t : Rat) : Bool :=
  d.cancelled || d.spent t

variable {d : Deadline} {t t' : Rat}

theorem remaining_eq {E : Rat} (h : d.expiresAt = some E) (t : Rat) :
    d.remaining t = some (max (E - t) 0) := by
  simp only [remaining, h, Option.map_some, max_def]

theorem remaining_nonneg {r : Rat} (h : d.remaining t = some r) : 0 ≤ r := by
  cases hE : d.expiresAt with
  | none => simp [remaining, hE] at h
  | some E =>
      rw [remaining_eq hE, Option.some.injEq] at h
      rw [← h]
      exact le_max_right _ _

theorem check_eq (d : Deadline) (t : Rat) :
    d.check t =
      if d.cancelled then .error .cancelled
      else if d.spent t then .error .deadlineExceeded else .ok () := by
  unfold check spent
  cases d.cancelled with
  | true => rfl
  | false =>
      cases hE : d.expiresAt with
      | none => simp [remaining, hE]
      | some E =>
          -- what is left is at most zero exactly when the budget's end has come
          have hleft : max (E - t) 0 ≤ 0 ↔ E ≤ t := by
            rw [max_le_iff]
            constructor
            · intro h
              linarith [h.1]
            · intro h
              exact ⟨by linarith, le_refl 0⟩
          simp only [remaining_eq hE, Bool.false_eq_true, if_false, Option.any_some,
            decide_eq_true_eq]
          by_cases hle : E ≤ t
          · rw [if_pos (hleft.2 hle), if_pos hle]
          · rw [if_neg (fun h => hle (hleft.1 h)), if_neg hle]

theorem check_of_stops (h : d.stops t = true) :
    d.check t = .error (if d.cancelled then .cancelled else .deadlineExceeded) := by
  rw [check_eq]
  unfold stops at h
  cases hc : d.cancelled with
  | true => rfl
  | false =>
      rw [hc, Bool.false_or] at h
      rw [if_neg Bool.false_ne_true, if_pos h, if_neg Bool.false_ne_true]

theorem check_eq_ok_iff : d.check t = .ok () ↔ d.stops t = false := by
  rw [check_eq, stops]
  cases d.cancelled <;> cases d.spent t <;> simp

theorem spent_later (h : d.spent t = true) (ht : t ≤ t') : d.spent t' = true := by
  unfold spent at h ⊢
  cases hE : d.expiresAt with
  | none => simp [hE] at h
  | some E =>
      simp only [hE, Option.any_some, decide_eq_true_eq] at h ⊢
      exact le_trans h ht

theorem stops_later (h : d.stops t = true) (ht : t ≤ t') : d.stops t' = true := by
  unfold stops at h ⊢
  cases hc : d.cancelled with
  | true => rfl
  | false =>
      rw [hc, Bool.false_or] at h
      rw [Bool.false_or]
      exact spent_later h ht

theorem stops_cancel (d : Deadline) (t : Rat) : d.cancel.stops t = true := by
  simp [stops, cancel]

/-! ## Timeouts -/

/-- The per-call timeout `p` cut down to what is left of the budget at `now`. -/
def cut (d : Deadline) (now p : Rat) : Rat :=
  match d.remaining now with
  | none => p
  | some r => min r p

theorem grant_some (d : Deadline) (now p : Rat) : d.grant now (some p) = some (d.cut now p) := by
  unfold grant cut
  cases d.remaining now with
  | none => rfl
  | some r =>
      -- the budget is kept only when it is strictly smaller, which is the minimum
      show some (if r < p then r else p) = some (min r p)
      rw [Rat.min_def]
      by_cases hlt : r < p
      · rw [if_pos hlt, if_pos (Rat.le_of_lt hlt)]
      · by_cases hle : r ≤ p
        · rw [if_neg hlt, if_pos hle, Rat.le_antisymm hle (Rat.not_lt.1 hlt)]
        · rw [if_neg hlt, if_neg hle]

theorem timeout_some (d : Deadline) (checkedAt now p : Rat) :
    d.timeout checkedAt now (some p) =
      (d.check checkedAt).map fun _ => some (d.cut now p) := by
  unfold timeout
  rw [grant_some]
  cases d.check checkedAt <;> rfl

theorem timeout_of_stops {checkedAt : Rat} (h : d.stops checkedAt = true) (now : Rat)
    (perCall : Option Rat) :
    d.timeout checkedAt now perCall =
      .error (if d.cancelled then .cancelled else .deadlineExceeded) := by
  unfold timeout
  rw [check_of_stops h]
  rfl

theorem cut_le (d : Deadline) (now p : Rat) : d.cut now p ≤ p := by
  unfold cut
  split
  · exact le_refl p
  · exact min_le_right _ _

theorem cut_le_remaining {r : Rat} (h : d.remaining t = some r) (p : Rat) : d.cut t p ≤ r := by
  unfold cut
  rw [h]
  exact min_le_left _ _

theorem cut_unlimited (h : d.expiresAt = none) (now p : Rat) : d.cut now p = p := by
  simp [cut, remaining, h]

theorem cut_nonneg {p : Rat} (hp : 0 ≤ p) (now : Rat) : 0 ≤ d.cut now p := by
  unfold cut
  split
  · exact hp
  · rename_i r hr
    exact le_min (remaining_nonneg hr) hp

theorem cut_pos_iff {E p : Rat} (hE : d.expiresAt = some E) (hp : 0 < p) (now : Rat) :
    0 < d.cut now p ↔ now < E := by
  rw [cut, remaining_eq hE, lt_min_iff, lt_max_iff]
  constructor
  · rintro ⟨h | h, -⟩
    · linarith
    · exact absurd h (lt_irrefl 0)
  · intro h
    exact ⟨.inl (by linarith), hp⟩

/-- What a request for a positive per-call timeout gives: it fails exactly when
the deadline stops the reconcile at the check, with the cancellation first;
otherwise the timeout is at most the per-call timeout and what is left at the
second reading, is the per-call timeout itself without a budget, and is positive
exactly while the budget's end is ahead of the second reading. -/
theorem timeout_handed_out (d : Deadline) (checkedAt now p : Rat) (hp : 0 < p) :
    (d.stops checkedAt = true → d.timeout checkedAt now (some p) =
      .error (if d.cancelled then .cancelled else .deadlineExceeded)) ∧
    (d.stops checkedAt = false → ∃ t, d.timeout checkedAt now (some p) = .ok (some t) ∧
      0 ≤ t ∧ t ≤ p ∧ (∀ r, d.remaining now = some r → t ≤ r) ∧
      (d.expiresAt = none → t = p) ∧ (∀ E, d.expiresAt = some E → (0 < t ↔ now < E))) := by
  constructor
  · intro h
    exact timeout_of_stops h now (some p)
  · intro h
    refine ⟨d.cut now p, ?_, cut_nonneg (le_of_lt hp) now, cut_le d now p,
      fun r hr => cut_le_remaining hr p, fun hE => cut_unlimited hE now p,
      fun E hE => cut_pos_iff hE hp now⟩
    rw [timeout_some, check_eq_ok_iff.2 h]
    rfl

/-- A budget that runs out between the two readings of the clock gives a timeout
of zero: the check at the first reading passes, and nothing is left at the
second. -/
theorem timeout_zero_of_spent_between {checkedAt now E p : Rat} (hc : d.cancelled = false)
    (hE : d.expiresAt = some E) (hbefore : checkedAt < E) (hafter : E ≤ now) (hp : 0 < p) :
    d.timeout checkedAt now (some p) = .ok (some 0) := by
  have hgo : d.stops checkedAt = false := by
    simp [stops, spent, hc, hE, not_le.2 hbefore]
  have hzero : d.cut now p = 0 := by
    rw [cut, remaining_eq hE, max_eq_right (by linarith)]
    exact min_eq_left (le_of_lt hp)
  rw [timeout_some, check_eq_ok_iff.2 hgo, hzero]
  rfl

theorem timeout_zero_at_budget_end :
    (Deadline.start (some 1) 0).timeout (1 / 2) 1 (some 5) = .ok (some 0) :=
  timeout_zero_of_spent_between (E := 1) rfl (by simp [start]) (by norm_num) (by norm_num)
    (by norm_num)

/-! ## Runs of calls on one deadline -/

def after (d : Deadline) (qs : List Request) : Deadline :=
  qs.foldl (fun d q => (d.serve q).1) d

theorem serve_of_stops {q : Request} (h : d.stops t = true) (hq : ∀ x ∈ q.readings, t ≤ x) :
    (d.serve q).1.stops t = true ∧ (q.checks = true → ∃ e, (d.serve q).2 = .error e) := by
  cases q with
  | check now =>
      have hnow : d.stops now = true := stops_later h (hq now (by simp [Request.readings]))
      refine ⟨h, fun _ => ⟨if d.cancelled then .cancelled else .deadlineExceeded, ?_⟩⟩
      simp only [serve]
      rw [check_of_stops hnow]
      rfl
  | timeout checkedAt now perCall =>
      have hchecked : d.stops checkedAt = true :=
        stops_later h (hq checkedAt (by simp [Request.readings]))
      exact ⟨h, fun _ => ⟨_, timeout_of_stops hchecked now perCall⟩⟩
  | remaining now => exact ⟨h, fun hc => by cases hc⟩
  | cancel => exact ⟨stops_cancel d t, fun hc => by cases hc⟩

theorem serveAll_of_stops {qs : List Request} (h : d.stops t = true)
    (hq : ∀ x ∈ qs.flatMap Request.readings, t ≤ x) :
    ∀ a ∈ d.serveAll qs, a.1.checks = true → ∃ e, a.2 = .error e := by
  induction qs generalizing d with
  | nil => exact fun a ha => absurd ha List.not_mem_nil
  | cons q qs ih =>
      have hhere : ∀ x ∈ q.readings, t ≤ x := fun x hx =>
        hq x (List.mem_flatMap.2 ⟨q, List.mem_cons_self, hx⟩)
      have hlater : ∀ x ∈ qs.flatMap Request.readings, t ≤ x := fun x hx => by
        obtain ⟨q', hq', hx'⟩ := List.mem_flatMap.1 hx
        exact hq x (List.mem_flatMap.2 ⟨q', List.mem_cons_of_mem q hq', hx'⟩)
      obtain ⟨hstill, hfails⟩ := serve_of_stops h hhere
      intro a ha
      rcases List.mem_cons.1 ha with rfl | ha
      · exact hfails
      · exact ih hstill hlater a ha

theorem stops_of_serve_error {q : Request} {e : OperatorError} (h : (d.serve q).2 = .error e) :
    (d.serve q).1 = d ∧ ∃ t ∈ q.readings, d.stops t = true := by
  cases q with
  | check now =>
      refine ⟨rfl, now, by simp [Request.readings], ?_⟩
      cases hs : d.stops now
      · have hok := check_eq_ok_iff.2 hs
        simp only [serve] at h
        rw [hok] at h
        cases h
      · rfl
  | timeout checkedAt now perCall =>
      refine ⟨rfl, checkedAt, by simp [Request.readings], ?_⟩
      cases hs : d.stops checkedAt
      · have hcheck := check_of_timeout_error h
        rw [check_eq_ok_iff.2 hs] at hcheck
        cases hcheck
      · rfl
  | remaining now => cases h
  | cancel => cases h

/-- Once a check or a request for a timeout has failed, every later one on the
same deadline fails too, whatever calls come between, cancellations included, as
long as the clock never goes back. -/
theorem fails_after_failure (d : Deadline) (pre post : List Request) (q : Request)
    (hclock : ((pre ++ q :: post).flatMap Request.readings).Pairwise (· ≤ ·))
    {e : OperatorError} (hfail : ((d.after pre).serve q).2 = .error e) :
    ∀ a ∈ ((d.after pre).serve q).1.serveAll post, a.1.checks = true → ∃ e, a.2 = .error e := by
  obtain ⟨hsame, t, ht, hstop⟩ := stops_of_serve_error hfail
  rw [hsame]
  apply serveAll_of_stops hstop
  -- every later reading comes after the reading at which the call failed
  intro x hx
  rw [List.flatMap_append, List.flatMap_cons] at hclock
  have hrest := (List.pairwise_append.1 hclock).2.1
  exact (List.pairwise_append.1 hrest).2.2 t ht x hx

end Deadline
end SpireEnroll
