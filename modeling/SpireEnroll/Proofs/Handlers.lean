import SpireEnroll.Handler

/-!
# What a handler records

Each handler runs one reconcile, under a fresh deadline of the reconcile timeout,
and records it: the world afterwards is the one that reconcile left, the gauge of
reconciles in progress is back where it was, and exactly one count is made under
the handler's operation, `success` or `error`. A success also records the
reconcile's duration and posts nothing; a failure posts one warning with the
failure's summary and asks to be retried after the configured delay
(`Trigger.handle_eq`).

The five handlers count under five different names, so over any run of the
operator's handlers, with the world changed from outside between them, the
reconciles counted under a handler's operation are the calls of that handler
(`reconciles_runHandlers`).
-/

namespace SpireEnroll

namespace Trigger

theorem operation_injective : Function.Injective operation := by
  intro t t' h
  cases t <;> cases t' <;> simp_all [operation]

end Trigger

namespace Telemetry

def reconciles (m : Telemetry) (op : String) : Nat :=
  m.total op "success" + m.total op "error"

theorem reconciles_count (m : Telemetry) (op op' outcome : String)
    (houtcome : outcome = "success" ∨ outcome = "error") :
    (m.count op' outcome).reconciles op = m.reconciles op + if op' = op then 1 else 0 := by
  unfold reconciles total count
  simp only [List.count_append, List.count_singleton, beq_iff_eq, Prod.mk.injEq]
  rcases houtcome with rfl | rfl
  · by_cases h : op' = op <;> simp [h]
    omega
  · by_cases h : op' = op <;> simp [h]
    omega

end Telemetry

section

variable {W α : Type} (s : Settings) (clock : W → Rat)
  (reconcile : String → String → Deadline → W → Except OperatorError α × W)

/-- A handler is one reconcile under a fresh deadline of the reconcile timeout,
recorded under the handler's operation. A success is counted and timed, and
posts nothing; a failure is counted as an error, posts one warning with the
failure's summary, and asks to be retried after the configured delay. The gauge
ends where it began. -/
theorem Trigger.handle_eq (t : Trigger) (ns name : String) (w : W) (m : Telemetry) :
    t.handle s clock reconcile ns name w m =
      match reconcile ns name (Deadline.start (some s.reconcileTimeout.seconds) (clock w)) w with
      | (.ok _, w') =>
        (.ok (), w', { m with
          totals := m.totals ++ [(t.operation, "success")]
          durations := m.durations ++ [(t.operation, clock w' - clock w)] })
      | (.error e, w') =>
        (.error ⟨"Reconcile failed: " ++ e.short eventLimit, s.retryDelay.totalSeconds⟩, w',
          { m with
            totals := m.totals ++ [(t.operation, "error")]
            warnings := m.warnings ++ [⟨"SpireReconcileFailed", e.short eventLimit⟩] }) := by
  unfold Trigger.handle reconcileAccount
  dsimp only
  -- the gauge is raised before the reconcile and lowered after it, whatever it did
  have hgauge : m.inProgress + 1 - 1 = m.inProgress := by omega
  generalize reconcile ns name (Deadline.start (some s.reconcileTimeout.seconds) (clock w)) w = r
  rcases r with ⟨_ | _, w'⟩
  · simp only [Telemetry.enter, Telemetry.leave, Telemetry.count, Telemetry.warn, hgauge]
    rfl
  · simp only [Telemetry.enter, Telemetry.leave, Telemetry.count, Telemetry.observe, hgauge]

theorem Trigger.handle_inProgress (t : Trigger) (ns name : String) (w : W) (m : Telemetry) :
    (t.handle s clock reconcile ns name w m).2.2.inProgress = m.inProgress := by
  rw [Trigger.handle_eq]
  split <;> rfl

theorem Trigger.reconciles_handle (t : Trigger) (ns name : String) (w : W) (m : Telemetry)
    (op : String) :
    (t.handle s clock reconcile ns name w m).2.2.reconciles op =
      m.reconciles op + if t.operation = op then 1 else 0 := by
  rw [Trigger.handle_eq]
  split
  · exact m.reconciles_count op t.operation "success" (.inl rfl)
  · exact m.reconciles_count op t.operation "error" (.inr rfl)

/-- What happens next in a run of the operator's handlers: a handler runs for the
account at `ns/name`, or the world is changed from outside. -/
inductive Dispatch (W : Type) where
  | handle (t : Trigger) (ns name : String)
  | change (f : W → W)

/-- Whether the next thing is a run of the handler of `t`. -/
def Dispatch.isCallOf (t : Trigger) : Dispatch W → Bool
  | .handle t' _ _ => t' == t
  | .change _ => false

/-- A run of the operator's handlers: the world and the meters after it. -/
def runHandlers : List (Dispatch W) → W → Telemetry → W × Telemetry
  | [], w, m => (w, m)
  | .handle t ns name :: ds, w, m =>
    let r := t.handle s clock reconcile ns name w m
    runHandlers ds r.2.1 r.2.2
  | .change f :: ds, w, m => runHandlers ds (f w) m

/-- The run lemma: over any run of handlers, the reconciles counted under a
handler's operation are the calls of that handler, and the gauge ends where it
began. -/
theorem reconciles_runHandlers (ds : List (Dispatch W)) (w : W) (m : Telemetry) (t : Trigger) :
    (runHandlers s clock reconcile ds w m).2.reconciles t.operation =
        m.reconciles t.operation + ds.countP (·.isCallOf t) ∧
      (runHandlers s clock reconcile ds w m).2.inProgress = m.inProgress := by
  induction ds generalizing w m with
  | nil => exact ⟨rfl, rfl⟩
  | cons d ds ih =>
      cases d with
      | handle t' ns name =>
          obtain ⟨hcount, hgauge⟩ := ih (t'.handle s clock reconcile ns name w m).2.1
            (t'.handle s clock reconcile ns name w m).2.2
          refine ⟨?_, ?_⟩
          · rw [runHandlers, hcount, Trigger.reconciles_handle, List.countP_cons]
            -- the handler of `t'` counts under the operation of `t` exactly when it is `t`
            by_cases h : t' = t
            · subst h
              simp [Dispatch.isCallOf]
              omega
            · have hop : t'.operation ≠ t.operation := fun hop => h (Trigger.operation_injective hop)
              simp [Dispatch.isCallOf, h, hop]
          · rw [runHandlers, hgauge, Trigger.handle_inProgress]
      | change f =>
          obtain ⟨hcount, hgauge⟩ := ih (f w) m
          exact ⟨by simpa [runHandlers, Dispatch.isCallOf] using hcount, hgauge⟩

/-- Every handler runs one reconcile under a fresh deadline of the reconcile
timeout and records it under its own operation: the world is the one the
reconcile left, the gauge ends where it began, a success is counted and timed
and posts nothing, and a failure is counted as an error, posts one warning with
its summary and asks to be retried after the configured delay. Over any run of
handlers, the reconciles counted under each handler's operation are that
handler's calls. -/
theorem handlers_record_each_reconcile :
    Function.Injective Trigger.operation ∧
    (∀ (t : Trigger) (ns name : String) (w : W) (m : Telemetry),
      t.handle s clock reconcile ns name w m =
        match reconcile ns name (Deadline.start (some s.reconcileTimeout.seconds) (clock w)) w with
        | (.ok _, w') =>
          (.ok (), w', { m with
            totals := m.totals ++ [(t.operation, "success")]
            durations := m.durations ++ [(t.operation, clock w' - clock w)] })
        | (.error e, w') =>
          (.error ⟨"Reconcile failed: " ++ e.short eventLimit, s.retryDelay.totalSeconds⟩, w',
            { m with
              totals := m.totals ++ [(t.operation, "error")]
              warnings := m.warnings ++ [⟨"SpireReconcileFailed", e.short eventLimit⟩] })) ∧
    (∀ (ds : List (Dispatch W)) (w : W) (m : Telemetry) (t : Trigger),
      (runHandlers s clock reconcile ds w m).2.total t.operation "success" +
          (runHandlers s clock reconcile ds w m).2.total t.operation "error" =
        m.total t.operation "success" + m.total t.operation "error" +
          ds.countP (·.isCallOf t) ∧
      (runHandlers s clock reconcile ds w m).2.inProgress = m.inProgress) :=
  ⟨Trigger.operation_injective, Trigger.handle_eq s clock reconcile,
    reconciles_runHandlers s clock reconcile⟩

end

end SpireEnroll
