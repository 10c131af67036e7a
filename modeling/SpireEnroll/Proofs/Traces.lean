import SpireEnroll.Reconciler.Trace

/-!
# Runs with a log

The rules for reasoning about a computation that runs against traced
collaborators. `Traces m' m P` says that `m'` does what `m` does (the same
outcome and the same world, whatever log it starts from) while adding to the log
entries `L` with `P L r` for its outcome `r`. The rules follow the shape of a
program: `pure` and `throw` add nothing, a bind adds the entries of both parts,
a call to a traced collaborator adds its exchange, and a deadline check adds
nothing and can only fail as a deadline fails.

A reconcile against traced collaborators and the reconcile itself are the same
program, so one proof by these rules shows both that tracing changes nothing
and what the log of every run looks like.
-/

namespace SpireEnroll

/-! ## Running a computation -/

namespace Run

variable {W α β : Type}

@[simp] theorem exec_pure (a : α) (w : W) : (pure a : Run W α).exec w = (.ok a, w) := rfl

@[simp] theorem exec_throw (e : OperatorError) (w : W) :
    (throw e : Run W α).exec w = (.error e, w) := rfl

@[simp] theorem exec_change (f : W → W) (w : W) : (Run.change f).exec w = (.ok (), f w) := rfl

@[simp] theorem exec_read (f : W → α) (w : W) : (Run.read f).exec w = (.ok (f w), w) := rfl

@[simp] theorem exec_call (f : W → W × α) (w : W) : (Run.call f).exec w = (.ok (f w).2, (f w).1) :=
  rfl

@[simp] theorem exec_ofExcept (x : Except OperatorError α) (w : W) :
    (Run.ofExcept x).exec w = (x, w) :=
  rfl

@[simp] theorem exec_attempt (m : Run W α) (w : W) :
    (Run.attempt m).exec w = (.ok (m.exec w).1, (m.exec w).2) :=
  rfl

theorem exec_bind (m : Run W α) (f : α → Run W β) (w : W) :
    (m >>= f).exec w =
      match m.exec w with
      | (.ok a, w') => (f a).exec w'
      | (.error e, w') => (.error e, w') := by
  simp only [exec, bind, ExceptT.bind, ExceptT.mk, ExceptT.bindCont, ExceptT.run, StateT.run,
    StateT.bind]
  rcases m w with ⟨_ | a, w'⟩ <;> rfl

theorem exec_tryCatch (m : Run W α) (k : OperatorError → Run W α) (w : W) :
    (tryCatch m k).exec w =
      match m.exec w with
      | (.ok a, w') => (.ok a, w')
      | (.error e, w') => (k e).exec w' := by
  simp only [exec, tryCatch, tryCatchThe, MonadExceptOf.tryCatch, ExceptT.tryCatch, ExceptT.mk,
    ExceptT.run, StateT.run, StateT.bind, bind]
  rcases m w with ⟨_ | a, w'⟩ <;> rfl

@[simp] theorem exec_logging (m : Run W α) (entry : Except OperatorError α → Exchange) (w : W)
    (l : List Exchange) :
    (m.logging entry).exec (w, l) = ((m.exec w).1, ((m.exec w).2, l ++ [entry (m.exec w).1])) :=
  rfl

end Run

/-! ## Deadline checks -/

def OperatorError.IsDeadline (e : OperatorError) : Prop :=
  e = .cancelled ∨ e = .deadlineExceeded

theorem Deadline.check_error {d : Deadline} {now : Rat} {e : OperatorError}
    (h : d.check now = .error e) : e.IsDeadline := by
  rw [Deadline.check_eq_error h]
  cases d.cancelled
  · exact .inr rfl
  · exact .inl rfl

namespace Collaborators

variable {W : Type} (c : Collaborators W) (s : Settings)

theorem guardedTimeout_exec_error {w : W} {e : OperatorError}
    (h : (c.deadline w).check (c.clock (c.elapse w)) = .error e) :
    (c.guardedTimeout s).exec w = (.error e, c.elapse w) := by
  simp only [guardedTimeout, reading, Run.exec_bind, Run.exec_read, Run.exec_change,
    Run.exec_ofExcept, h]

theorem guardedTimeout_exec_ok {w : W} (h : (c.deadline w).check (c.clock (c.elapse w)) = .ok ()) :
    (c.guardedTimeout s).exec w =
      (.ok ((c.deadline w).grant (c.clock (c.elapse (c.elapse w))) (some s.requestTimeout.seconds)),
        c.elapse (c.elapse w)) := by
  simp only [guardedTimeout, reading, Run.exec_bind, Run.exec_read, Run.exec_change,
    Run.exec_ofExcept, Run.exec_pure, h]

theorem guardedTimeout_exec_of_error {w : W} {e : OperatorError}
    (h : ((c.guardedTimeout s).exec w).1 = .error e) :
    (c.deadline w).check (c.clock (c.elapse w)) = .error e ∧
      ((c.guardedTimeout s).exec w).2 = c.elapse w := by
  cases hcheck : (c.deadline w).check (c.clock (c.elapse w)) with
  | error e' =>
      rw [c.guardedTimeout_exec_error s hcheck] at h ⊢
      cases h
      exact ⟨rfl, rfl⟩
  | ok u =>
      rw [c.guardedTimeout_exec_ok s hcheck] at h
      cases h

theorem guardedTimeout_exec_lift {L : Type} (c' : Collaborators (W × L))
    (hd : ∀ p, c'.deadline p = c.deadline p.1) (hc : ∀ p, c'.clock p = c.clock p.1)
    (he : ∀ p, c'.elapse p = (c.elapse p.1, p.2)) (w : W) (l : L) :
    (c'.guardedTimeout s).exec (w, l) =
      (((c.guardedTimeout s).exec w).1, ((c.guardedTimeout s).exec w).2, l) := by
  have hcheck : (c'.deadline (w, l)).check (c'.clock (c'.elapse (w, l))) =
      (c.deadline w).check (c.clock (c.elapse w)) := by
    rw [hd, he, hc]
  cases h : (c.deadline w).check (c.clock (c.elapse w)) with
  | error e =>
      rw [c'.guardedTimeout_exec_error s (hcheck.trans h), c.guardedTimeout_exec_error s h, he]
  | ok u =>
      rw [c'.guardedTimeout_exec_ok s (hcheck.trans h), c.guardedTimeout_exec_ok s h, hd, he, he,
        hc]

theorem traced_guardedTimeout_exec (w : W) (l : List Exchange) :
    (c.traced.guardedTimeout s).exec (w, l) =
      (((c.guardedTimeout s).exec w).1, ((c.guardedTimeout s).exec w).2, l) :=
  c.guardedTimeout_exec_lift s c.traced (fun _ => rfl) (fun _ => rfl) (fun _ => rfl) w l

end Collaborators

/-! ## Traced runs -/

def Traces {W α : Type} (m' : Run (W × List Exchange) α) (m : Run W α)
    (P : List Exchange → Except OperatorError α → Prop) : Prop :=
  ∀ w l, ∃ L, m'.exec (w, l) = ((m.exec w).1, ((m.exec w).2, l ++ L)) ∧ P L (m.exec w).1

namespace Traces

variable {W α β : Type} {P Q : List Exchange → Except OperatorError α → Prop}

theorem mono {m' : Run (W × List Exchange) α} {m : Run W α} (h : Traces m' m P)
    (hPQ : ∀ L r, P L r → Q L r) : Traces m' m Q := by
  intro w l
  obtain ⟨L, hexec, hP⟩ := h w l
  exact ⟨L, hexec, hPQ L _ hP⟩

theorem pure {a : α} (h : P [] (.ok a)) :
    Traces (W := W) (Pure.pure a) (Pure.pure a) P := by
  intro w l
  exact ⟨[], by simp, h⟩

theorem throw {e : OperatorError} (h : P [] (.error e)) :
    Traces (W := W) (MonadExcept.throw e) (MonadExcept.throw e) P := by
  intro w l
  exact ⟨[], by simp, h⟩

theorem bind {m' : Run (W × List Exchange) α} {m : Run W α}
    {f' : α → Run (W × List Exchange) β} {f : α → Run W β}
    {Q : List Exchange → Except OperatorError α → Prop}
    {P : List Exchange → Except OperatorError β → Prop}
    (hm : Traces m' m Q)
    (hok : ∀ a L, Q L (.ok a) → Traces (f' a) (f a) fun L' r => P (L ++ L') r)
    (herr : ∀ e L, Q L (.error e) → P L (.error e)) :
    Traces (m' >>= f') (m >>= f) P := by
  intro w l
  obtain ⟨L, hexec, hQ⟩ := hm w l
  rcases hrun : m.exec w with ⟨e | a, w'⟩
  · rw [hrun] at hQ hexec
    have h : (m >>= f).exec w = (.error e, w') := by simp only [Run.exec_bind, hrun]
    have h' : (m' >>= f').exec (w, l) = (.error e, (w', l ++ L)) := by
      simp only [Run.exec_bind, hexec]
    rw [h, h']
    exact ⟨L, rfl, herr e L hQ⟩
  · rw [hrun] at hQ hexec
    obtain ⟨L', hexec', hP⟩ := hok a L hQ w' (l ++ L)
    have h : (m >>= f).exec w = (f a).exec w' := by simp only [Run.exec_bind, hrun]
    have h' : (m' >>= f').exec (w, l) = (f' a).exec (w', l ++ L) := by
      simp only [Run.exec_bind, hexec]
    rw [h, h', hexec']
    exact ⟨L ++ L', by rw [List.append_assoc], hP⟩

theorem tryCatch {m' : Run (W × List Exchange) α} {m : Run W α}
    {k' : OperatorError → Run (W × List Exchange) α} {k : OperatorError → Run W α}
    {Q : List Exchange → Except OperatorError α → Prop}
    (hm : Traces m' m Q)
    (hok : ∀ a L, Q L (.ok a) → P L (.ok a))
    (herr : ∀ e L, Q L (.error e) → Traces (k' e) (k e) fun L' r => P (L ++ L') r) :
    Traces (MonadExcept.tryCatch m' k') (MonadExcept.tryCatch m k) P := by
  intro w l
  obtain ⟨L, hexec, hQ⟩ := hm w l
  rcases hrun : m.exec w with ⟨e | a, w'⟩
  · rw [hrun] at hQ hexec
    obtain ⟨L', hexec', hP⟩ := herr e L hQ w' (l ++ L)
    have h : (MonadExcept.tryCatch m k).exec w = (k e).exec w' := by
      simp only [Run.exec_tryCatch, hrun]
    have h' : (MonadExcept.tryCatch m' k').exec (w, l) = (k' e).exec (w', l ++ L) := by
      simp only [Run.exec_tryCatch, hexec]
    rw [h, h', hexec']
    exact ⟨L ++ L', by rw [List.append_assoc], hP⟩
  · rw [hrun] at hQ hexec
    have h : (MonadExcept.tryCatch m k).exec w = (.ok a, w') := by
      simp only [Run.exec_tryCatch, hrun]
    have h' : (MonadExcept.tryCatch m' k').exec (w, l) = (.ok a, (w', l ++ L)) := by
      simp only [Run.exec_tryCatch, hexec]
    rw [h, h']
    exact ⟨L, rfl, hok a L hQ⟩

theorem logging_bind {m : Run W α} {entry : Except OperatorError α → Exchange}
    {f' : α → Run (W × List Exchange) β} {f : α → Run W β}
    {P : List Exchange → Except OperatorError β → Prop}
    (hok : ∀ a, Traces (f' a) (f a) fun L r => P (entry (.ok a) :: L) r)
    (herr : ∀ e, P [entry (.error e)] (.error e)) :
    Traces (m.logging entry >>= f') (m >>= f) P := by
  have hm : Traces (m.logging entry) m fun L r => L = [entry r] := by
    intro w l
    exact ⟨[entry (m.exec w).1], rfl, rfl⟩
  refine bind hm ?_ ?_
  · intro a L hL
    subst hL
    exact hok a
  · intro e L hL
    subst hL
    exact herr e

theorem guardedTimeout_bind (c : Collaborators W) (s : Settings)
    {f' : Option Rat → Run (W × List Exchange) β} {f : Option Rat → Run W β}
    {P : List Exchange → Except OperatorError β → Prop}
    (hok : ∀ t, Traces (f' t) (f t) P)
    (herr : ∀ e, e.IsDeadline → P [] (.error e)) :
    Traces (c.traced.guardedTimeout s >>= f') (c.guardedTimeout s >>= f) P := by
  have hm : Traces (c.traced.guardedTimeout s) (c.guardedTimeout s)
      fun L r => L = [] ∧ ∀ e, r = .error e → e.IsDeadline := by
    intro w l
    refine ⟨[], ?_, rfl, fun e he => ?_⟩
    · rw [c.traced_guardedTimeout_exec, List.append_nil]
    · exact Deadline.check_error (c.guardedTimeout_exec_of_error s he).1
  refine bind hm ?_ ?_
  · intro t L hL
    rw [hL.1]
    exact hok t
  · intro e L hL
    rw [hL.1]
    exact herr e (hL.2 e rfl)

theorem countFallback_bind (c : Collaborators W)
    {f' : Unit → Run (W × List Exchange) β} {f : Unit → Run W β}
    {P : List Exchange → Except OperatorError β → Prop}
    (hok : Traces (f' ()) (f ()) fun L r => P (.countFallback :: L) r) :
    Traces (Run.change c.traced.countFallback >>= f') (Run.change c.countFallback >>= f) P := by
  have hm : Traces (Run.change c.traced.countFallback) (Run.change c.countFallback)
      fun L r => L = [.countFallback] ∧ r = .ok () := by
    intro w l
    exact ⟨[.countFallback], rfl, rfl, rfl⟩
  refine bind hm ?_ ?_
  · intro u L hL
    rw [hL.1]
    exact hok
  · intro e L hL
    cases hL.2

end Traces
end SpireEnroll
