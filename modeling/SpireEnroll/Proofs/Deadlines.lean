import SpireEnroll.Proofs.Plan
import SpireEnroll.Proofs.Concurrent
import SpireEnroll.Proofs.Timeouts

/-!
# Calls under the deadline

A reconcile runs against a deadline: a budget that may run out at any instant of
the clock, and a flag that may be raised before the run or during it, by a
collaborator say. Every call but one is guarded. Right before it the clock is
read twice, time passing before each reading: the deadline is checked at the
first, and the call is given the request timeout cut down to what is left of the
budget at the second, the instant the call is made. A budget that runs out
between the two readings passes the check and leaves a timeout of zero. A check
that fails ends the reconcile, with the cancellation when the flag is up and with
the spent budget otherwise, and nothing is called after it. The call left
unguarded is the write that records the id of an entry just created: it always
follows the creation, and is given the request timeout alone.

To see the deadline each call was made under, the collaborators are wrapped so
that each call leaves a stamp (`Stamp`): its exchange, with the deadline and the
clock of the world it was made in. `Stamps P m' m Q` says that `m'` runs as `m`
does from every world that satisfies `P`, adding stamps `L`, and that `Q` holds
of `L`, the outcome and the world it ends in. Its rules follow the program, as
those of `Traces` do.
-/

namespace SpireEnroll

/-! ## Stamps -/

/-- A call as the deadline saw it: its exchange, with the deadline and the clock
of the world the call was made in. -/
structure Stamp where
  exchange : Exchange
  deadline : Deadline
  now : Rat

namespace Exchange

/-- The timeout a call was given; none for a count. -/
def timeout? : Exchange → Option (Option Rat)
  | .get _ _ t _ | .update _ t _ | .clusterContext t _ | .adminCredential t _
  | .createEntry _ t _ | .revokeEntry _ t _ => some t
  | .countFallback => none

theorem created_eq_false_of_fails {u : Exchange} (h : u.fails = true) : u.created = false := by
  cases u with
  | createEntry req t a =>
      cases a with
      | error e => rfl
      | ok id => cases h
  | _ => rfl

end Exchange

namespace Collaborators

variable {W : Type} (c : Collaborators W) (s : Settings)

def Passed (t : Option Rat) (w : W) : Prop :=
  ∃ checkedAt ≤ c.clock w, (c.deadline w).check checkedAt = .ok () ∧
    t = some ((c.deadline w).cut (c.clock w) s.requestTimeout.seconds)

theorem guardedTimeout_cases (w : W) :
    (∃ e, ((c.guardedTimeout s).exec w).1 = .error e ∧
        (c.deadline ((c.guardedTimeout s).exec w).2).check
          (c.clock ((c.guardedTimeout s).exec w).2) = .error e) ∨
      ∃ t, ((c.guardedTimeout s).exec w).1 = .ok t ∧ c.Passed s t ((c.guardedTimeout s).exec w).2 := by
  cases hcheck : (c.deadline w).check (c.clock (c.elapse w)) with
  | error e =>
      rw [c.guardedTimeout_exec_error s hcheck, c.deadline_elapse]
      exact .inl ⟨e, rfl, hcheck⟩
  | ok u =>
      -- the check was at the first reading, the cut at the second, and time kept the deadline
      have hkept : c.deadline (c.elapse (c.elapse w)) = c.deadline w := by
        rw [c.deadline_elapse, c.deadline_elapse]
      rw [c.guardedTimeout_exec_ok s hcheck]
      refine .inr ⟨_, rfl, c.clock (c.elapse w), c.clock_le_elapse _, ?_, ?_⟩
      · rw [hkept]
        exact hcheck
      · rw [hkept, Deadline.grant_some]

end Collaborators

namespace Stamp

variable (s : Settings)

def Guarded (st : Stamp) : Prop :=
  ∃ checkedAt ≤ st.now, st.deadline.check checkedAt = .ok () ∧
    st.exchange.timeout? = some (some (st.deadline.cut st.now s.requestTimeout.seconds))

def Records (st : Stamp) : Prop :=
  ∃ body a, st.exchange = .update body (some s.requestTimeout.seconds) a

/-- Whether the last of the stamps is that of a creation that gave an id. -/
def createdLast (L : List Stamp) : Bool :=
  L.getLast?.any fun st => st.exchange.created

def Fits (pre : List Stamp) (st : Stamp) : Prop :=
  if createdLast pre then st.Records s else st.Guarded s

variable {s}

@[simp] theorem createdLast_nil : createdLast [] = false := rfl

@[simp] theorem createdLast_singleton (st : Stamp) : createdLast [st] = st.exchange.created := by
  simp [createdLast]

theorem createdLast_append {A B : List Stamp} (hA : createdLast A = false) :
    createdLast (A ++ B) = createdLast B := by
  unfold createdLast
  rw [List.getLast?_append]
  cases hB : B.getLast? with
  | none => simpa [createdLast] using hA
  | some st => rfl

theorem fits_nil {st : Stamp} (h : st.Guarded s) : Fits s [] st := by
  simpa [Fits] using h

theorem eachAfter_shift {A L : List Stamp} (hA : createdLast A = false)
    (h : EachAfter (Fits s) [] L) : EachAfter (Fits s) A L := by
  intro pre st post hL
  have hst := h pre st post hL
  unfold Fits at hst ⊢
  rwa [createdLast_append hA]

theorem eachAfter_created {st st' : Stamp} (hst : st.Guarded s) (hc : st.exchange.created = true)
    (hrec : st'.Records s) : EachAfter (Fits s) [] [st, st'] := by
  refine EachAfter.cons_iff.2 ⟨fits_nil hst, EachAfter.cons_iff.2 ⟨?_, EachAfter.nil _⟩⟩
  show Fits s [st] st'
  simp only [Fits, createdLast_singleton, hc, if_true]
  exact hrec

theorem guarded_of_passed {W : Type} {c : Collaborators W} {u : Exchange} {t : Option Rat} {w : W}
    (h : c.Passed s t w) (hu : u.timeout? = some t) : Guarded s ⟨u, c.deadline w, c.clock w⟩ := by
  obtain ⟨checkedAt, hle, hcheck, rfl⟩ := h
  exact ⟨checkedAt, hle, hcheck, hu⟩

end Stamp

/-! ## Runs that leave stamps -/

namespace Run

variable {W α : Type}

def stamping (m : Run W α) (deadline : W → Deadline) (clock : W → Rat)
    (entry : Except OperatorError α → Exchange) : Run (W × List Stamp) α :=
  ExceptT.mk (modifyGet fun p =>
    let r := m.exec p.1
    (r.1, (r.2, p.2 ++ [⟨entry r.1, deadline p.1, clock p.1⟩])))

@[simp] theorem exec_stamping (m : Run W α) (deadline : W → Deadline) (clock : W → Rat)
    (entry : Except OperatorError α → Exchange) (w : W) (l : List Stamp) :
    (m.stamping deadline clock entry).exec (w, l) =
      ((m.exec w).1, ((m.exec w).2, l ++ [⟨entry (m.exec w).1, deadline w, clock w⟩])) :=
  rfl

end Run

namespace Collaborators

variable {W : Type}

/-- The same collaborators, each call leaving its stamp beside the world. -/
def stamped (c : Collaborators W) : Collaborators (W × List Stamp) where
  get ns name t := (c.get ns name t).stamping c.deadline c.clock (.get ns name t)
  update o t := (c.update o t).stamping c.deadline c.clock (.update o t)
  clusterContext t := (c.clusterContext t).stamping c.deadline c.clock (.clusterContext t)
  adminCredential t := (c.adminCredential t).stamping c.deadline c.clock (.adminCredential t)
  createEntry req t := (c.createEntry req t).stamping c.deadline c.clock (.createEntry req t)
  revokeEntry req t := (c.revokeEntry req t).stamping c.deadline c.clock (.revokeEntry req t)
  countFallback p := (c.countFallback p.1, p.2)
  deadline p := c.deadline p.1
  clock p := c.clock p.1
  elapse p := (c.elapse p.1, p.2)
  deadline_elapse p := c.deadline_elapse p.1
  clock_le_elapse p := c.clock_le_elapse p.1

theorem stamped_guardedTimeout_exec (c : Collaborators W) (s : Settings) (w : W)
    (l : List Stamp) :
    (c.stamped.guardedTimeout s).exec (w, l) =
      (((c.guardedTimeout s).exec w).1, ((c.guardedTimeout s).exec w).2, l) :=
  c.guardedTimeout_exec_lift s c.stamped (fun _ => rfl) (fun _ => rfl) (fun _ => rfl) w l

end Collaborators

def Stamps {W α : Type} (P : W → Prop) (m' : Run (W × List Stamp) α) (m : Run W α)
    (Q : List Stamp → Except OperatorError α → W → Prop) : Prop :=
  ∀ w l, P w → ∃ L, m'.exec (w, l) = ((m.exec w).1, ((m.exec w).2, l ++ L)) ∧
    Q L (m.exec w).1 (m.exec w).2

namespace Stamps

variable {W α β : Type} {P : W → Prop}

theorem mono {m' : Run (W × List Stamp) α} {m : Run W α}
    {Q Q' : List Stamp → Except OperatorError α → W → Prop} (h : Stamps P m' m Q)
    (hQ : ∀ L r w, Q L r w → Q' L r w) : Stamps P m' m Q' := by
  intro w l hw
  obtain ⟨L, hexec, hq⟩ := h w l hw
  exact ⟨L, hexec, hQ _ _ _ hq⟩

theorem pure {a : α} {Q : List Stamp → Except OperatorError α → W → Prop}
    (h : ∀ w, P w → Q [] (.ok a) w) : Stamps P (Pure.pure a) (Pure.pure a) Q := by
  intro w l hw
  exact ⟨[], by simp, h w hw⟩

theorem throw {e : OperatorError} {Q : List Stamp → Except OperatorError α → W → Prop}
    (h : ∀ w, P w → Q [] (.error e) w) :
    Stamps P (MonadExcept.throw e) (MonadExcept.throw e) Q := by
  intro w l hw
  exact ⟨[], by simp, h w hw⟩

theorem bind {m' : Run (W × List Stamp) α} {m : Run W α}
    {f' : α → Run (W × List Stamp) β} {f : α → Run W β}
    {R : List Stamp → Except OperatorError α → W → Prop}
    {Q : List Stamp → Except OperatorError β → W → Prop}
    (hm : Stamps P m' m R)
    (hok : ∀ a L, Stamps (R L (.ok a)) (f' a) (f a) fun L' r w => Q (L ++ L') r w)
    (herr : ∀ e L w, R L (.error e) w → Q L (.error e) w) :
    Stamps P (m' >>= f') (m >>= f) Q := by
  intro w l hw
  obtain ⟨L, hexec, hR⟩ := hm w l hw
  rcases hrun : m.exec w with ⟨e | a, w'⟩
  · rw [hrun] at hR hexec
    have h : (m >>= f).exec w = (.error e, w') := by simp only [Run.exec_bind, hrun]
    have h' : (m' >>= f').exec (w, l) = (.error e, (w', l ++ L)) := by
      simp only [Run.exec_bind, hexec]
    rw [h, h']
    exact ⟨L, rfl, herr e L w' hR⟩
  · rw [hrun] at hR hexec
    obtain ⟨L', hexec', hq⟩ := hok a L w' (l ++ L) hR
    have h : (m >>= f).exec w = (f a).exec w' := by simp only [Run.exec_bind, hrun]
    have h' : (m' >>= f').exec (w, l) = (f' a).exec (w', l ++ L) := by
      simp only [Run.exec_bind, hexec]
    rw [h, h', hexec']
    exact ⟨L ++ L', by rw [List.append_assoc], hq⟩

theorem tryCatch {m' : Run (W × List Stamp) α} {m : Run W α}
    {k' : OperatorError → Run (W × List Stamp) α} {k : OperatorError → Run W α}
    {R Q : List Stamp → Except OperatorError α → W → Prop}
    (hm : Stamps P m' m R)
    (hok : ∀ a L w, R L (.ok a) w → Q L (.ok a) w)
    (herr : ∀ e L, Stamps (R L (.error e)) (k' e) (k e) fun L' r w => Q (L ++ L') r w) :
    Stamps P (MonadExcept.tryCatch m' k') (MonadExcept.tryCatch m k) Q := by
  intro w l hw
  obtain ⟨L, hexec, hR⟩ := hm w l hw
  rcases hrun : m.exec w with ⟨e | a, w'⟩
  · rw [hrun] at hR hexec
    obtain ⟨L', hexec', hq⟩ := herr e L w' (l ++ L) hR
    have h : (MonadExcept.tryCatch m k).exec w = (k e).exec w' := by
      simp only [Run.exec_tryCatch, hrun]
    have h' : (MonadExcept.tryCatch m' k').exec (w, l) = (k' e).exec (w', l ++ L) := by
      simp only [Run.exec_tryCatch, hexec]
    rw [h, h', hexec']
    exact ⟨L ++ L', by rw [List.append_assoc], hq⟩
  · rw [hrun] at hR hexec
    have h : (MonadExcept.tryCatch m k).exec w = (.ok a, w') := by
      simp only [Run.exec_tryCatch, hrun]
    have h' : (MonadExcept.tryCatch m' k').exec (w, l) = (.ok a, (w', l ++ L)) := by
      simp only [Run.exec_tryCatch, hexec]
    rw [h, h']
    exact ⟨L, rfl, hok a L w' hR⟩

theorem map {m' : Run (W × List Stamp) α} {m : Run W α} {f : α → β}
    {R : List Stamp → Except OperatorError α → W → Prop}
    {Q : List Stamp → Except OperatorError β → W → Prop}
    (h : Stamps P m' m R) (hQ : ∀ L r w, R L r w → Q L (r.map f) w) :
    Stamps P (m' >>= fun a => Pure.pure (f a)) (m >>= fun a => Pure.pure (f a)) Q := by
  refine bind h (fun a L => pure fun w hw => ?_) (fun e L w hR => hQ L _ w hR)
  rw [List.append_nil]
  exact hQ L _ w hw

theorem stamping_bind {m : Run W α} {d : W → Deadline} {clk : W → Rat}
    {entry : Except OperatorError α → Exchange}
    {f' : α → Run (W × List Stamp) β} {f : α → Run W β}
    {Q : List Stamp → Except OperatorError β → W → Prop}
    (hok : ∀ w a, P w → Stamps (fun _ => True) (f' a) (f a)
      fun L r w' => Q (⟨entry (.ok a), d w, clk w⟩ :: L) r w')
    (herr : ∀ w e w', P w → Q [⟨entry (.error e), d w, clk w⟩] (.error e) w') :
    Stamps P (m.stamping d clk entry >>= f') (m >>= f) Q := by
  have hm : Stamps P (m.stamping d clk entry) m
      fun L r _ => ∃ w, P w ∧ L = [⟨entry r, d w, clk w⟩] := by
    intro w l hw
    exact ⟨_, rfl, w, hw, rfl⟩
  refine bind hm (fun a L => ?_) ?_
  · rintro w' l ⟨w, hw, rfl⟩
    exact hok w a hw w' l trivial
  · rintro e L w' ⟨w, hw, rfl⟩
    exact herr w e w' hw

theorem guardedTimeout_bind (c : Collaborators W) (s : Settings)
    {f' : Option Rat → Run (W × List Stamp) β} {f : Option Rat → Run W β}
    {Q : List Stamp → Except OperatorError β → W → Prop}
    (hok : ∀ t, Stamps (fun w => (∃ w₀, P w₀) ∧ c.Passed s t w) (f' t) (f t) Q)
    (herr : ∀ w e, (∃ w₀, P w₀) → (c.deadline w).check (c.clock w) = .error e →
      Q [] (.error e) w) :
    Stamps P (c.stamped.guardedTimeout s >>= f') (c.guardedTimeout s >>= f) Q := by
  have hm : Stamps P (c.stamped.guardedTimeout s) (c.guardedTimeout s) fun L r w =>
      L = [] ∧ (∃ w₀, P w₀) ∧
        ((∃ e, r = .error e ∧ (c.deadline w).check (c.clock w) = .error e) ∨
          ∃ t, r = .ok t ∧ c.Passed s t w) := by
    intro w l hw
    refine ⟨[], ?_, rfl, ⟨w, hw⟩, c.guardedTimeout_cases s w⟩
    rw [c.stamped_guardedTimeout_exec, List.append_nil]
  refine bind hm (fun t L => ?_) ?_
  · rintro w l ⟨rfl, hP, ⟨e, he, -⟩ | ⟨t', ht, hpass⟩⟩
    · cases he
    · cases ht
      exact hok _ w l ⟨hP, hpass⟩
  · rintro e L w ⟨rfl, hP, ⟨e', he, hcheck⟩ | ⟨t, ht, -⟩⟩
    · cases he
      exact herr w e hP hcheck
    · cases ht

theorem of_pre {m' : Run (W × List Stamp) α} {m : Run W α}
    {Q : List Stamp → Except OperatorError α → W → Prop}
    (h : ∀ w, P w → Stamps (· = w) m' m Q) : Stamps P m' m Q :=
  fun w l hw => h w hw w l rfl

theorem countFallback_bind (c : Collaborators W)
    {f' : Unit → Run (W × List Stamp) β} {f : Unit → Run W β}
    {Q : List Stamp → Except OperatorError β → W → Prop}
    (hok : Stamps (fun _ => True) (f' ()) (f ()) Q) :
    Stamps P (Run.change c.stamped.countFallback >>= f') (Run.change c.countFallback >>= f) Q := by
  have hm : Stamps P (Run.change c.stamped.countFallback) (Run.change c.countFallback)
      fun L r _ => L = [] ∧ r = .ok () := by
    intro w l hw
    exact ⟨[], by simp [Collaborators.stamped], rfl, rfl⟩
  refine bind hm (fun u L => ?_) ?_
  · rintro w l ⟨rfl, -⟩
    exact hok w l trivial
  · rintro e L w ⟨-, he⟩
    cases he

end Stamps

/-! ## Calls in their place -/

/-- The stamps `L` of a run that ended with `r` in the world `w`: each call was
made in its place, no creation that gave an id was left unrecorded, a run that
went through had no call fail, and a run that failed with no call failing was
stopped by its deadline, as the deadline stands in the world the run ended in. -/
structure Timely {W α : Type} (c : Collaborators W) (s : Settings) (L : List Stamp)
    (r : Except OperatorError α) (w : W) : Prop where
  each : EachAfter (Stamp.Fits s) [] L
  recorded : Stamp.createdLast L = false
  passed : ∀ a, r = .ok a → ∀ st ∈ L, st.exchange.fails = false
  stopped : ∀ e, r = .error e → (∀ st ∈ L, st.exchange.fails = false) →
    (c.deadline w).check (c.clock w) = .error e

namespace Timely

variable {W α β : Type} {c : Collaborators W} {s : Settings} {L : List Stamp}
  {r : Except OperatorError α} {w : W} {e : OperatorError}

theorem done (a : α) (w : W) : Timely c s [] (.ok a) w where
  each := EachAfter.nil []
  recorded := rfl
  passed := fun _ _ _ h => nomatch h
  stopped := fun _ h => nomatch h

theorem expired (h : (c.deadline w).check (c.clock w) = .error e) :
    Timely c s [] (.error (α := α) e) w where
  each := EachAfter.nil []
  recorded := rfl
  passed := fun _ h => nomatch h
  stopped := fun _ he _ => by
    cases he
    exact h

theorem failed {st : Stamp} (hst : st.Guarded s) (hf : st.exchange.fails = true) :
    Timely c s [st] (.error (α := α) e) w where
  each := EachAfter.cons_iff.2 ⟨Stamp.fits_nil hst, EachAfter.nil _⟩
  recorded := by simp [Exchange.created_eq_false_of_fails hf]
  passed := fun _ h => nomatch h
  stopped := fun _ _ hpass => absurd (hpass st List.mem_cons_self) (by simp [hf])

theorem append {A : List Stamp} {a : β} {w₀ : W} (hA : Timely c s A (.ok a) w₀)
    (h : Timely c s L r w) : Timely c s (A ++ L) r w where
  each := EachAfter.append_iff.2 ⟨hA.each, Stamp.eachAfter_shift hA.recorded h.each⟩
  recorded := by
    rw [Stamp.createdLast_append hA.recorded]
    exact h.recorded
  passed := fun a' ha st hst => by
    rcases List.mem_append.1 hst with hst | hst
    · exact hA.passed a rfl st hst
    · exact h.passed a' ha st hst
  stopped := fun e he hpass => h.stopped e he fun st hst => hpass st (List.mem_append_right A hst)

theorem cons {st : Stamp} (hst : st.Guarded s) (hc : st.exchange.created = false)
    (hf : st.exchange.fails = false) (h : Timely c s L r w) : Timely c s (st :: L) r w := by
  have hA : Timely c s [st] (.ok ()) w :=
    { each := EachAfter.cons_iff.2 ⟨Stamp.fits_nil hst, EachAfter.nil _⟩
      recorded := by simpa using hc
      passed := fun _ _ st' hst' => by
        rw [List.mem_singleton.1 hst']
        exact hf
      stopped := fun _ he => nomatch he }
  exact hA.append h

theorem created {st st' : Stamp} (hst : st.Guarded s) (hc : st.exchange.created = true)
    (hf : st.exchange.fails = false) (hrec : st'.Records s) (hf' : st'.exchange.fails = false)
    (h : Timely c s L r w) : Timely c s (st :: st' :: L) r w := by
  have hA : Timely c s [st, st'] (.ok ()) w := by
    refine ⟨Stamp.eachAfter_created hst hc hrec, ?_, ?_, fun _ he => nomatch he⟩
    · obtain ⟨body, a, hex⟩ := hrec
      simp [Stamp.createdLast, hex, Exchange.created]
    · intro _ _ st'' hst''
      rcases List.mem_pair.1 hst'' with rfl | rfl
      · exact hf
      · exact hf'
  exact hA.append h

theorem recordFailed {st st' : Stamp} (hst : st.Guarded s) (hc : st.exchange.created = true)
    (hrec : st'.Records s) (hf' : st'.exchange.fails = true) :
    Timely c s [st, st'] (.error (α := α) e) w where
  each := Stamp.eachAfter_created hst hc hrec
  recorded := by simp [Stamp.createdLast, Exchange.created_eq_false_of_fails hf']
  passed := fun _ h => nomatch h
  stopped := fun _ _ hpass => absurd (hpass st' (by simp)) (by simp [hf'])

theorem error_cast (h : Timely c s L (.error (α := α) e) w) :
    Timely c s L (.error (α := β) e) w where
  each := h.each
  recorded := h.recorded
  passed := fun _ h' => nomatch h'
  stopped := fun _ he => by
    cases he
    exact h.stopped e rfl

theorem map (h : Timely c s L r w) (f : α → β) : Timely c s L (r.map f) w where
  each := h.each
  recorded := h.recorded
  passed := fun b hb => by
    cases r with
    | error e => cases hb
    | ok a => exact h.passed a rfl
  stopped := fun e he => h.stopped e (Except.map_eq_error.1 he)

theorem record_follows (h : Timely c s L r w) {pre post : List Stamp} {st : Stamp}
    (hL : L = pre ++ st :: post) (hc : st.exchange.created = true) :
    ∃ st' post', post = st' :: post' ∧ st'.Records s := by
  cases post with
  | nil =>
      -- the run would end with the creation
      have hlast := h.recorded
      rw [hL] at hlast
      simp [Stamp.createdLast, hc] at hlast
  | cons st' post' =>
      have hfit := h.each (pre ++ [st]) st' post' (by rw [hL, List.append_assoc]; rfl)
      refine ⟨st', post', rfl, ?_⟩
      unfold Stamp.Fits at hfit
      simpa [Stamp.createdLast, hc] using hfit

end Timely

/-! ## Each function keeps its calls in their place -/

namespace Collaborators

variable {W : Type} (c : Collaborators W) (s : Settings)

theorem stamps_write (due : Bool) (body : Identity) (out : Lifecycle) :
    Stamps (fun _ => True)
      (if due = true then do
        let _ ← c.stamped.update body (← c.stamped.guardedTimeout s)
        pure out
      else pure out)
      (if due = true then do
        let _ ← c.update body (← c.guardedTimeout s)
        pure out
      else pure out)
      (Timely c s) := by
  cases due with
  | false =>
      rw [if_neg Bool.false_ne_true, if_neg Bool.false_ne_true]
      exact Stamps.pure fun w _ => .done out w
  | true =>
      rw [if_pos rfl, if_pos rfl]
      refine Stamps.guardedTimeout_bind c s (fun t => ?_) (fun w e _ he => .expired he)
      refine Stamps.stamping_bind (fun w a ⟨_, hpass⟩ => ?_)
        (fun w e w' ⟨_, hpass⟩ => .failed (Stamp.guarded_of_passed hpass rfl) rfl)
      exact Stamps.pure fun w' _ =>
        .cons (Stamp.guarded_of_passed hpass rfl) rfl rfl (.done out w')

theorem stamps_ensureFinalizer (o : Identity) :
    Stamps (fun _ => True) (c.stamped.ensureFinalizer s o) (c.ensureFinalizer s o) (Timely c s) :=
  c.stamps_write s _ _ _

theorem stamps_revoke (o : Identity) :
    Stamps (fun _ => True) (c.stamped.revoke s o) (c.revoke s o) (Timely c s) := by
  unfold revoke
  refine Stamps.guardedTimeout_bind c s (fun t => ?_) (fun w e _ he => .expired he)
  refine Stamps.stamping_bind (fun w ctx ⟨_, hpass⟩ => ?_)
    (fun w e w' ⟨_, hpass⟩ => .failed (Stamp.guarded_of_passed hpass rfl) rfl)
  have hctx := Stamp.guarded_of_passed (s := s)
    (u := .clusterContext t (.ok ctx)) hpass rfl
  refine Stamps.guardedTimeout_bind c s (fun t' => ?_)
    (fun w' e _ he => .cons hctx rfl rfl (.expired he))
  refine Stamps.stamping_bind (fun w' u ⟨_, hpass'⟩ => ?_)
    (fun w' e w₂ ⟨_, hpass'⟩ =>
      .cons hctx rfl rfl (.failed (Stamp.guarded_of_passed hpass' rfl) rfl))
  exact (c.stamps_write s _ _ _).mono fun L r w₂ h =>
    .cons hctx rfl rfl (.cons (Stamp.guarded_of_passed hpass' rfl) rfl rfl h)

theorem stamps_credentialOrNone :
    Stamps (fun _ => True) (c.stamped.credentialOrNone s) (c.credentialOrNone s) (Timely c s) := by
  unfold credentialOrNone
  -- the lookup either stops at its check or leaves the stamp of a guarded call
  have hlookup : Stamps (fun _ => True) (do c.stamped.adminCredential (← c.stamped.guardedTimeout s))
      (do c.adminCredential (← c.guardedTimeout s))
      fun L r w => (L = [] ∧ ∃ e, r = .error e ∧ (c.deadline w).check (c.clock w) = .error e) ∨
        ∃ st, L = [st] ∧ st.Guarded s ∧ ∃ t, st.exchange = .adminCredential t r := by
    refine Stamps.guardedTimeout_bind c s (fun t => ?_) (fun w e _ he => .inl ⟨rfl, e, rfl, he⟩)
    rintro w l ⟨_, hpass⟩
    exact ⟨_, rfl, .inr ⟨_, rfl, Stamp.guarded_of_passed hpass rfl, t, rfl⟩⟩
  refine Stamps.tryCatch hlookup ?_ ?_
  · rintro cred L w (⟨-, e, he, -⟩ | ⟨st, rfl, hst, t, hex⟩)
    · cases he
    · exact .cons hst (by rw [hex]; rfl) (by rw [hex]; rfl) (.done cred w)
  · intro e L
    refine Stamps.of_pre fun w hpre => ?_
    rcases hpre with ⟨rfl, e', he, hcheck⟩ | ⟨st, rfl, hst, t, hex⟩
    · -- the check failed: no missing credential, so the failure goes on
      cases he
      have hk : (e.kind == .credentialLookup) ≠ true := by
        simpa using (Deadline.check_error hcheck).kind_ne
      rw [if_neg hk, if_neg hk]
      exact Stamps.throw fun w' hw => hw ▸ .expired hcheck
    · by_cases hk : e.kind = .credentialLookup
      · -- a missing credential is counted, and the registration goes on without one
        have hk' : (e.kind == .credentialLookup) = true := by simpa using hk
        have hf : st.exchange.fails = false := by simp [hex, Exchange.fails, hk]
        rw [if_pos hk', if_pos hk']
        exact Stamps.countFallback_bind c
          (Stamps.pure fun w' _ => .cons hst (by rw [hex]; rfl) hf (.done "" w'))
      · have hk' : (e.kind == .credentialLookup) ≠ true := by simpa using hk
        have hf : st.exchange.fails = true := by simp [hex, Exchange.fails, hk]
        rw [if_neg hk', if_neg hk']
        exact Stamps.throw fun w' _ => .failed hst hf

theorem stamps_register (o : Identity) :
    Stamps (fun _ => True) (c.stamped.register s o) (c.register s o) (Timely c s) := by
  unfold register
  refine Stamps.guardedTimeout_bind c s (fun t => ?_) (fun w e _ he => .expired he)
  refine Stamps.stamping_bind (fun w ctx ⟨_, hpass⟩ => ?_)
    (fun w e w' ⟨_, hpass⟩ => .failed (Stamp.guarded_of_passed hpass rfl) rfl)
  have hctx := Stamp.guarded_of_passed (s := s)
    (u := .clusterContext t (.ok ctx)) hpass rfl
  refine Stamps.bind (c.stamps_credentialOrNone s) (fun cred L => ?_)
    (fun e L w' h => .cons hctx rfl rfl h.error_cast)
  refine Stamps.guardedTimeout_bind c s (fun t' => ?_)
    (fun w' e ⟨w₀, hL⟩ he => .cons hctx rfl rfl (.append hL (.expired he)))
  refine Stamps.stamping_bind (fun w' id ⟨⟨w₀, hL⟩, hpass'⟩ => ?_)
    (fun w' e w₂ ⟨⟨w₀, hL⟩, hpass'⟩ =>
      .cons hctx rfl rfl (.append hL (.failed (Stamp.guarded_of_passed hpass' rfl) rfl)))
  -- the record of the id is written whatever the deadline, with the request timeout
  refine Stamps.stamping_bind (fun w₂ o' _ => ?_)
    (fun w₂ e w₃ _ => .cons hctx rfl rfl (.append hL
      (.recordFailed (Stamp.guarded_of_passed hpass' rfl) rfl ⟨_, _, rfl⟩ rfl)))
  exact (c.stamps_ensureFinalizer s o').mono fun M r w₃ h =>
    .cons hctx rfl rfl (.append hL
      (.created (Stamp.guarded_of_passed hpass' rfl) rfl rfl ⟨_, _, rfl⟩ rfl h))

theorem stamps_reconcile (ns name : String) :
    Stamps (fun _ => True) (c.stamped.reconcile s ns name) (c.reconcile s ns name)
      (Timely c s) := by
  unfold reconcile
  refine Stamps.guardedTimeout_bind c s (fun t => ?_) (fun w e _ he => .expired he)
  refine Stamps.stamping_bind (fun w x ⟨_, hpass⟩ => ?_)
    (fun w e w' ⟨_, hpass⟩ => .failed (Stamp.guarded_of_passed hpass rfl) rfl)
  have hget := Stamp.guarded_of_passed (s := s)
    (u := .get ns name t (.ok x)) hpass rfl
  rcases x with _ | o
  · exact Stamps.pure fun w' _ => .cons hget rfl rfl (.done none w')
  · dsimp only
    cases hlife : o.lifecycle s with
    | unmanaged => exact Stamps.pure fun w' _ => .cons hget rfl rfl (.done _ w')
    | pendingRevocation =>
        exact Stamps.map (c.stamps_revoke s o) fun L r w' h => .cons hget rfl rfl (h.map _)
    | registered =>
        exact Stamps.map (c.stamps_ensureFinalizer s o) fun L r w' h =>
          .cons hget rfl rfl (h.map _)
    | pendingRegistration =>
        exact Stamps.map (c.stamps_register s o) fun L r w' h => .cons hget rfl rfl (h.map _)
    | finalized => exact absurd hlife (o.lifecycle_ne_finalized s)

def cancelling (o : Identity) : Collaborators Deadline where
  get _ _ _ := do
    Run.change Deadline.cancel
    pure (some o)
  update o' _ := pure o'
  clusterContext _ := pure ⟨"cluster", "example.org"⟩
  adminCredential _ := pure "admin"
  createEntry _ _ := pure "entry-1"
  revokeEntry _ _ := pure ()
  countFallback d := d
  deadline d := d
  clock _ := 0

-- a registration cancelled by its own read stops at the next check, and only the
-- read was stamped
example :
    let c := cancelling (.sample {} "true" [] false)
    (c.stamped.reconcile {} "default" "web").exec (.unlimited, []) =
      (.error .cancelled, (Deadline.unlimited.cancel,
        [⟨.get "default" "web" (some ({} : Settings).requestTimeout.seconds)
          (.ok (some (.sample {} "true" [] false))), .unlimited, 0⟩])) := by
  rfl

def ticking (o : Identity) : Collaborators Rat where
  get _ _ _ := pure (some o)
  update o' _ := pure o'
  clusterContext _ := pure ⟨"cluster", "example.org"⟩
  adminCredential _ := pure "admin"
  createEntry _ _ := pure "entry-1"
  revokeEntry _ _ := pure ()
  countFallback t := t
  deadline _ := Deadline.start (some 1) 0
  clock t := t
  elapse t := t + 1 / 2
  clock_le_elapse t := by linarith

-- the budget runs out between the two readings before the read: the check passes
-- half a second in, and the read, made at the budget's end, is given no time
example :
    let c := ticking (.sample {} "false" [] false)
    let run := (c.stamped.reconcile {} "default" "web").exec (0, [])
    run.2.2.map (fun st => (st.exchange.timeout?, st.now)) = [(some (some 0), 1)] := by
  decide +kernel

end Collaborators

end SpireEnroll
