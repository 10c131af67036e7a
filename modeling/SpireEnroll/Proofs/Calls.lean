import SpireEnroll.Proofs.Traces

/-!
# The calls a reconcile makes

Every log a reconcile can leave, whatever its collaborators answer and whenever
its deadline runs out, described branch by branch:

* a guarded write (`WriteLog`): nothing when the write is not due; otherwise a
  deadline check, then the write;
* a credential lookup (`CredentialLog`): a deadline check, then the read; a lookup
  failure is absorbed and counted;
* a revocation (`RevokeLog`) and a registration (`RegisterLog`): their calls in
  order, stopping at the first failure;
* a reconcile (`ReconcileLog`): the read of the account, then the branch its
  lifecycle state selects.

The main result, `traces_reconcile`, says that the reconcile run against traced
collaborators does exactly what the reconcile does and leaves a log of this
shape. Every fact about the calls of a reconcile, and of a whole run of the
operator (`session_log`), is read off these descriptions.
-/

namespace SpireEnroll

/-- The logs of a write of `body` made only when `due`, after a deadline check,
ending with `out` once written. -/
inductive WriteLog (due : Bool) (body : Identity) (out : Lifecycle) :
    List Exchange → Except OperatorError Lifecycle → Prop where
  | skipped : due = false → WriteLog due body out [] (.ok out)
  | expired {e : OperatorError} : due = true → e.IsDeadline → WriteLog due body out [] (.error e)
  | written {t : Option Rat} {a : Except OperatorError Identity} :
      due = true → WriteLog due body out [.update body t a] (a.map fun _ => out)

/-- The logs of a lookup of the admin credential, and the credential it gives. -/
inductive CredentialLog : List Exchange → Except OperatorError String → Prop where
  | expired {e : OperatorError} : e.IsDeadline → CredentialLog [] (.error e)
  | found {t : Option Rat} {cred : String} :
      CredentialLog [.adminCredential t (.ok cred)] (.ok cred)
  | fallback {t : Option Rat} {e : OperatorError} :
      e.kind = .credentialLookup →
      CredentialLog [.adminCredential t (.error e), .countFallback] (.ok "")
  | failed {t : Option Rat} {e : OperatorError} :
      e.kind ≠ .credentialLookup → CredentialLog [.adminCredential t (.error e)] (.error e)

/-- The logs of the revocation of `o`. -/
inductive RevokeLog (s : Settings) (o : Identity) :
    List Exchange → Except OperatorError Lifecycle → Prop where
  | expired {e : OperatorError} : e.IsDeadline → RevokeLog s o [] (.error e)
  | contextFailed {t : Option Rat} {e : OperatorError} :
      RevokeLog s o [.clusterContext t (.error e)] (.error e)
  | expiredAfterContext {t : Option Rat} {ctx : ClusterContext} {e : OperatorError} :
      e.IsDeadline → RevokeLog s o [.clusterContext t (.ok ctx)] (.error e)
  | revokeFailed {t t' : Option Rat} {ctx : ClusterContext} {e : OperatorError} :
      RevokeLog s o
        [.clusterContext t (.ok ctx), .revokeEntry (.build ctx o "") t' (.error e)] (.error e)
  | revoked {t t' : Option Rat} {ctx : ClusterContext} {L : List Exchange}
      {r : Except OperatorError Lifecycle} :
      WriteLog (o.hasFinalizer s.finalizer) (o.removeFinalizer s.finalizer) .finalized L r →
      RevokeLog s o
        (.clusterContext t (.ok ctx) :: .revokeEntry (.build ctx o "") t' (.ok ()) :: L) r

/-- The logs of the registration of `o`. -/
inductive RegisterLog (s : Settings) (o : Identity) :
    List Exchange → Except OperatorError Lifecycle → Prop where
  | expired {e : OperatorError} : e.IsDeadline → RegisterLog s o [] (.error e)
  | contextFailed {t : Option Rat} {e : OperatorError} :
      RegisterLog s o [.clusterContext t (.error e)] (.error e)
  | credentialFailed {t : Option Rat} {ctx : ClusterContext} {L : List Exchange}
      {e : OperatorError} :
      CredentialLog L (.error e) → RegisterLog s o (.clusterContext t (.ok ctx) :: L) (.error e)
  | expiredBeforeCreate {t : Option Rat} {ctx : ClusterContext} {L : List Exchange}
      {cred : String} {e : OperatorError} :
      CredentialLog L (.ok cred) → e.IsDeadline →
      RegisterLog s o (.clusterContext t (.ok ctx) :: L) (.error e)
  | createFailed {t t' : Option Rat} {ctx : ClusterContext} {L : List Exchange} {cred : String}
      {e : OperatorError} :
      CredentialLog L (.ok cred) →
      RegisterLog s o
        (.clusterContext t (.ok ctx) :: (L ++ [.createEntry (.build ctx o cred) t' (.error e)]))
        (.error e)
  | recordFailed {t t' : Option Rat} {ctx : ClusterContext} {L : List Exchange} {cred id : String}
      {e : OperatorError} :
      CredentialLog L (.ok cred) →
      RegisterLog s o
        (.clusterContext t (.ok ctx) :: (L ++ [.createEntry (.build ctx o cred) t' (.ok id),
          .update ( o.setAnnotation s.entryIdAnnotation (.str id)) (some s.requestTimeout.seconds)
            (.error e)]))
        (.error e)
  | recorded {t t' : Option Rat} {ctx : ClusterContext} {L M : List Exchange} {cred id : String}
      {o' : Identity} {r : Except OperatorError Lifecycle} :
      CredentialLog L (.ok cred) →
      WriteLog (!o'.hasFinalizer s.finalizer) (o'.addFinalizer s.finalizer) .registered M r →
      RegisterLog s o
        (.clusterContext t (.ok ctx) :: (L ++ .createEntry (.build ctx o cred) t' (.ok id) ::
          .update ( o.setAnnotation s.entryIdAnnotation (.str id)) (some s.requestTimeout.seconds)
            (.ok o') :: M))
        r

/-- The logs of a reconcile of the account at `ns/name`. -/
inductive ReconcileLog (s : Settings) (ns name : String) :
    List Exchange → Except OperatorError (Option Lifecycle) → Prop where
  | expired {e : OperatorError} : e.IsDeadline → ReconcileLog s ns name [] (.error e)
  | readFailed {t : Option Rat} {e : OperatorError} :
      ReconcileLog s ns name [.get ns name t (.error e)] (.error e)
  | missing {t : Option Rat} : ReconcileLog s ns name [.get ns name t (.ok none)] (.ok none)
  | unmanaged {t : Option Rat} {o : Identity} :
      o.lifecycle s = .unmanaged →
      ReconcileLog s ns name [.get ns name t (.ok (some o))] (.ok (some .unmanaged))
  | revoking {t : Option Rat} {o : Identity} {L : List Exchange}
      {r : Except OperatorError Lifecycle} :
      o.lifecycle s = .pendingRevocation → RevokeLog s o L r →
      ReconcileLog s ns name (.get ns name t (.ok (some o)) :: L) (r.map some)
  | ensuring {t : Option Rat} {o : Identity} {L : List Exchange}
      {r : Except OperatorError Lifecycle} :
      o.lifecycle s = .registered →
      WriteLog (!o.hasFinalizer s.finalizer) (o.addFinalizer s.finalizer) .registered L r →
      ReconcileLog s ns name (.get ns name t (.ok (some o)) :: L) (r.map some)
  | registering {t : Option Rat} {o : Identity} {L : List Exchange}
      {r : Except OperatorError Lifecycle} :
      o.lifecycle s = .pendingRegistration → RegisterLog s o L r →
      ReconcileLog s ns name (.get ns name t (.ok (some o)) :: L) (r.map some)

theorem OperatorError.IsDeadline.kind_ne {e : OperatorError} (he : e.IsDeadline) :
    e.kind ≠ .credentialLookup := by
  rcases he with rfl | rfl <;> simp [OperatorError.kind]

namespace Traces

variable {W α β : Type}

theorem logging (m : Run W α) (entry : Except OperatorError α → Exchange) :
    Traces (m.logging entry) m fun L r => L = [entry r] := by
  intro w l
  exact ⟨[entry (m.exec w).1], rfl, rfl⟩

theorem map {m' : Run (W × List Exchange) α} {m : Run W α} {f : α → β}
    {Q : List Exchange → Except OperatorError α → Prop}
    {P : List Exchange → Except OperatorError β → Prop}
    (h : Traces m' m Q) (hP : ∀ L r, Q L r → P L (r.map f)) :
    Traces (m' >>= fun a => Pure.pure (f a)) (m >>= fun a => Pure.pure (f a)) P := by
  refine bind h (fun a L hL => pure ?_) (fun e L hL => hP L _ hL)
  rw [List.append_nil]
  exact hP L _ hL

end Traces

namespace Collaborators

variable {W : Type} (c : Collaborators W) (s : Settings)

theorem traces_write (due : Bool) (body : Identity) (out : Lifecycle) :
    Traces
      (if due = true then do
        let _ ← c.traced.update body (← c.traced.guardedTimeout s)
        pure out
      else pure out)
      (if due = true then do
        let _ ← c.update body (← c.guardedTimeout s)
        pure out
      else pure out)
      (WriteLog due body out) := by
  cases due with
  | false =>
      rw [if_neg Bool.false_ne_true, if_neg Bool.false_ne_true]
      exact Traces.pure (.skipped rfl)
  | true =>
      rw [if_pos rfl, if_pos rfl]
      refine Traces.guardedTimeout_bind c s (fun t => ?_) (fun e he => .expired rfl he)
      exact Traces.logging_bind (fun a => Traces.pure (.written rfl)) (fun e => .written rfl)

theorem traces_ensureFinalizer (o : Identity) :
    Traces (c.traced.ensureFinalizer s o) (c.ensureFinalizer s o)
      (WriteLog (!o.hasFinalizer s.finalizer) (o.addFinalizer s.finalizer) .registered) :=
  c.traces_write s _ _ _

theorem traces_revoke (o : Identity) :
    Traces (c.traced.revoke s o) (c.revoke s o) (RevokeLog s o) := by
  unfold revoke
  refine Traces.guardedTimeout_bind c s (fun t => ?_) (fun e he => .expired he)
  refine Traces.logging_bind (fun ctx => ?_) (fun e => .contextFailed)
  refine Traces.guardedTimeout_bind c s (fun t' => ?_) (fun e he => .expiredAfterContext he)
  refine Traces.logging_bind (fun _ => ?_) (fun e => .revokeFailed)
  exact (c.traces_write s (o.hasFinalizer s.finalizer) (o.removeFinalizer s.finalizer)
    .finalized).mono fun L r h => .revoked h

theorem traces_credentialOrNone :
    Traces (c.traced.credentialOrNone s) (c.credentialOrNone s) CredentialLog := by
  unfold credentialOrNone
  -- the lookup itself either stops at the deadline or logs the read
  have hlookup : Traces (do c.traced.adminCredential (← c.traced.guardedTimeout s))
      (do c.adminCredential (← c.guardedTimeout s))
      fun L r => (L = [] ∧ ∃ e, r = .error e ∧ e.IsDeadline) ∨
        ∃ t, L = [.adminCredential t r] := by
    refine Traces.guardedTimeout_bind c s (fun t => ?_) (fun e he => .inl ⟨rfl, e, rfl, he⟩)
    exact (Traces.logging _ _).mono fun L r h => .inr ⟨t, h⟩
  refine Traces.tryCatch hlookup ?_ ?_
  · intro cred L hL
    rcases hL with ⟨-, e, he, -⟩ | ⟨t, rfl⟩
    · cases he
    · exact .found
  · intro e L hL
    rcases hL with ⟨rfl, e', he', hdl⟩ | ⟨t, rfl⟩
    · cases he'
      have hk : (e.kind == .credentialLookup) ≠ true := by simpa using hdl.kind_ne
      rw [if_neg hk, if_neg hk]
      exact Traces.throw (CredentialLog.expired hdl)
    · by_cases hk : e.kind = .credentialLookup
      · have hk' : (e.kind == .credentialLookup) = true := by simpa using hk
        rw [if_pos hk', if_pos hk']
        exact Traces.countFallback_bind c (Traces.pure (CredentialLog.fallback hk))
      · have hk' : (e.kind == .credentialLookup) ≠ true := by simpa using hk
        rw [if_neg hk', if_neg hk']
        exact Traces.throw (CredentialLog.failed hk)

theorem traces_register (o : Identity) :
    Traces (c.traced.register s o) (c.register s o) (RegisterLog s o) := by
  unfold register
  refine Traces.guardedTimeout_bind c s (fun t => ?_) (fun e he => .expired he)
  refine Traces.logging_bind (fun ctx => ?_) (fun e => .contextFailed)
  refine Traces.bind (c.traces_credentialOrNone s) (fun cred L hL => ?_)
    (fun e L hL => .credentialFailed hL)
  refine Traces.guardedTimeout_bind c s (fun t' => ?_) (fun e he => ?_)
  · refine Traces.logging_bind (fun id => ?_) (fun e => .createFailed hL)
    refine Traces.logging_bind (fun o' => ?_) (fun e => .recordFailed hL)
    exact (c.traces_ensureFinalizer s o').mono fun M r h => .recorded hL h
  · rw [List.append_nil]
    exact .expiredBeforeCreate hL he

/-- A reconcile against traced collaborators does what the reconcile does, and
its log is one that `ReconcileLog` describes. -/
theorem traces_reconcile (ns name : String) :
    Traces (c.traced.reconcile s ns name) (c.reconcile s ns name) (ReconcileLog s ns name) := by
  unfold reconcile
  refine Traces.guardedTimeout_bind c s (fun t => ?_) (fun e he => .expired he)
  refine Traces.logging_bind (fun x => ?_) (fun e => .readFailed)
  rcases x with _ | o
  · exact Traces.pure .missing
  · dsimp only
    cases hlife : o.lifecycle s with
    | unmanaged => exact Traces.pure (ReconcileLog.unmanaged hlife)
    | pendingRevocation =>
        exact Traces.map (c.traces_revoke s o) fun L r h => ReconcileLog.revoking hlife h
    | registered =>
        exact Traces.map (c.traces_ensureFinalizer s o) fun L r h => ReconcileLog.ensuring hlife h
    | pendingRegistration =>
        exact Traces.map (c.traces_register s o) fun L r h => ReconcileLog.registering hlife h
    | finalized => exact absurd hlife (o.lifecycle_ne_finalized s)

theorem reconciled_spec (ns name : String) (w : W) :
    (c.reconciled s ns name w).1.result = ((c.reconcile s ns name).exec w).1 ∧
      (c.reconciled s ns name w).2 = ((c.reconcile s ns name).exec w).2 ∧
      ReconcileLog s ns name (c.reconciled s ns name w).1.log
        (c.reconciled s ns name w).1.result := by
  obtain ⟨L, hexec, hlog⟩ := c.traces_reconcile s ns name w []
  have hrun : c.reconciled s ns name w =
      (⟨ns, name, ((c.reconcile s ns name).exec w).1, L⟩, ((c.reconcile s ns name).exec w).2) := by
    simp only [reconciled, hexec, List.nil_append]
  rw [hrun]
  exact ⟨rfl, rfl, hlog⟩

theorem mem_session {hs : List (Happening W)} {w : W} {x : Reconciled}
    (hx : x ∈ (c.session s hs w).1) :
    ∃ ns name w₀, x = (c.reconciled s ns name w₀).1 := by
  induction hs generalizing w with
  | nil => simp [session] at hx
  | cons h hs ih =>
      cases h with
      | reconcile ns name =>
          rcases List.mem_cons.1 hx with rfl | hx
          · exact ⟨ns, name, w, rfl⟩
          · exact ih hx
      | change f => exact ih hx

/-- Every reconcile of a run of the operator leaves a log that `ReconcileLog`
describes. -/
theorem session_log {hs : List (Happening W)} {w : W} {x : Reconciled}
    (hx : x ∈ (c.session s hs w).1) : ReconcileLog s x.ns x.name x.log x.result := by
  obtain ⟨ns, name, w₀, rfl⟩ := c.mem_session s hx
  exact (c.reconciled_spec s ns name w₀).2.2

end Collaborators
end SpireEnroll
