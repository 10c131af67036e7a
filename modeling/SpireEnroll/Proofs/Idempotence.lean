import Mathlib
import SpireEnroll.Proofs.Plan
import SpireEnroll.Proofs.Finalizers

/-!
# Reconciling again changes nothing

Against a store that persists what is written to an account and hands the stored
account back, with every other call going through and a deadline that never
stops a reconcile, a reconcile takes the account to a state it then keeps: once
reconciled, an account is not managed, or is being deleted without the
finalizer, or is registered and carries it (`Identity.Settled`). Reconciling it
again gives the same outcome, makes no write and creates no entry.

The proof follows the program, one function at a time: `Settles V v m Q` says
that `m`, run from any world whose view is `v`, succeeds, and `Q` holds of its
value and the view of the world it leaves. A reconcile is run against the
collaborators that log their calls, viewed as the stored account and the log, so
one walk gives the outcome, the account left and the calls made. Versions are
the store's business: an account is known after a write only up to its version
(`Identity.Same`).
-/

namespace SpireEnroll

/-! ## Runs that succeed -/

def Settles {W σ α : Type} (V : W → σ) (v : σ) (m : Run W α) (Q : α → σ → Prop) : Prop :=
  ∀ w, V w = v → ∃ a, (m.exec w).1 = .ok a ∧ Q a (V (m.exec w).2)

namespace Settles

variable {W σ α β : Type} {V : W → σ}

theorem pure {v : σ} {a : α} {Q : α → σ → Prop} (h : Q a v) :
    Settles V v (Pure.pure a) Q := by
  intro w hw
  refine ⟨a, rfl, ?_⟩
  rw [Run.exec_pure, hw]
  exact h

theorem bind {v : σ} {m : Run W α} {f : α → Run W β} {R : α → σ → Prop} {Q : β → σ → Prop}
    (hm : Settles V v m R) (hf : ∀ a v', R a v' → Settles V v' (f a) Q) :
    Settles V v (m >>= f) Q := by
  intro w hw
  obtain ⟨a, ha, hR⟩ := hm w hw
  rcases hrun : m.exec w with ⟨r, w'⟩
  rw [hrun] at ha hR
  cases ha
  obtain ⟨b, hb, hQ⟩ := hf a _ hR w' rfl
  have hexec : (m >>= f).exec w = (f a).exec w' := by
    rw [Run.exec_bind, hrun]
  rw [hexec]
  exact ⟨b, hb, hQ⟩

theorem mono {v : σ} {m : Run W α} {Q Q' : α → σ → Prop} (h : Settles V v m Q)
    (hQ : ∀ a v', Q a v' → Q' a v') : Settles V v m Q' := by
  intro w hw
  obtain ⟨a, ha, hq⟩ := h w hw
  exact ⟨a, ha, hQ a _ hq⟩

theorem tryCatch {v : σ} {m : Run W α} {k : OperatorError → Run W α} {Q : α → σ → Prop}
    (h : Settles V v m Q) : Settles V v (MonadExcept.tryCatch m k) Q := by
  intro w hw
  obtain ⟨a, ha, hQ⟩ := h w hw
  rcases hrun : m.exec w with ⟨r, w'⟩
  rw [hrun] at ha hQ
  cases ha
  have hexec : (MonadExcept.tryCatch m k).exec w = (.ok a, w') := by
    rw [Run.exec_tryCatch, hrun]
  rw [hexec]
  exact ⟨a, rfl, hQ⟩

def withLog (V : W → σ) (p : W × List Exchange) : σ × List Exchange :=
  (V p.1, p.2)

theorem logging {v : σ} {m : Run W α} {Q : α → σ → Prop} (h : Settles V v m Q)
    (entry : Except OperatorError α → Exchange) (l : List Exchange) :
    Settles (withLog V) (v, l) (m.logging entry)
      fun a p => Q a p.1 ∧ p.2 = l ++ [entry (.ok a)] := by
  rintro ⟨w, l'⟩ hw
  simp only [withLog, Prod.mk.injEq] at hw
  obtain ⟨hw, rfl⟩ := hw
  obtain ⟨a, ha, hQ⟩ := h w hw
  refine ⟨a, ?_, ?_⟩
  · rw [Run.exec_logging]
    exact ha
  · rw [Run.exec_logging, ha]
    exact ⟨hQ, rfl⟩

end Settles

/-! ## Accounts equal but for their version -/

namespace Identity

/-- Two accounts equal in all but their versions. -/
structure Same (o o' : Identity) : Prop where
  ns : o.ns = o'.ns
  name : o.name = o'.name
  annotations : o.annotations = o'.annotations
  finalizers : o.finalizers = o'.finalizers
  deleting : o.deleting = o'.deleting

namespace Same

variable {o o' o'' : Identity}

theorem refl (o : Identity) : Same o o := ⟨rfl, rfl, rfl, rfl, rfl⟩

theorem symm (h : Same o o') : Same o' o :=
  ⟨h.ns.symm, h.name.symm, h.annotations.symm, h.finalizers.symm, h.deleting.symm⟩

theorem trans (h : Same o o') (h' : Same o' o'') : Same o o'' :=
  ⟨h.ns.trans h'.ns, h.name.trans h'.name, h.annotations.trans h'.annotations,
    h.finalizers.trans h'.finalizers, h.deleting.trans h'.deleting⟩

theorem hasFinalizer_eq (h : Same o o') (f : String) : o.hasFinalizer f = o'.hasFinalizer f := by
  simp only [hasFinalizer, h.finalizers]

theorem hasEntryId_eq (h : Same o o') (s : Settings) : o.hasEntryId s = o'.hasEntryId s := by
  simp only [hasEntryId, annotation?, h.annotations]

theorem isManaged_eq (h : Same o o') (s : Settings) : o.isManaged s = o'.isManaged s := by
  simp only [isManaged, annotation?, h.annotations]

theorem lifecycle_eq (h : Same o o') (s : Settings) : o.lifecycle s = o'.lifecycle s := by
  simp only [lifecycle, h.isManaged_eq s, h.deleting, h.hasEntryId_eq s]

theorem addFinalizer (h : Same o o') (f : String) : Same (o.addFinalizer f) (o'.addFinalizer f) :=
  ⟨h.ns, h.name, h.annotations, by simp only [Identity.addFinalizer, h.finalizers], h.deleting⟩

end Same

end Identity

/-! ## What a reconcile leaves -/

namespace Identity

variable (s : Settings)

def reconciledWith (id : String) (o : Identity) : Identity :=
  match o.lifecycle s with
  | .unmanaged => o
  | .pendingRevocation => o.removeFinalizer s.finalizer
  | .registered => o.addFinalizer s.finalizer
  | .pendingRegistration | .finalized =>
    ( o.setAnnotation s.entryIdAnnotation (.str id)).addFinalizer s.finalizer

/-- An account a reconcile leaves as it is: not managed, being deleted without the
finalizer, or registered and carrying it. -/
def Settled (o : Identity) : Prop :=
  o.lifecycle s = .unmanaged ∨
    (o.lifecycle s = .pendingRevocation ∧ o.hasFinalizer s.finalizer = false) ∨
    (o.lifecycle s = .registered ∧ o.hasFinalizer s.finalizer = true)

variable {s} {o o' : Identity}

theorem lifecycle_addFinalizer (f : String) : (o.addFinalizer f).lifecycle s = o.lifecycle s :=
  rfl

theorem lifecycle_removeFinalizer (f : String) :
    (o.removeFinalizer f).lifecycle s = o.lifecycle s :=
  rfl

theorem lifecycle_setEntryId (hkeys : s.managedAnnotation ≠ s.entryIdAnnotation) {id : String}
    (hid : id ≠ "") (hlife : o.lifecycle s = .pendingRegistration) :
    ( o.setAnnotation s.entryIdAnnotation (.str id)).lifecycle s = .registered := by
  obtain ⟨hmanaged, hdeleting, -⟩ := (lifecycle_eq_pendingRegistration_iff s o).1 hlife
  have hmanaged' : ( o.setAnnotation s.entryIdAnnotation (.str id)).isManaged s = true := by
    rw [← hmanaged]
    simp only [isManaged, annotation?, setAnnotation, Value.lookup_setEntry_of_ne _ _ hkeys]
  have hentry : ( o.setAnnotation s.entryIdAnnotation (.str id)).hasEntryId s = true := by
    rw [hasEntryId_setAnnotation_self]
    simpa [Value.truthy] using hid
  unfold lifecycle
  rw [hmanaged', hentry]
  simp only [ setAnnotation, hdeleting, Bool.not_true, Bool.false_eq_true, if_false, if_true]

theorem plannedOutcome_reconciledWith (hkeys : s.managedAnnotation ≠ s.entryIdAnnotation)
    {id : String} (hid : o.lifecycle s = .pendingRegistration → id ≠ "") :
    (o.reconciledWith s id).plannedOutcome s = o.plannedOutcome s := by
  unfold reconciledWith plannedOutcome
  cases hlife : o.lifecycle s with
  | unmanaged => simp only [hlife]
  | pendingRevocation => simp only [lifecycle_removeFinalizer, hlife]
  | registered => simp only [lifecycle_addFinalizer, hlife]
  | pendingRegistration =>
      simp only [lifecycle_addFinalizer, lifecycle_setEntryId hkeys (hid hlife) hlife]
  | finalized => exact absurd hlife (lifecycle_ne_finalized s o)

theorem settled_reconciledWith (hkeys : s.managedAnnotation ≠ s.entryIdAnnotation) {id : String}
    (hid : o.lifecycle s = .pendingRegistration → id ≠ "") : Settled s (o.reconciledWith s id) := by
  unfold reconciledWith
  cases hlife : o.lifecycle s with
  | unmanaged => exact .inl hlife
  | pendingRevocation =>
      exact .inr (.inl ⟨by rw [lifecycle_removeFinalizer, hlife], hasFinalizer_removeFinalizer _ _⟩)
  | registered =>
      exact .inr (.inr ⟨by rw [lifecycle_addFinalizer, hlife], hasFinalizer_addFinalizer _ _⟩)
  | pendingRegistration =>
      refine .inr (.inr ⟨?_, hasFinalizer_addFinalizer _ _⟩)
      rw [lifecycle_addFinalizer, lifecycle_setEntryId hkeys (hid hlife) hlife]
  | finalized => exact absurd hlife (lifecycle_ne_finalized s o)

theorem Settled.reconciledWith_eq (h : Settled s o) (id : String) : o.reconciledWith s id = o := by
  unfold reconciledWith
  rcases h with hlife | ⟨hlife, hf⟩ | ⟨hlife, hf⟩
  · rw [hlife]
  · rw [hlife]
    exact removeFinalizer_eq_self hf
  · rw [hlife]
    exact addFinalizer_eq_self hf

theorem Settled.plannedCalls (h : Settled s o) :
    o.plannedCalls s (some o) = [] ∨
      (o.lifecycle s = .pendingRevocation ∧
        o.plannedCalls s (some o) = [.clusterContext, .revokeEntry]) := by
  unfold Identity.plannedCalls
  rcases h with hlife | ⟨hlife, hf⟩ | ⟨hlife, hf⟩
  · left
    rw [hlife]
  · right
    refine ⟨hlife, ?_⟩
    rw [hlife, hf]
    rfl
  · left
    rw [hlife, hf]
    rfl

theorem Same.settled (h : Same o o') (hs : Settled s o) : Settled s o' := by
  unfold Settled
  rw [← h.lifecycle_eq s, ← h.hasFinalizer_eq]
  exact hs

theorem Same.plannedOutcome_eq (h : Same o o') : o.plannedOutcome s = o'.plannedOutcome s := by
  simp only [plannedOutcome, h.lifecycle_eq s]

theorem Same.plannedCalls_eq (h : Same o o') :
    o.plannedCalls s (some o) = o'.plannedCalls s (some o') := by
  simp only [plannedCalls, h.lifecycle_eq s, h.hasFinalizer_eq, Option.any_some]

theorem hasEntryId_of_registered (h : o.lifecycle s = .registered) : o.hasEntryId s = true := by
  unfold lifecycle at h
  split at h
  · cases h
  · split at h
    · cases h
    · split at h
      · assumption
      · cases h

theorem Settled.registered (hs : Settled s o) (h : o.plannedOutcome s = .registered) :
    o.lifecycle s = .registered ∧ o.hasFinalizer s.finalizer = true := by
  rcases hs with hlife | ⟨hlife, -⟩ | hreg
  · simp [plannedOutcome, hlife] at h
  · simp [plannedOutcome, hlife] at h
  · exact hreg

theorem Settled.finalized (hs : Settled s o) (h : o.plannedOutcome s = .finalized) :
    o.lifecycle s = .pendingRevocation ∧ o.hasFinalizer s.finalizer = false := by
  rcases hs with hlife | hrev | ⟨hlife, -⟩
  · simp [plannedOutcome, hlife] at h
  · exact hrev
  · simp [plannedOutcome, hlife] at h

theorem Same.marks_of_registered (h : Same o' o) (hs : Settled s o)
    (hreg : o.plannedOutcome s = .registered) :
    o'.hasEntryId s = true ∧ o'.hasFinalizer s.finalizer = true := by
  obtain ⟨hlife, hf⟩ := hs.registered hreg
  exact ⟨hasEntryId_of_registered ((h.lifecycle_eq s).trans hlife), (h.hasFinalizer_eq _).trans hf⟩

theorem Settled.plannedCalls_of_finalized (hs : Settled s o)
    (h : o.plannedOutcome s = .finalized) :
    o.hasFinalizer s.finalizer = false ∧
      o.plannedCalls s (some o) = [.clusterContext, .revokeEntry] := by
  obtain ⟨hlife, hf⟩ := hs.finalized h
  refine ⟨hf, ?_⟩
  simp [Identity.plannedCalls, hlife, hf]

theorem Settled.quiet (hs : Settled s o) :
    CallKind.update ∉ CallKind.get :: o.plannedCalls s (some o) ∧
      CallKind.createEntry ∉ CallKind.get :: o.plannedCalls s (some o) := by
  rcases hs.plannedCalls with h | ⟨-, h⟩ <;> simp [h]

theorem plannedCalls_count_le (o : Identity) :
    (o.plannedCalls s (some o)).count .createEntry ≤ 1 ∧
      (o.plannedCalls s (some o)).count .update ≤ 2 := by
  unfold plannedCalls
  cases hf : o.hasFinalizer s.finalizer <;> split <;> simp [hf]

end Identity

/-! ## Collaborators that persist what is written -/

/-- Collaborators of a store that holds the account at `ns/name`, the account
`view w` in the world `w`, and persists what is written to it, handing the stored
account back; every other call goes through and leaves the account alone, the
registry names each new entry with a non-empty id, time passing leaves the
account alone, and the deadline never stops a reconcile. -/
structure Collaborators.Persists {W : Type} (c : Collaborators W) (ns name : String)
    (view : W → Identity) : Prop where
  get : ∀ t o, Settles view o (c.get ns name t) fun a o' => a = some o ∧ o' = o
  update : ∀ body t o, Settles view o (c.update body t) fun a o' =>
    a = o' ∧ Identity.Same o' { o with annotations := body.annotations, finalizers := body.finalizers }
  clusterContext : ∀ t o, Settles view o (c.clusterContext t) fun _ o' => o' = o
  adminCredential : ∀ t o, Settles view o (c.adminCredential t) fun _ o' => o' = o
  createEntry : ∀ req t o, Settles view o (c.createEntry req t) fun id o' => id ≠ "" ∧ o' = o
  revokeEntry : ∀ req t o, Settles view o (c.revokeEntry req t) fun _ o' => o' = o
  elapse : ∀ w, view (c.elapse w) = view w
  live : ∀ w, (c.deadline w).check (c.clock w) = .ok ()

namespace Collaborators

variable {W : Type} (c : Collaborators W) (s : Settings) {ns name : String} {view : W → Identity}

theorem settles_guardedTimeout (hc : c.Persists ns name view) (v : Identity × List Exchange) :
    Settles (Settles.withLog view) v (c.traced.guardedTimeout s) fun _ v' => v' = v := by
  rintro ⟨w, l⟩ rfl
  -- the check is made after time has passed, which keeps the deadline
  have hcheck : (c.deadline w).check (c.clock (c.elapse w)) = .ok () := by
    rw [← c.deadline_elapse w]
    exact hc.live _
  rw [c.traced_guardedTimeout_exec, c.guardedTimeout_exec_ok s hcheck]
  refine ⟨_, rfl, ?_⟩
  simp only [Settles.withLog, hc.elapse]

theorem settles_write (hc : c.Persists ns name view) (due : Bool) (body : Identity)
    (out : Lifecycle) (o : Identity) (l : List Exchange) :
    Settles (Settles.withLog view) (o, l)
      (if due = true then do
        let _ ← c.traced.update body (← c.traced.guardedTimeout s)
        pure out
      else pure out)
      fun r p => r = out ∧ ∃ L, p.2 = l ++ L ∧
        ((due = true ∧ Exchange.calls L = [.update] ∧
            Identity.Same p.1 { o with annotations := body.annotations, finalizers := body.finalizers }) ∨
          (due = false ∧ L = [] ∧ p.1 = o)) := by
  cases due with
  | false =>
      rw [if_neg Bool.false_ne_true]
      exact Settles.pure ⟨rfl, [], (List.append_nil l).symm, .inr ⟨rfl, rfl, rfl⟩⟩
  | true =>
      rw [if_pos rfl]
      refine Settles.bind (c.settles_guardedTimeout s hc _) fun t p hp => ?_
      subst hp
      refine Settles.bind ((hc.update body t o).logging _ l) fun a p hp => ?_
      obtain ⟨⟨-, hsame⟩, hlog⟩ := hp
      exact Settles.pure ⟨rfl, _, hlog, .inl ⟨rfl, rfl, hsame⟩⟩

theorem settles_ensureFinalizer (hc : c.Persists ns name view) (o : Identity) (l : List Exchange) :
    Settles (Settles.withLog view) (o, l) (c.traced.ensureFinalizer s o) fun r p =>
      r = .registered ∧ Identity.Same p.1 (o.addFinalizer s.finalizer) ∧
      ∃ L, p.2 = l ++ L ∧
        Exchange.calls L = if o.hasFinalizer s.finalizer then [] else [.update] := by
  refine (c.settles_write s hc (!o.hasFinalizer s.finalizer) (o.addFinalizer s.finalizer)
    .registered o l).mono ?_
  rintro r p ⟨rfl, L, hlog, ⟨hdue, hcalls, hsame⟩ | ⟨hdue, rfl, hview⟩⟩
  · -- the finalizer was missing, and the write added it
    have hf : o.hasFinalizer s.finalizer = false := by simpa using hdue
    refine ⟨rfl, hsame, L, hlog, ?_⟩
    rw [hcalls, hf]
    rfl
  · have hf : o.hasFinalizer s.finalizer = true := by simpa using hdue
    refine ⟨rfl, ?_, [], hlog, ?_⟩
    · rw [hview, Identity.addFinalizer_eq_self hf]
      exact .refl _
    · rw [hf]
      rfl

theorem settles_revoke (hc : c.Persists ns name view) (o : Identity) (l : List Exchange) :
    Settles (Settles.withLog view) (o, l) (c.traced.revoke s o) fun r p =>
      r = .finalized ∧ Identity.Same p.1 (o.removeFinalizer s.finalizer) ∧
      ∃ L, p.2 = l ++ L ∧ Exchange.calls L =
        [.clusterContext, .revokeEntry] ++ if o.hasFinalizer s.finalizer then [.update] else [] := by
  unfold revoke
  refine Settles.bind (c.settles_guardedTimeout s hc _) fun t p hp => ?_
  subst hp
  refine Settles.bind ((hc.clusterContext t o).logging _ l) fun ctx p hp => ?_
  obtain ⟨o₁, l₁⟩ := p
  dsimp only at hp
  obtain ⟨rfl, rfl⟩ := hp
  refine Settles.bind (c.settles_guardedTimeout s hc _) fun t' p hp => ?_
  subst hp
  refine Settles.bind ((hc.revokeEntry _ t' o₁).logging _ _) fun u p hp => ?_
  obtain ⟨o₂, l₂⟩ := p
  dsimp only at hp
  obtain ⟨rfl, rfl⟩ := hp
  refine (c.settles_write s hc (o₂.hasFinalizer s.finalizer) (o₂.removeFinalizer s.finalizer)
    .finalized o₂ _).mono ?_
  rintro r p ⟨rfl, L, hlog, ⟨hdue, hcalls, hsame⟩ | ⟨hdue, rfl, hview⟩⟩
  all_goals simp only [List.append_assoc, List.cons_append, List.nil_append,
    List.append_nil] at hlog
  · exact ⟨rfl, hsame, _, hlog, by simp [Exchange.kind?, hcalls, hdue]⟩
  · refine ⟨rfl, ?_, _, hlog, by simp [Exchange.kind?, hdue]⟩
    rw [hview, Identity.removeFinalizer_eq_self hdue]
    exact .refl _

theorem settles_credentialOrNone (hc : c.Persists ns name view) (o : Identity) (l : List Exchange) :
    Settles (Settles.withLog view) (o, l) (c.traced.credentialOrNone s) fun _ p =>
      p.1 = o ∧ ∃ L, p.2 = l ++ L ∧ Exchange.calls L = [.adminCredential] := by
  unfold credentialOrNone
  refine Settles.tryCatch ?_
  refine Settles.bind (c.settles_guardedTimeout s hc _) fun t p hp => ?_
  subst hp
  refine ((hc.adminCredential t o).logging _ l).mono ?_
  rintro cred p ⟨hview, hlog⟩
  exact ⟨hview, _, hlog, rfl⟩

theorem settles_register (hc : c.Persists ns name view) (o : Identity) (l : List Exchange) :
    Settles (Settles.withLog view) (o, l) (c.traced.register s o) fun r p =>
      r = .registered ∧
      (∃ id, id ≠ "" ∧ Identity.Same p.1
        (( o.setAnnotation s.entryIdAnnotation (.str id)).addFinalizer s.finalizer)) ∧
      ∃ L, p.2 = l ++ L ∧ Exchange.calls L =
        [.clusterContext, .adminCredential, .createEntry, .update] ++
          if o.hasFinalizer s.finalizer then [] else [.update] := by
  unfold register
  refine Settles.bind (c.settles_guardedTimeout s hc _) fun t p hp => ?_
  subst hp
  refine Settles.bind ((hc.clusterContext t o).logging _ l) fun ctx p hp => ?_
  obtain ⟨o₁, l₁⟩ := p
  dsimp only at hp
  obtain ⟨rfl, rfl⟩ := hp
  refine Settles.bind (c.settles_credentialOrNone s hc o₁ _) fun cred p hp => ?_
  obtain ⟨o₂, l₂⟩ := p
  dsimp only at hp
  obtain ⟨rfl, L₁, rfl, hL₁⟩ := hp
  refine Settles.bind (c.settles_guardedTimeout s hc _) fun t' p hp => ?_
  subst hp
  refine Settles.bind ((hc.createEntry _ t' o₂).logging _ _) fun id p hp => ?_
  obtain ⟨o₃, l₃⟩ := p
  dsimp only at hp
  obtain ⟨⟨hid, rfl⟩, rfl⟩ := hp
  refine Settles.bind ((hc.update _ _ o₃).logging _ _) fun o' p hp => ?_
  obtain ⟨o₄, l₄⟩ := p
  dsimp only at hp
  obtain ⟨⟨rfl, hsame⟩, rfl⟩ := hp
  refine (c.settles_ensureFinalizer s hc o' _).mono ?_
  rintro r p ⟨rfl, hsame', L, hlog, hcalls⟩
  -- the write recording the id kept the finalizers of the account read
  have hf : o'.hasFinalizer s.finalizer = o₃.hasFinalizer s.finalizer :=
    hsame.hasFinalizer_eq s.finalizer
  simp only [List.append_assoc, List.cons_append] at hlog
  refine ⟨rfl, ⟨id, hid, hsame'.trans (hsame.addFinalizer _)⟩, _, hlog, ?_⟩
  rw [← hf]
  simp [Exchange.kind?, hL₁, hcalls]

theorem settles_reconcile (hc : c.Persists ns name view) (o : Identity) (l : List Exchange) :
    Settles (Settles.withLog view) (o, l) (c.traced.reconcile s ns name) fun r p =>
      r = some (o.plannedOutcome s) ∧
      (∃ id, (o.lifecycle s = .pendingRegistration → id ≠ "") ∧
        Identity.Same p.1 (o.reconciledWith s id)) ∧
      ∃ L, p.2 = l ++ L ∧ Exchange.calls L = .get :: o.plannedCalls s (some o) := by
  unfold reconcile
  refine Settles.bind (c.settles_guardedTimeout s hc _) fun t p hp => ?_
  subst hp
  refine Settles.bind ((hc.get t o).logging _ l) fun x p hp => ?_
  obtain ⟨o₁, l₁⟩ := p
  dsimp only at hp
  obtain ⟨⟨rfl, rfl⟩, rfl⟩ := hp
  dsimp only
  cases hlife : o₁.lifecycle s with
  | unmanaged =>
      refine Settles.pure ⟨?_, ⟨"", (fun h => by cases h), ?_⟩, [_], rfl, ?_⟩
      · simp [Identity.plannedOutcome, hlife]
      · simp only [Identity.reconciledWith, hlife]
        exact .refl _
      · simp [Exchange.kind?, Identity.plannedCalls, hlife]
  | pendingRevocation =>
      refine Settles.bind (c.settles_revoke s hc o₁ _) fun r p hp => Settles.pure ?_
      obtain ⟨rfl, hsame, L, hlog, hcalls⟩ := hp
      rw [List.append_assoc, List.singleton_append] at hlog
      refine ⟨by simp [Identity.plannedOutcome, hlife],
        ⟨"", (fun h => by cases h), ?_⟩, _, hlog, ?_⟩
      · simpa only [Identity.reconciledWith, hlife] using hsame
      · simp [Exchange.kind?, hcalls, Identity.plannedCalls, hlife]
  | registered =>
      refine Settles.bind (c.settles_ensureFinalizer s hc o₁ _) fun r p hp => Settles.pure ?_
      obtain ⟨rfl, hsame, L, hlog, hcalls⟩ := hp
      rw [List.append_assoc, List.singleton_append] at hlog
      refine ⟨by simp [Identity.plannedOutcome, hlife],
        ⟨"", (fun h => by cases h), ?_⟩, _, hlog, ?_⟩
      · simpa only [Identity.reconciledWith, hlife] using hsame
      · simp [Exchange.kind?, hcalls, Identity.plannedCalls, hlife]
  | pendingRegistration =>
      refine Settles.bind (c.settles_register s hc o₁ _) fun r p hp => Settles.pure ?_
      obtain ⟨rfl, ⟨id, hid, hsame⟩, L, hlog, hcalls⟩ := hp
      rw [List.append_assoc, List.singleton_append] at hlog
      refine ⟨by simp [Identity.plannedOutcome, hlife], ⟨id, fun _ => hid, ?_⟩, _, hlog, ?_⟩
      · simpa only [Identity.reconciledWith, hlife] using hsame
      · cases hf : o₁.hasFinalizer s.finalizer <;>
          simp [Exchange.kind?, hcalls, Identity.plannedCalls, hlife, hf]
  | finalized => exact absurd hlife (o₁.lifecycle_ne_finalized s)

/-! ## Reconciling again -/

theorem reconciled_persists (hc : c.Persists ns name view) (w : W) :
    (c.reconciled s ns name w).1.result = .ok (some ((view w).plannedOutcome s)) ∧
    (∃ id, ((view w).lifecycle s = .pendingRegistration → id ≠ "") ∧
      Identity.Same (view (c.reconciled s ns name w).2) ((view w).reconciledWith s id)) ∧
    Exchange.calls (c.reconciled s ns name w).1.log =
      .get :: (view w).plannedCalls s (some (view w)) := by
  obtain ⟨r, hexec, rfl, hview, L, hlog, hcalls⟩ :=
    c.settles_reconcile s hc (view w) [] (w, []) rfl
  refine ⟨hexec, hview, ?_⟩
  have hL : (c.reconciled s ns name w).1.log = L := hlog
  rw [hL, hcalls]

theorem reconciled_settled (hc : c.Persists ns name view)
    (hkeys : s.managedAnnotation ≠ s.entryIdAnnotation) (w : W) :
    (view (c.reconciled s ns name w).2).Settled s ∧
      (view (c.reconciled s ns name w).2).plannedOutcome s = (view w).plannedOutcome s := by
  obtain ⟨-, ⟨id, hid, hsame⟩, -⟩ := c.reconciled_persists s hc w
  refine ⟨hsame.symm.settled (Identity.settled_reconciledWith hkeys hid), ?_⟩
  rw [hsame.plannedOutcome_eq]
  exact Identity.plannedOutcome_reconciledWith hkeys hid

theorem session_of_settled (hc : c.Persists ns name view) (n : Nat) (w : W)
    (hs : (view w).Settled s) :
    (∀ x ∈ (c.session s (List.replicate n (.reconcile ns name)) w).1,
      x.result = .ok (some ((view w).plannedOutcome s)) ∧
      Exchange.calls x.log = .get :: (view w).plannedCalls s (some (view w))) ∧
    Identity.Same (view (c.session s (List.replicate n (.reconcile ns name)) w).2) (view w) := by
  induction n generalizing w with
  | zero => exact ⟨by simp [session], .refl _⟩
  | succ n ih =>
      obtain ⟨hres, ⟨id, -, hsame⟩, hcalls⟩ := c.reconciled_persists s hc w
      -- the reconcile left the settled account as it found it
      rw [hs.reconciledWith_eq] at hsame
      obtain ⟨hrest, hend⟩ := ih _ (hsame.symm.settled hs)
      refine ⟨fun x hx => ?_, hend.trans hsame⟩
      rcases List.mem_cons.1 hx with rfl | hx
      · exact ⟨hres, hcalls⟩
      · rw [← hsame.plannedOutcome_eq, ← hsame.plannedCalls_eq]
        exact hrest x hx

theorem session_of_settled_quiet (hc : c.Persists ns name view) (n : Nat) (w : W)
    (hs : (view w).Settled s) :
    ∀ x ∈ (c.session s (List.replicate n (.reconcile ns name)) w).1,
      CallKind.update ∉ Exchange.calls x.log ∧ CallKind.createEntry ∉ Exchange.calls x.log := by
  intro x hx
  rw [((c.session_of_settled s hc n w hs).1 x hx).2]
  exact hs.quiet

theorem sum_count_eq_zero {xs : List Reconciled} {k : CallKind}
    (h : ∀ x ∈ xs, k ∉ Exchange.calls x.log) :
    (xs.map fun x => (Exchange.calls x.log).count k).sum = 0 := by
  refine List.sum_eq_zero_iff_forall_eq_nat.2 fun a ha => ?_
  obtain ⟨x, hx, rfl⟩ := List.mem_map.1 ha
  exact List.count_eq_zero.2 (h x hx)

/-- Reconciling an account `n ≥ 1` times against collaborators that persist what
is written, with nothing else writing in between, is idempotent. Every run ends as
the first; the account keeps the annotations and finalizers one reconcile left;
only the first run writes or creates. An account that ends registered carries an
entry id and the finalizer, after at most one creation and two writes in all; one
that ends finalized no longer carries the finalizer, and later runs only revoke
its entry again. -/
theorem reconcile_idempotent (hc : c.Persists ns name view)
    (hkeys : s.managedAnnotation ≠ s.entryIdAnnotation) (w : W) (n : Nat) (hn : 1 ≤ n) :
    let once := c.reconciled s ns name w
    let runs := c.session s (List.replicate n (.reconcile ns name)) w
    once.1.result = .ok (some ((view w).plannedOutcome s)) ∧
    (∀ x ∈ runs.1, x.result = once.1.result) ∧
    (view runs.2).annotations = (view once.2).annotations ∧
    (view runs.2).finalizers = (view once.2).finalizers ∧
    (∀ x ∈ runs.1.tail, CallKind.update ∉ Exchange.calls x.log ∧
      CallKind.createEntry ∉ Exchange.calls x.log) ∧
    (once.1.result = .ok (some .registered) →
      (view runs.2).hasEntryId s = true ∧ (view runs.2).hasFinalizer s.finalizer = true ∧
      (runs.1.map fun x => (Exchange.calls x.log).count .createEntry).sum ≤ 1 ∧
      (runs.1.map fun x => (Exchange.calls x.log).count .update).sum ≤ 2) ∧
    (once.1.result = .ok (some .finalized) →
      (view runs.2).hasFinalizer s.finalizer = false ∧
      ∀ x ∈ runs.1.tail, Exchange.calls x.log = [.get, .clusterContext, .revokeEntry]) := by
  intro once runs
  obtain ⟨m, rfl⟩ : ∃ m, n = m + 1 := ⟨n - 1, by omega⟩
  obtain ⟨hres, -, hcalls⟩ : once.1.result = _ ∧ _ ∧ Exchange.calls once.1.log = _ :=
    c.reconciled_persists s hc w
  obtain ⟨hsettled, hout⟩ : (view once.2).Settled s ∧ (view once.2).plannedOutcome s = _ :=
    c.reconciled_settled s hc hkeys w
  -- the later runs reconcile the settled account the first one left
  let rest := c.session s (List.replicate m (.reconcile ns name)) once.2
  have hruns : runs = (once.1 :: rest.1, rest.2) := rfl
  obtain ⟨hrest, hend⟩ := c.session_of_settled s hc m once.2 hsettled
  have hquiet := c.session_of_settled_quiet s hc m once.2 hsettled
  -- so a count of writes or creations over all runs is that of the first
  have hcount : ∀ k, (∀ x ∈ rest.1, k ∉ Exchange.calls x.log) →
      (runs.1.map fun x => (Exchange.calls x.log).count k).sum =
        (Exchange.calls once.1.log).count k := by
    intro k hk
    rw [hruns, List.map_cons, List.sum_cons, sum_count_eq_zero hk, Nat.add_zero]
  have hplanned : ∀ l, once.1.result = .ok (some l) → (view once.2).plannedOutcome s = l :=
    fun l h => hout.trans (Option.some.inj (Except.ok.inj (hres.symm.trans h)))
  refine ⟨hres, ?_, by rw [hruns, hend.annotations], by rw [hruns, hend.finalizers],
    by rw [hruns]; exact hquiet, fun hreg => ?_, fun hfin => ?_⟩
  · intro x hx
    rw [hruns] at hx
    rcases List.mem_cons.1 hx with rfl | hx
    · rfl
    · rw [(hrest x hx).1, hout, hres]
  · have hbound := Identity.plannedCalls_count_le (s := s) (view w)
    obtain ⟨hentry, hf⟩ := hend.marks_of_registered hsettled (hplanned _ hreg)
    refine ⟨hentry, hf, ?_, ?_⟩
    · rw [hcount _ fun x hx => (hquiet x hx).2, hcalls]
      simpa using hbound.1
    · rw [hcount _ fun x hx => (hquiet x hx).1, hcalls]
      simpa using hbound.2
  · obtain ⟨hf, hrevoke⟩ := hsettled.plannedCalls_of_finalized (hplanned _ hfin)
    refine ⟨(hend.hasFinalizer_eq _).trans hf, fun x hx => ?_⟩
    rw [hruns] at hx
    rw [(hrest x hx).2, hrevoke]

/-- Collaborators over the stored account itself: a read finds it, a write stores
the annotations and finalizers it is given at a new version and hands the stored
account back, the registry names each new entry `entry`, and every other call goes
through. -/
def store (entry : String) : Collaborators Identity where
  get _ _ _ := do return some (← getThe Identity)
  update body _ := do
    let o ← getThe Identity
    let o' := { o with
      annotations := body.annotations, finalizers := body.finalizers,
      resourceVersion := o.resourceVersion.map (· ++ "0") }
    set o'
    return o'
  clusterContext _ := pure ⟨"cluster", "example.org"⟩
  adminCredential _ := pure "admin"
  createEntry _ _ := pure entry
  revokeEntry _ _ := pure ()
  countFallback o := o
  deadline _ := .unlimited
  clock _ := 0

theorem store_persists (ns name entry : String) (hentry : entry ≠ "") :
    (store entry).Persists ns name id := by
  refine ⟨?_, ?_, ?_, ?_, ?_, ?_, fun _ => rfl, fun _ => rfl⟩
  · rintro t o w rfl
    exact ⟨some w, rfl, rfl, rfl⟩
  · rintro body t o w rfl
    exact ⟨_, rfl, rfl, ⟨rfl, rfl, rfl, rfl, rfl⟩⟩
  · rintro t o w rfl
    exact ⟨_, rfl, rfl⟩
  · rintro t o w rfl
    exact ⟨_, rfl, rfl⟩
  · rintro req t o w rfl
    exact ⟨_, rfl, hentry, rfl⟩
  · rintro req t o w rfl
    exact ⟨_, rfl, rfl⟩

/-- Three reconciles of an account that asks to be managed, against a store that
persists what is written: each ends registered, the account ends with an entry id
and the finalizer, and one entry was created in all. -/
theorem repeated_registration_settles :
    let s : Settings := {}
    let c := store "entry-1"
    let o := Identity.sample s "true" [] false
    let runs := c.session s (List.replicate 3 (.reconcile "default" "web")) o
    c.Persists "default" "web" id ∧ s.managedAnnotation ≠ s.entryIdAnnotation ∧
      (∀ x ∈ runs.1, x.result = .ok (some .registered)) ∧
      runs.2.hasEntryId s = true ∧ runs.2.hasFinalizer s.finalizer = true ∧
      (runs.1.map fun x => (Exchange.calls x.log).count .createEntry).sum ≤ 1 := by
  intro s c o runs
  have hc : c.Persists "default" "web" id := store_persists _ _ _ (by decide)
  have hkeys : s.managedAnnotation ≠ s.entryIdAnnotation := by decide
  obtain ⟨hres, hsame, -, -, -, hreg, -⟩ := c.reconcile_idempotent s hc hkeys o 3 (by decide)
  have hregistered : (c.reconciled s "default" "web" o).1.result = .ok (some .registered) :=
    hres.trans rfl
  obtain ⟨hentry, hf, hcreated, -⟩ := hreg hregistered
  exact ⟨hc, hkeys, fun x hx => (hsame x hx).trans hregistered, hentry, hf, hcreated⟩

end Collaborators

end SpireEnroll
