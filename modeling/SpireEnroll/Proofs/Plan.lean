import SpireEnroll.Proofs.Writes

/-!
# The plan of a reconcile

Once a reconcile has read its account, the account's lifecycle state fixes the
calls it is to make (`Exchange.planned`): nothing more for an account that is
missing or not managed; a write adding the finalizer to a registered account that
lacks it; the cluster context, the revocation, and a write releasing the
finalizer when it is held, for an account being deleted; and for an account to
register, the cluster context, the credential, the creation, the write recording
the new entry's id, and a write adding the finalizer when the account that write
handed back lacks it.

The main result, `reconcile_follows_plan`, says that every reconcile, whatever
its collaborators answer, makes a prefix of these calls in this order
(`FollowsPlan`): all of them exactly when none fails, and it then ends in the
state the plan leads to, never in a pending one; otherwise it stops at the first
failing call, passing its error on unchanged, or at a deadline check. A
credential lookup that finds no credential is the one failure a reconcile goes on
from.
-/

namespace SpireEnroll

/-- The collaborators a reconcile calls. -/
inductive CallKind where
  | get
  | update
  | clusterContext
  | adminCredential
  | createEntry
  | revokeEntry
deriving DecidableEq, Repr

namespace Exchange

def kind? : Exchange → Option CallKind
  | .get .. => some .get
  | .update .. => some .update
  | .clusterContext .. => some .clusterContext
  | .adminCredential .. => some .adminCredential
  | .createEntry .. => some .createEntry
  | .revokeEntry .. => some .revokeEntry
  | .countFallback => none

/-- The calls of a log, in order. -/
def calls (log : List Exchange) : List CallKind :=
  log.filterMap kind?

def error? : Exchange → Option OperatorError
  | .get _ _ _ (.error e) | .update _ _ (.error e) | .clusterContext _ (.error e)
  | .adminCredential _ (.error e) | .createEntry _ _ (.error e)
  | .revokeEntry _ _ (.error e) => some e
  | _ => none

/-- Whether a call failed in a way that ends a reconcile: every failure but that
of a credential lookup that finds no credential. -/
def fails : Exchange → Bool
  | .get _ _ _ (.error _) | .update _ _ (.error _) | .clusterContext _ (.error _)
  | .createEntry _ _ (.error _) | .revokeEntry _ _ (.error _) => true
  | .adminCredential _ (.error e) => e.kind != .credentialLookup
  | _ => false

/-- The account the read at the head of a log found. -/
def read? : List Exchange → Option Identity
  | .get _ _ _ (.ok o) :: _ => o
  | _ => none

def recorded? : List Exchange → Option Identity
  | [] => none
  | u :: l =>
    match u, l with
    | .createEntry _ _ (.ok _), .update _ _ (.ok o) :: _ => some o
    | _, _ => recorded? l

@[simp] theorem calls_nil : calls [] = [] := rfl

@[simp] theorem calls_cons (u : Exchange) (l : List Exchange) :
    calls (u :: l) = u.kind?.toList ++ calls l := by
  cases h : u.kind? <;> simp [calls, h]

@[simp] theorem calls_append (l l' : List Exchange) : calls (l ++ l') = calls l ++ calls l' :=
  List.filterMap_append

end Exchange

namespace Identity

def plannedCalls (s : Settings) (o : Identity) (recorded : Option Identity) : List CallKind :=
  match o.lifecycle s with
  | .unmanaged => []
  | .registered => if o.hasFinalizer s.finalizer then [] else [.update]
  | .pendingRevocation =>
    [.clusterContext, .revokeEntry] ++ if o.hasFinalizer s.finalizer then [.update] else []
  | .pendingRegistration | .finalized =>
    [.clusterContext, .adminCredential, .createEntry, .update] ++
      if recorded.any (!·.hasFinalizer s.finalizer) then [.update] else []

/-- The state a reconcile that read `o` ends in. -/
def plannedOutcome (s : Settings) (o : Identity) : Lifecycle :=
  match o.lifecycle s with
  | .unmanaged => .unmanaged
  | .pendingRevocation => .finalized
  | .registered | .pendingRegistration | .finalized => .registered

theorem plannedOutcome_ne_pending (s : Settings) (o : Identity) :
    o.plannedOutcome s ≠ .pendingRegistration ∧ o.plannedOutcome s ≠ .pendingRevocation := by
  unfold plannedOutcome
  split <;> exact ⟨nofun, nofun⟩

end Identity

/-- The calls planned for a reconcile that left `log`: the read, then what the
account it found asks for. -/
def Exchange.planned (s : Settings) (log : List Exchange) : List CallKind :=
  .get :: ((Exchange.read? log).map fun o => o.plannedCalls s (Exchange.recorded? log)).getD []

/-! ## Following a plan -/

/-- A log follows a plan when its calls are a prefix of the plan, the run ended
normally exactly when it made every planned call and none of them failed, and a
run that failed did so at its last call, passing that call's error on, or at a
deadline check. -/
structure FollowsPlan {α : Type} (plan : List CallKind) (log : List Exchange)
    (r : Except OperatorError α) : Prop where
  within : Exchange.calls log <+: plan
  ok_iff : (∃ v, r = .ok v) ↔ Exchange.calls log = plan ∧ ∀ u ∈ log, u.fails = false
  stops : ∀ e, r = .error e →
    (∃ pre u, log = pre ++ [u] ∧ (∀ u' ∈ pre, u'.fails = false) ∧ u.fails = true ∧
        u.error? = some e) ∨
      (e.IsDeadline ∧ ∀ u ∈ log, u.fails = false)

namespace FollowsPlan

variable {α β : Type} {plan : List CallKind} {log : List Exchange} {r : Except OperatorError α}

theorem done (v : α) : FollowsPlan [] [] (.ok v) where
  within := List.nil_prefix
  ok_iff := by simp
  stops := fun _ h => by cases h

theorem expired {e : OperatorError} (he : e.IsDeadline) (hplan : plan ≠ []) :
    FollowsPlan plan [] (.error (α := α) e) where
  within := List.nil_prefix
  ok_iff := by simpa using hplan.symm
  stops := fun _ h => by
    cases h
    exact .inr ⟨he, List.forall_mem_nil _⟩

theorem failed {u : Exchange} {k : CallKind} {e : OperatorError} (hk : u.kind? = some k)
    (hu : u.fails = true) (he : u.error? = some e) :
    FollowsPlan (k :: plan) [u] (.error (α := α) e) where
  within := by simp [hk]
  ok_iff := by simp [hu]
  stops := fun _ h => by
    cases h
    exact .inl ⟨[], u, rfl, List.forall_mem_nil _, hu, he⟩

theorem append_passed (pre : List Exchange) (done : List CallKind)
    (hcalls : Exchange.calls pre = done) (hpass : ∀ u ∈ pre, u.fails = false)
    (h : FollowsPlan plan log r) : FollowsPlan (done ++ plan) (pre ++ log) r where
  within := by
    rw [Exchange.calls_append, hcalls]
    exact (List.prefix_append_right_inj done).2 h.within
  ok_iff := by
    rw [h.ok_iff, Exchange.calls_append, hcalls, List.append_cancel_left_eq]
    simp only [List.mem_append]
    constructor
    · rintro ⟨hc, hl⟩
      exact ⟨hc, fun u hu => hu.elim (hpass u) (hl u)⟩
    · rintro ⟨hc, hl⟩
      exact ⟨hc, fun u hu => hl u (.inr hu)⟩
  stops := fun e he => by
    rcases h.stops e he with ⟨pre', u, rfl, hpre', hu, hue⟩ | ⟨hdl, hl⟩
    · refine .inl ⟨pre ++ pre', u, by rw [List.append_assoc], ?_, hu, hue⟩
      intro u' hu'
      rcases List.mem_append.1 hu' with hu' | hu'
      · exact hpass u' hu'
      · exact hpre' u' hu'
    · refine .inr ⟨hdl, fun u hu => ?_⟩
      rcases List.mem_append.1 hu with hu | hu
      · exact hpass u hu
      · exact hl u hu

theorem cons {u : Exchange} {k : CallKind} (hk : u.kind? = some k) (hu : u.fails = false)
    (h : FollowsPlan plan log r) : FollowsPlan (k :: plan) (u :: log) r :=
  append_passed [u] [k] (by simp [hk]) (by simpa using hu) h

theorem map (f : α → β) (h : FollowsPlan plan log r) : FollowsPlan plan log (r.map f) where
  within := h.within
  ok_iff := by
    rw [← h.ok_iff]
    cases r <;> simp [Except.map]
  stops := fun e he => h.stops e (Except.map_eq_error.1 he)

end FollowsPlan

/-! ## Each branch follows its plan -/

theorem WriteLog.follows {due : Bool} {body : Identity} {out : Lifecycle} {L : List Exchange}
    {r : Except OperatorError Lifecycle} (h : WriteLog due body out L r) :
    FollowsPlan (if due then [.update] else []) L r := by
  cases h with
  | skipped hdue =>
      rw [hdue]
      exact .done out
  | expired hdue he =>
      rw [hdue]
      exact .expired he (by simp)
  | @written t a hdue =>
      rw [hdue]
      cases a with
      | error e => exact .failed rfl rfl rfl
      | ok o' => exact .cons rfl rfl (.done out)

theorem WriteLog.eq_of_ok {due : Bool} {body : Identity} {out v : Lifecycle} {L : List Exchange}
    {r : Except OperatorError Lifecycle} (h : WriteLog due body out L r) (hr : r = .ok v) :
    v = out := by
  cases h with
  | skipped _ =>
      cases hr
      rfl
  | expired _ _ => cases hr
  | @written t a _ =>
      cases a with
      | error e => cases hr
      | ok o' =>
          cases hr
          rfl

theorem CredentialLog.follows_of_error {α : Type} {L : List Exchange} {e : OperatorError}
    (h : CredentialLog L (.error e)) (rest : List CallKind) :
    FollowsPlan (.adminCredential :: rest) L (.error (α := α) e) := by
  cases h with
  | expired he => exact .expired he (List.cons_ne_nil _ _)
  | failed hk => exact .failed rfl (by simpa [Exchange.fails] using hk) rfl

theorem CredentialLog.passed_of_ok {L : List Exchange} {cred : String}
    (h : CredentialLog L (.ok cred)) :
    Exchange.calls L = [.adminCredential] ∧ ∀ u ∈ L, u.fails = false := by
  cases h with
  | found => simp [Exchange.kind?, Exchange.fails]
  | fallback hk => simp [Exchange.kind?, Exchange.fails, hk]

theorem CredentialLog.recorded?_append {L : List Exchange} {r : Except OperatorError String}
    (h : CredentialLog L r) (M : List Exchange) :
    Exchange.recorded? (L ++ M) = Exchange.recorded? M := by
  cases h <;> rfl

theorem RevokeLog.follows {s : Settings} {o : Identity} {L : List Exchange}
    {r : Except OperatorError Lifecycle} (h : RevokeLog s o L r) :
    FollowsPlan ([.clusterContext, .revokeEntry] ++
      if o.hasFinalizer s.finalizer then [.update] else []) L r := by
  cases h with
  | expired he => exact .expired he (by simp)
  | contextFailed => exact .failed rfl rfl rfl
  | expiredAfterContext he => exact .cons rfl rfl (.expired he (by simp))
  | revokeFailed => exact .cons rfl rfl (.failed rfl rfl rfl)
  | revoked hw => exact .cons rfl rfl (.cons rfl rfl hw.follows)

theorem RevokeLog.eq_of_ok {s : Settings} {o : Identity} {L : List Exchange} {v : Lifecycle}
    (h : RevokeLog s o L (.ok v)) : v = .finalized := by
  cases h with
  | revoked hw => exact hw.eq_of_ok rfl

theorem RegisterLog.follows {s : Settings} {o : Identity} {L : List Exchange}
    {r : Except OperatorError Lifecycle} (h : RegisterLog s o L r) :
    FollowsPlan ([.clusterContext, .adminCredential, .createEntry, .update] ++
      if (Exchange.recorded? L).any (!·.hasFinalizer s.finalizer) then [.update] else []) L r := by
  cases h with
  | expired he => exact .expired he (by simp)
  | contextFailed => exact .failed rfl rfl rfl
  | credentialFailed hc => exact .cons rfl rfl (hc.follows_of_error _)
  | @expiredBeforeCreate t ctx L cred e hc he =>
      obtain ⟨hcalls, hpass⟩ := hc.passed_of_ok
      refine .cons rfl rfl ?_
      rw [← List.append_nil L]
      exact .append_passed _ [.adminCredential] hcalls hpass (.expired he (by simp))
  | createFailed hc =>
      obtain ⟨hcalls, hpass⟩ := hc.passed_of_ok
      exact .cons rfl rfl
        (.append_passed _ [.adminCredential] hcalls hpass (.failed rfl rfl rfl))
  | recordFailed hc =>
      obtain ⟨hcalls, hpass⟩ := hc.passed_of_ok
      exact .cons rfl rfl (.append_passed _ [.adminCredential] hcalls hpass
        (.cons rfl rfl (.failed rfl rfl rfl)))
  | @recorded t t' ctx L M cred id o' r hc hw =>
      obtain ⟨hcalls, hpass⟩ := hc.passed_of_ok
      -- the write after the creation handed `o'` back, and the plan's last write is due on it
      have hrec : Exchange.recorded? (.clusterContext t (.ok ctx) :: (L ++
          .createEntry (.build ctx o cred) t' (.ok id) ::
          .update ( o.setAnnotation s.entryIdAnnotation (.str id)) (some s.requestTimeout.seconds)
            (.ok o') :: M)) = some o' := by
        change Exchange.recorded? (L ++ _) = _
        rw [hc.recorded?_append]
        rfl
      rw [hrec, Option.any_some]
      exact .cons rfl rfl (.append_passed _ [.adminCredential] hcalls hpass
        (.cons rfl rfl (.cons rfl rfl hw.follows)))

theorem RegisterLog.eq_of_ok {s : Settings} {o : Identity} {L : List Exchange} {v : Lifecycle}
    (h : RegisterLog s o L (.ok v)) : v = .registered := by
  cases h with
  | recorded _ hw => exact hw.eq_of_ok rfl

theorem ReconcileLog.follows_plan {s : Settings} {ns name : String} {L : List Exchange}
    {r : Except OperatorError (Option Lifecycle)} (h : ReconcileLog s ns name L r) :
    FollowsPlan (Exchange.planned s L) L r ∧
      ∀ v, r = .ok v → v = (Exchange.read? L).map (·.plannedOutcome s) := by
  cases h with
  | expired he => exact ⟨.expired he (List.cons_ne_nil _ _), nofun⟩
  | readFailed => exact ⟨.failed rfl rfl rfl, nofun⟩
  | missing =>
      refine ⟨.cons rfl rfl (.done none), ?_⟩
      rintro v ⟨⟩
      rfl
  | @unmanaged t o hlife =>
      have hplan : Exchange.planned s [.get ns name t (.ok (some o))] = [.get] := by
        simp [Exchange.planned, Exchange.read?, Identity.plannedCalls, hlife]
      refine ⟨hplan ▸ .cons rfl rfl (.done _), ?_⟩
      rintro v ⟨⟩
      simp [Exchange.read?, Identity.plannedOutcome, hlife]
  | @revoking t o L r hlife hrev =>
      have hplan : Exchange.planned s (.get ns name t (.ok (some o)) :: L) =
          .get :: ([.clusterContext, .revokeEntry] ++
            if o.hasFinalizer s.finalizer then [.update] else []) := by
        simp [Exchange.planned, Exchange.read?, Identity.plannedCalls, hlife]
      refine ⟨hplan ▸ .cons rfl rfl (hrev.follows.map some), fun v hv => ?_⟩
      cases r with
      | error e => cases hv
      | ok v' =>
          cases hv
          simp [Exchange.read?, Identity.plannedOutcome, hlife, hrev.eq_of_ok]
  | @ensuring t o L r hlife hw =>
      have hplan : Exchange.planned s (.get ns name t (.ok (some o)) :: L) =
          .get :: (if (!o.hasFinalizer s.finalizer) = true then [.update] else []) := by
        cases hf : o.hasFinalizer s.finalizer <;>
          simp [Exchange.planned, Exchange.read?, Identity.plannedCalls, hlife, hf]
      refine ⟨hplan ▸ .cons rfl rfl (hw.follows.map some), fun v hv => ?_⟩
      cases r with
      | error e => cases hv
      | ok v' =>
          cases hv
          simp [Exchange.read?, Identity.plannedOutcome, hlife, hw.eq_of_ok rfl]
  | @registering t o L r hlife hreg =>
      have hplan : Exchange.planned s (.get ns name t (.ok (some o)) :: L) =
          .get :: ([.clusterContext, .adminCredential, .createEntry, .update] ++
            if (Exchange.recorded? L).any (!·.hasFinalizer s.finalizer) then [.update] else []) := by
        simp only [Exchange.planned, Exchange.read?, Option.map_some, Option.getD_some,
          Identity.plannedCalls, hlife]
        rfl
      refine ⟨hplan ▸ .cons rfl rfl (hreg.follows.map some), fun v hv => ?_⟩
      cases r with
      | error e => cases hv
      | ok v' =>
          cases hv
          simp [Exchange.read?, Identity.plannedOutcome, hlife, hreg.eq_of_ok]

/-! ## Every reconcile follows its plan -/

section

variable {W : Type} (c : Collaborators W) (s : Settings)

/-- Every reconcile, whatever its collaborators answer and whenever its deadline
runs out, makes a prefix of the calls its read fixes, in their order: the read;
nothing more for a missing or unmanaged account; a write adding the missing
finalizer to a registered account; the cluster context, the revocation and, if
the finalizer is held, a write releasing it, for an account being deleted; and
otherwise the cluster context, the credential, the creation, the write recording
the entry's id and, if the account that write handed back lacks the finalizer, a
write adding it. It ends normally exactly when it makes them all and none fails,
and then in the state the plan leads to (none for a missing account, otherwise
unmanaged, finalized or registered), never a pending one. Otherwise it stops at
the first failing call, with that call's error, or at a deadline check; a
credential lookup that finds no credential is the one failure it goes on
from. -/
theorem reconcile_follows_plan (ns name : String) (w : W) :
    FollowsPlan (Exchange.planned s (c.reconciled s ns name w).1.log)
        (c.reconciled s ns name w).1.log (c.reconciled s ns name w).1.result ∧
      (∀ v, (c.reconciled s ns name w).1.result = .ok v →
        v = (Exchange.read? (c.reconciled s ns name w).1.log).map (·.plannedOutcome s)) ∧
      (c.reconciled s ns name w).1.result ≠ .ok (some .pendingRegistration) ∧
      (c.reconciled s ns name w).1.result ≠ .ok (some .pendingRevocation) := by
  obtain ⟨hfollows, houtcome⟩ := (c.reconciled_spec s ns name w).2.2.follows_plan
  -- a normal end is in the planned outcome, which is never a pending state
  have hnot : ∀ p, (c.reconciled s ns name w).1.result = .ok (some p) →
      p ≠ .pendingRegistration ∧ p ≠ .pendingRevocation := by
    intro p hr
    have hp := houtcome _ hr
    cases hread : Exchange.read? (c.reconciled s ns name w).1.log with
    | none =>
        rw [hread] at hp
        cases hp
    | some o =>
        rw [hread] at hp
        cases hp
        exact o.plannedOutcome_ne_pending s
  exact ⟨hfollows, houtcome, fun hr => (hnot _ hr).1 rfl, fun hr => (hnot _ hr).2 rfl⟩

/-- Registering a new account makes the whole plan: the read, the cluster context,
the credential, the creation and the two writes. -/
example :
    let c := Collaborators.constant (.sample {} "true" [] false) (.ok ⟨"cluster", "example.org"⟩)
    Exchange.calls (c.reconciled {} "default" "web" ()).1.log =
      [.get, .clusterContext, .adminCredential, .createEntry, .update, .update] := rfl

end

end SpireEnroll
