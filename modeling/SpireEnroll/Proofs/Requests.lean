import SpireEnroll.Proofs.Idempotence
import SpireEnroll.Proofs.Registry

/-!
# What a reconcile asks of the registry

The requests a reconcile sends, read off the descriptions of its logs
(`ReconcileLog`), over every run of the operator.

*A revocation names the entry anew.* A revocation does not name the entry by the
id recorded on the account: it builds its request again, from the account and
the cluster context it reads, without a credential. So its body is the body of
the creation with the credential blanked, as long as the account and the
context read are the same (`revocation_body_matches_creation`).

*The credential.* A registration looks the admin credential up right after the
cluster context. When the lookup finds no credential the registration goes on
without one, and counts that once; when it finds one, the creation carries it;
any other failure, and the deadline check made just before the lookup, stop the
reconcile before the registry is called (`credential_fallback_registers`).
-/

namespace SpireEnroll

namespace Exchange

/-- The cluster context a log's read of it gave, if any. -/
def context? (log : List Exchange) : Option ClusterContext :=
  log.findSome? fun
    | .clusterContext _ (.ok ctx) => some ctx
    | _ => none

@[simp] theorem context?_cons_context (t : Option Rat) (ctx : ClusterContext) (l : List Exchange) :
    context? (.clusterContext t (.ok ctx) :: l) = some ctx := rfl

@[simp] theorem context?_cons_get (ns name : String) (t : Option Rat)
    (a : Except OperatorError (Option Identity)) (l : List Exchange) :
    context? (.get ns name t a :: l) = context? l := rfl

@[simp] theorem read?_cons_get (ns name : String) (t : Option Rat) (o : Option Identity)
    (l : List Exchange) : read? (.get ns name t (.ok o) :: l) = o := rfl

end Exchange

/-! ## The requests of a registration and a revocation -/

section Requests

variable {s : Settings} {o : Identity} {L : List Exchange} {req : RegistrationRequest}
  {t : Option Rat}

theorem RegisterLog.create_request {r : Except OperatorError Lifecycle} (h : RegisterLog s o L r)
    {a : Except OperatorError String} (hc : .createEntry req t a ∈ L) :
    ∃ ctx cred, Exchange.context? L = some ctx ∧ req = .build ctx o cred := by
  cases h with
  | expired _ | contextFailed => simp at hc
  | credentialFailed hcred | expiredBeforeCreate hcred _ =>
    simp only [List.mem_cons, reduceCtorEq, false_or] at hc
    exact absurd hc (hcred.not_mem.2.2.1 _ _ _)
  | createFailed hcred | recordFailed hcred =>
    -- the creation follows the context read and the lookup; at most the record follows it
    rw [List.mem_cons, List.mem_append, List.mem_cons] at hc
    rcases hc with hc | hc | hc | hc
    · cases hc
    · exact absurd hc (hcred.not_mem.2.2.1 _ _ _)
    · cases hc
      exact ⟨_, _, rfl, rfl⟩
    · simp at hc
  | recorded hcred hw =>
    rw [List.mem_cons, List.mem_append, List.mem_cons, List.mem_cons] at hc
    rcases hc with hc | hc | hc | hc | hc
    · cases hc
    · exact absurd hc (hcred.not_mem.2.2.1 _ _ _)
    · cases hc
      exact ⟨_, _, rfl, rfl⟩
    · cases hc
    · exact absurd hc (hw.not_mem.2.2.1 _ _ _)

theorem RevokeLog.not_mem_create {r : Except OperatorError Lifecycle} (h : RevokeLog s o L r)
    {a : Except OperatorError String} : .createEntry req t a ∉ L := by
  intro hc
  cases h with
  | expired _ | contextFailed | expiredAfterContext _ | revokeFailed => simp at hc
  | revoked hw => simp [hw.not_mem] at hc

theorem RegisterLog.not_mem_revoke {r : Except OperatorError Lifecycle} (h : RegisterLog s o L r)
    {a : Except OperatorError Unit} : .revokeEntry req t a ∉ L := by
  intro hc
  cases h with
  | expired _ | contextFailed => simp at hc
  | credentialFailed hcred | expiredBeforeCreate hcred _ | createFailed hcred
  | recordFailed hcred => simp [hcred.not_mem] at hc
  | recorded hcred hw => simp [hcred.not_mem, hw.not_mem] at hc

theorem RevokeLog.revoke_request {r : Except OperatorError Lifecycle} (h : RevokeLog s o L r)
    {a : Except OperatorError Unit} (hc : .revokeEntry req t a ∈ L) :
    ∃ ctx, Exchange.context? L = some ctx ∧ req = .build ctx o "" := by
  cases h with
  | expired _ | contextFailed | expiredAfterContext _ => simp at hc
  | revokeFailed =>
    rcases List.mem_cons.mp hc with hc | hc
    · cases hc
    · rw [List.mem_singleton] at hc
      cases hc
      exact ⟨_, rfl, rfl⟩
  | revoked hw =>
    rcases List.mem_cons.mp hc with hc | hc
    · cases hc
    · rcases List.mem_cons.mp hc with hc | hc
      · cases hc
        exact ⟨_, rfl, rfl⟩
      · exact absurd hc (hw.not_mem.2.2.2 _ _ _)

end Requests

section Reconciles

variable {s : Settings} {ns name : String} {L : List Exchange}
  {r : Except OperatorError (Option Lifecycle)} {req : RegistrationRequest} {t : Option Rat}

theorem ReconcileLog.create_request (h : ReconcileLog s ns name L r)
    {a : Except OperatorError String} (hc : .createEntry req t a ∈ L) :
    ∃ o ctx cred, Exchange.read? L = some o ∧ Exchange.context? L = some ctx ∧
      req = .build ctx o cred := by
  cases h with
  | expired _ | readFailed | missing | unmanaged _ => simp at hc
  | revoking _ hrev =>
    rcases List.mem_cons.mp hc with hc | hc
    · cases hc
    · exact absurd hc hrev.not_mem_create
  | ensuring _ hw =>
    rcases List.mem_cons.mp hc with hc | hc
    · cases hc
    · exact absurd hc (hw.not_mem.2.2.1 _ _ _)
  | registering _ hreg =>
    rcases List.mem_cons.mp hc with hc | hc
    · cases hc
    · obtain ⟨ctx, cred, hctx, rfl⟩ := hreg.create_request hc
      exact ⟨_, ctx, cred, rfl, by rw [Exchange.context?_cons_get, hctx], rfl⟩

theorem ReconcileLog.revoke_request (h : ReconcileLog s ns name L r)
    {a : Except OperatorError Unit} (hc : .revokeEntry req t a ∈ L) :
    ∃ o ctx, Exchange.read? L = some o ∧ Exchange.context? L = some ctx ∧
      req = .build ctx o "" := by
  cases h with
  | expired _ | readFailed | missing | unmanaged _ => simp at hc
  | registering _ hreg =>
    rcases List.mem_cons.mp hc with hc | hc
    · cases hc
    · exact absurd hc hreg.not_mem_revoke
  | ensuring _ hw =>
    rcases List.mem_cons.mp hc with hc | hc
    · cases hc
    · exact absurd hc (hw.not_mem.2.2.2 _ _ _)
  | revoking _ hrev =>
    rcases List.mem_cons.mp hc with hc | hc
    · cases hc
    · obtain ⟨ctx, hctx, rfl⟩ := hrev.revoke_request hc
      exact ⟨_, ctx, rfl, by rw [Exchange.context?_cons_get, hctx], rfl⟩

end Reconciles

theorem RegistryOp.payload_eq (op : RegistryOp) (req : RegistrationRequest) :
    op.payload req = .dict [("trustDomain", .str req.trustDomain),
      ("serviceAccount", .str req.serviceAccount), ("namespace", .str req.ns),
      ("cluster", .str req.cluster),
      ("kubeConfig", .str (match op with | .create => req.kubeConfig | .revoke => ""))] := by
  cases op <;> rfl

namespace Collaborators

variable {W : Type} (c : Collaborators W) (s : Settings)

/-- In every run of the operator, a deletion at the registry and a creation, made
by reconciles that read an account of the same namespace and name and the same
cluster context, post bodies with the same five keys in the same order, agreeing
in trust domain, service account, namespace and cluster; the deletion's
credential is empty, whatever the creation's. The entry id recorded on the
account plays no part. -/
theorem revocation_body_matches_creation (hs : List (Happening W)) (w : W) {x y : Reconciled}
    (hx : x ∈ (c.session s hs w).1) (hy : y ∈ (c.session s hs w).1)
    {req req' : RegistrationRequest} {t t' : Option Rat} {a : Except OperatorError String}
    {a' : Except OperatorError Unit} (hcreate : .createEntry req t a ∈ x.log)
    (hrevoke : .revokeEntry req' t' a' ∈ y.log)
    (hacct : (Exchange.read? x.log).map (fun o => (o.ns, o.name)) =
      (Exchange.read? y.log).map (fun o => (o.ns, o.name)))
    (hctx : Exchange.context? x.log = Exchange.context? y.log) :
    ∃ td sa ns cl k,
      RegistryOp.payload .create req = .dict [("trustDomain", .str td),
        ("serviceAccount", .str sa), ("namespace", .str ns), ("cluster", .str cl),
        ("kubeConfig", .str k)] ∧
      RegistryOp.payload .revoke req' = .dict [("trustDomain", .str td),
        ("serviceAccount", .str sa), ("namespace", .str ns), ("cluster", .str cl),
        ("kubeConfig", .str "")] := by
  obtain ⟨o, ctx, cred, hread, hc, rfl⟩ := (c.session_log s hx).create_request hcreate
  obtain ⟨o', ctx', hread', hc', rfl⟩ := (c.session_log s hy).revoke_request hrevoke
  -- the revocation read the same account key and the same context
  have hkey : (o'.ns, o'.name) = (o.ns, o.name) := by
    rw [hread, hread'] at hacct
    exact (Option.some.inj hacct).symm
  have hsame : ctx' = ctx := by
    rw [hc, hc'] at hctx
    exact (Option.some.inj hctx).symm
  simp only [Prod.mk.injEq] at hkey
  refine ⟨ctx.trustDomain, o.name, o.ns, ctx.clusterName, cred, ?_, ?_⟩
  · rw [RegistryOp.payload_eq]
    rfl
  · rw [RegistryOp.payload_eq, hsame]
    simp [RegistrationRequest.build, hkey]

/-- A registration and then, once the account is marked for deletion, its
revocation, against a store that keeps what is written: the deletion posts the
body of the creation with the credential blanked. -/
theorem revocation_after_registration_matches :
    let s : Settings := {}
    let c := store "entry-1"
    let o := Identity.sample s "true" [] false
    let first := c.reconciled s "default" "web" o
    let o₁ : Identity := { first.2 with deleting := true }
    let x := first.1
    let y := (c.reconciled s "default" "web" o₁).1
    let runs := c.session s [.reconcile "default" "web",
      .change fun o => { o with deleting := true }, .reconcile "default" "web"] o
    let ctx : ClusterContext := ⟨"cluster", "example.org"⟩
    let t := some s.requestTimeout.seconds
    x ∈ runs.1 ∧ y ∈ runs.1 ∧ .createEntry (.build ctx o "admin") t (.ok "entry-1") ∈ x.log ∧
      .revokeEntry (.build ctx o₁ "") t (.ok ()) ∈ y.log ∧
      (Exchange.read? x.log).map (fun o => (o.ns, o.name)) =
        (Exchange.read? y.log).map (fun o => (o.ns, o.name)) ∧
      Exchange.context? x.log = Exchange.context? y.log ∧
      ∃ td sa ns cl k,
        RegistryOp.payload .create (.build ctx o "admin") = .dict [("trustDomain", .str td),
          ("serviceAccount", .str sa), ("namespace", .str ns), ("cluster", .str cl),
          ("kubeConfig", .str k)] ∧
        RegistryOp.payload .revoke (.build ctx o₁ "") = .dict [("trustDomain", .str td),
          ("serviceAccount", .str sa), ("namespace", .str ns), ("cluster", .str cl),
          ("kubeConfig", .str "")] := by
  intro s c o first o₁ x y runs ctx t
  have hx : x ∈ runs.1 := List.mem_cons_self
  have hy : y ∈ runs.1 := List.mem_cons_of_mem _ List.mem_cons_self
  have hcreate : .createEntry (.build ctx o "admin") t (.ok "entry-1") ∈ x.log :=
    List.mem_cons_of_mem _ (List.mem_cons_of_mem _ (List.mem_cons_of_mem _ List.mem_cons_self))
  have hrevoke : .revokeEntry (.build ctx o₁ "") t (.ok ()) ∈ y.log :=
    List.mem_cons_of_mem _ (List.mem_cons_of_mem _ List.mem_cons_self)
  have hacct : (Exchange.read? x.log).map (fun o => (o.ns, o.name)) =
      (Exchange.read? y.log).map (fun o => (o.ns, o.name)) := rfl
  have hctx : Exchange.context? x.log = Exchange.context? y.log := rfl
  exact ⟨hx, hy, hcreate, hrevoke, hacct, hctx,
    c.revocation_body_matches_creation s _ o hx hy hcreate hrevoke hacct hctx⟩

end Collaborators

/-! ## The credential of a registration -/

namespace Exchange

/-- Whether an exchange counts a registration that goes on without the
credential. -/
def isFallback : Exchange → Bool
  | .countFallback => true
  | _ => false

def toRegistry : Exchange → Bool
  | .createEntry .. | .revokeEntry .. => true
  | _ => false

end Exchange

def credentialAfter : Except OperatorError String → Except OperatorError String
  | .ok k => .ok k
  | .error e => if e.kind = .credentialLookup then .ok "" else .error e

def fallbacksAfter : Except OperatorError String → Nat
  | .ok _ => 0
  | .error e => if e.kind = .credentialLookup then 1 else 0

section Credential

variable {s : Settings} {o : Identity} {L C : List Exchange} {t : Option Rat}
  {a : Except OperatorError String}

theorem CredentialLog.of_answer {rc : Except OperatorError String} (h : CredentialLog C rc)
    (hmem : .adminCredential t a ∈ C) :
    rc = credentialAfter a ∧ C.countP Exchange.isFallback = fallbacksAfter a := by
  cases h with
  | expired _ => simp at hmem
  | found =>
    rw [List.mem_singleton] at hmem
    cases hmem
    exact ⟨rfl, rfl⟩
  | fallback hk =>
    simp only [List.mem_cons, Exchange.adminCredential.injEq, reduceCtorEq, List.mem_nil_iff,
      or_false] at hmem
    obtain ⟨-, rfl⟩ := hmem
    simp [credentialAfter, fallbacksAfter, hk, Exchange.isFallback]
  | failed hk =>
    rw [List.mem_singleton] at hmem
    cases hmem
    simp [credentialAfter, fallbacksAfter, hk, Exchange.isFallback]

theorem CredentialLog.of_no_lookup {rc : Except OperatorError String} (h : CredentialLog C rc)
    (hno : ∀ t a, .adminCredential t a ∉ C) : C = [] ∧ ∃ e, rc = .error e ∧ e.IsDeadline := by
  cases h with
  | expired he => exact ⟨rfl, _, rfl, he⟩
  | found | fallback _ | failed _ => exact absurd List.mem_cons_self (hno _ _)

theorem CredentialLog.not_toRegistry {rc : Except OperatorError String} (h : CredentialLog C rc) :
    ∀ u ∈ C, u.toRegistry = false := by
  intro u hu
  rcases h.mem hu with ⟨_, _, rfl⟩ | rfl <;> rfl

theorem WriteLog.updates {due : Bool} {body : Identity} {out : Lifecycle}
    {r : Except OperatorError Lifecycle} (h : WriteLog due body out L r) :
    ∀ u ∈ L, u.isFallback = false ∧ u.toRegistry = false ∧ ∀ t a, u ≠ .adminCredential t a := by
  intro u hu
  obtain ⟨_, _, rfl⟩ := h.mem hu
  exact ⟨rfl, rfl, fun _ _ h => by cases h⟩

def Exchange.AfterLookup (T : List Exchange) : Prop :=
  ∀ u ∈ T, u.isFallback = false ∧ ∀ t a, u ≠ .adminCredential t a

theorem Exchange.AfterLookup.mem {T : List Exchange} (hT : Exchange.AfterLookup T)
    {tc : Option Rat} {x : Except OperatorError ClusterContext}
    (hmem : .adminCredential t a ∈ .clusterContext tc x :: (C ++ T)) : .adminCredential t a ∈ C := by
  rcases List.mem_cons.mp hmem with h | h
  · cases h
  · rcases List.mem_append.mp h with h | h
    · exact h
    · exact absurd rfl ((hT _ h).2 t a)

theorem Exchange.AfterLookup.countP {T : List Exchange} (hT : Exchange.AfterLookup T)
    {tc : Option Rat} {x : Except OperatorError ClusterContext} :
    (.clusterContext tc x :: (C ++ T)).countP Exchange.isFallback =
      C.countP Exchange.isFallback := by
  have hzero : T.countP Exchange.isFallback = 0 :=
    List.countP_eq_zero.mpr fun u hu => by simp [(hT u hu).1]
  simp [List.countP_append, hzero, Exchange.isFallback]

theorem Exchange.afterLookup_nil : Exchange.AfterLookup [] := by
  intro u hu
  cases hu

theorem Exchange.afterLookup_create {req : RegistrationRequest} {t' : Option Rat}
    {a' : Except OperatorError String} {rest : List Exchange}
    (hrest : ∀ u ∈ rest, u.isFallback = false ∧ u.toRegistry = false ∧ ∀ t a, u ≠ .adminCredential t a) :
    Exchange.AfterLookup (.createEntry req t' a' :: rest) := by
  intro u hu
  rcases List.mem_cons.mp hu with rfl | hu
  · exact ⟨rfl, fun _ _ h => by cases h⟩
  · exact ⟨(hrest u hu).1, (hrest u hu).2.2⟩

theorem Exchange.toRegistry_of_create {tc : Option Rat} {x : Except OperatorError ClusterContext}
    {rc : Except OperatorError String} {req : RegistrationRequest} {t' : Option Rat}
    {a' : Except OperatorError String} {rest : List Exchange} (hC : CredentialLog C rc)
    (hrest : ∀ u ∈ rest, u.isFallback = false ∧ u.toRegistry = false ∧ ∀ t a, u ≠ .adminCredential t a)
    {u : Exchange} (hu : u ∈ .clusterContext tc x :: (C ++ .createEntry req t' a' :: rest))
    (hreg : u.toRegistry = true) : u = .createEntry req t' a' := by
  rcases List.mem_cons.mp hu with rfl | hu
  · cases hreg
  · rcases List.mem_append.mp hu with hu | hu
    · rw [hC.not_toRegistry u hu] at hreg
      cases hreg
    · rcases List.mem_cons.mp hu with rfl | hu
      · rfl
      · rw [(hrest u hu).2.1] at hreg
        cases hreg

theorem CredentialLog.created_after_lookup {tc : Option Rat} {ctx : ClusterContext}
    {cred : String} {t' : Option Rat} {a' : Except OperatorError String} {rest : List Exchange}
    (hcred : CredentialLog C (.ok cred))
    (hrest : ∀ u ∈ rest, u.isFallback = false ∧ u.toRegistry = false ∧ ∀ t a, u ≠ .adminCredential t a)
    (hmem : .adminCredential t a ∈
      .clusterContext tc (.ok ctx) :: (C ++ .createEntry (.build ctx o cred) t' a' :: rest)) :
    (.clusterContext tc (.ok ctx) :: (C ++ .createEntry (.build ctx o cred) t' a' :: rest)).countP
        Exchange.isFallback = fallbacksAfter a ∧ credentialAfter a = .ok cred ∧
      (∀ req t'' a'', .createEntry req t'' a'' ∈
        .clusterContext tc (.ok ctx) :: (C ++ .createEntry (.build ctx o cred) t' a' :: rest) →
          req.kubeConfig = cred) ∧
      .createEntry (.build ctx o cred) t' a' ∈
        .clusterContext tc (.ok ctx) :: (C ++ .createEntry (.build ctx o cred) t' a' :: rest) := by
  have hT : Exchange.AfterLookup (.createEntry (.build ctx o cred) t' a' :: rest) :=
    Exchange.afterLookup_create hrest
  obtain ⟨hrc, hcount⟩ := hcred.of_answer (hT.mem hmem)
  refine ⟨hT.countP.trans hcount, hrc.symm, fun req t'' a'' hc => ?_,
    List.mem_cons_of_mem _ (List.mem_append_right _ List.mem_cons_self)⟩
  cases Exchange.toRegistry_of_create hcred hrest hc rfl
  rfl

theorem RegisterLog.after_lookup {r : Except OperatorError Lifecycle} (h : RegisterLog s o L r)
    (hmem : .adminCredential t a ∈ L) :
    L.countP Exchange.isFallback = fallbacksAfter a ∧
      match credentialAfter a with
      | .error e => r = .error e ∧ ∀ u ∈ L, u.toRegistry = false
      | .ok cred =>
        (∀ req t' a', .createEntry req t' a' ∈ L → req.kubeConfig = cred) ∧
        ((∃ req t' a', .createEntry req t' a' ∈ L) ∨
          ∃ e, r = .error e ∧ e.IsDeadline ∧ ∀ u ∈ L, u.toRegistry = false) := by
  cases h with
  | expired _ | contextFailed => simp at hmem
  | @credentialFailed tc ctx C e hcred =>
    have hT := Exchange.afterLookup_nil
    rw [← List.append_nil C] at hmem ⊢
    obtain ⟨hrc, hcount⟩ := hcred.of_answer (hT.mem hmem)
    refine ⟨hT.countP.trans hcount, ?_⟩
    rw [← hrc]
    refine ⟨rfl, fun u hu => ?_⟩
    rw [List.append_nil] at hu
    rcases List.mem_cons.mp hu with rfl | hu
    · rfl
    · exact hcred.not_toRegistry u hu
  | @expiredBeforeCreate tc ctx C cred e hcred he =>
    have hT := Exchange.afterLookup_nil
    rw [← List.append_nil C] at hmem ⊢
    obtain ⟨hrc, hcount⟩ := hcred.of_answer (hT.mem hmem)
    refine ⟨hT.countP.trans hcount, ?_⟩
    rw [← hrc, List.append_nil]
    -- no creation was made: the deadline check before it failed
    have hnone : ∀ u ∈ Exchange.clusterContext tc (.ok ctx) :: C, u.toRegistry = false := by
      intro u hu
      rcases List.mem_cons.mp hu with rfl | hu
      · rfl
      · exact hcred.not_toRegistry u hu
    refine ⟨fun req t' a' hc => ?_, .inr ⟨e, rfl, he, hnone⟩⟩
    cases hnone _ hc
  | @createFailed tc t' ctx C cred e hcred =>
    have hrest : ∀ u ∈ ([] : List Exchange),
        u.isFallback = false ∧ u.toRegistry = false ∧ ∀ t a, u ≠ .adminCredential t a := by
      intro u hu
      cases hu
    obtain ⟨hfb, hrc, hkube, hmade⟩ := hcred.created_after_lookup hrest hmem
    refine ⟨hfb, ?_⟩
    rw [hrc]
    exact ⟨hkube, .inl ⟨_, _, _, hmade⟩⟩
  | @recordFailed tc t' ctx C cred id e hcred =>
    have hrest : ∀ u ∈ [Exchange.update ( o.setAnnotation s.entryIdAnnotation (.str id))
        (some s.requestTimeout.seconds) (.error e)],
        u.isFallback = false ∧ u.toRegistry = false ∧ ∀ t a, u ≠ .adminCredential t a := by
      intro u hu
      rw [List.mem_singleton] at hu
      subst hu
      exact ⟨rfl, rfl, fun _ _ h => nomatch h⟩
    obtain ⟨hfb, hrc, hkube, hmade⟩ := hcred.created_after_lookup hrest hmem
    refine ⟨hfb, ?_⟩
    rw [hrc]
    exact ⟨hkube, .inl ⟨_, _, _, hmade⟩⟩
  | @recorded tc t' ctx C M cred id o' r hcred hw =>
    have hrest : ∀ u ∈ Exchange.update ( o.setAnnotation s.entryIdAnnotation (.str id))
        (some s.requestTimeout.seconds) (.ok o') :: M,
        u.isFallback = false ∧ u.toRegistry = false ∧ ∀ t a, u ≠ .adminCredential t a := by
      intro u hu
      rcases List.mem_cons.mp hu with rfl | hu
      · exact ⟨rfl, rfl, fun _ _ h => nomatch h⟩
      · exact hw.updates u hu
    obtain ⟨hfb, hrc, hkube, hmade⟩ := hcred.created_after_lookup hrest hmem
    refine ⟨hfb, ?_⟩
    rw [hrc]
    exact ⟨hkube, .inl ⟨_, _, _, hmade⟩⟩

theorem RegisterLog.no_lookup {r : Except OperatorError Lifecycle} (h : RegisterLog s o L r)
    {tc : Option Rat} {ctx : ClusterContext} (hctx : .clusterContext tc (.ok ctx) ∈ L)
    (hno : ∀ t a, .adminCredential t a ∉ L) :
    ∃ e, r = .error e ∧ e.IsDeadline ∧ L.countP Exchange.isFallback = 0 ∧
      ∀ u ∈ L, u.toRegistry = false := by
  cases h with
  | expired _ => simp at hctx
  | contextFailed => simp at hctx
  | credentialFailed hcred =>
    obtain ⟨rfl, e, he, hdl⟩ := hcred.of_no_lookup fun t a h => hno t a (List.mem_cons_of_mem _ h)
    cases he
    exact ⟨_, rfl, hdl, rfl, by simp [Exchange.toRegistry]⟩
  | expiredBeforeCreate hcred _ =>
    obtain ⟨-, e, he, -⟩ := hcred.of_no_lookup fun t a h => hno t a (List.mem_cons_of_mem _ h)
    cases he
  | createFailed hcred | recordFailed hcred | recorded hcred _ =>
    obtain ⟨-, e, he, -⟩ := hcred.of_no_lookup
      fun t a h => hno t a (List.mem_cons_of_mem _ (List.mem_append_left _ h))
    cases he

/-- How a reconcile goes on from the credential lookup of a registration. -/
structure CredentialHandled (s : Settings) (L : List Exchange)
    (r : Except OperatorError (Option Lifecycle)) : Prop where
  /-- The lookup found no credential: one fallback is counted, and the creation,
  made unless the deadline check before it stops the reconcile, carries none. -/
  lacking : ∀ t e, .adminCredential t (.error e) ∈ L → e.kind = .credentialLookup →
    L.countP Exchange.isFallback = 1 ∧
      (∀ req t' a, .createEntry req t' a ∈ L → req.kubeConfig = "") ∧
      ((∃ req t' a, .createEntry req t' a ∈ L) ∨
        ∃ e', r = .error e' ∧ e'.IsDeadline ∧ ∀ u ∈ L, u.toRegistry = false)
  /-- The lookup found a credential: no fallback is counted, and the creation
  carries it. -/
  found : ∀ t k, .adminCredential t (.ok k) ∈ L →
    L.countP Exchange.isFallback = 0 ∧ ∀ req t' a, .createEntry req t' a ∈ L → req.kubeConfig = k
  /-- The lookup failed otherwise: the reconcile fails with that failure, with no
  fallback counted and no call to the registry. -/
  failed : ∀ t e, .adminCredential t (.error e) ∈ L → e.kind ≠ .credentialLookup →
    r = .error e ∧ L.countP Exchange.isFallback = 0 ∧ ∀ u ∈ L, u.toRegistry = false
  /-- The deadline check before the lookup stopped a registration that had read its
  context: the reconcile fails with the deadline's failure, with no fallback
  counted and no call to the registry. -/
  expired : ∀ o tc ctx, Exchange.read? L = some o → o.lifecycle s = .pendingRegistration →
    .clusterContext tc (.ok ctx) ∈ L → (∀ t a, .adminCredential t a ∉ L) →
    ∃ e, r = .error e ∧ e.IsDeadline ∧ L.countP Exchange.isFallback = 0 ∧
      ∀ u ∈ L, u.toRegistry = false

theorem CredentialHandled.of_no_lookup {r : Except OperatorError (Option Lifecycle)}
    (hno : ∀ t a, .adminCredential t a ∉ L)
    (hread : ∀ o, Exchange.read? L = some o → o.lifecycle s ≠ .pendingRegistration) :
    CredentialHandled s L r where
  lacking _ _ hmem _ := absurd hmem (hno _ _)
  found _ _ hmem := absurd hmem (hno _ _)
  failed _ _ hmem _ := absurd hmem (hno _ _)
  expired o _ _ ho hlife _ _ := absurd hlife (hread o ho)

theorem RegisterLog.credential_handled {ns name : String} {t₀ : Option Rat}
    {r : Except OperatorError Lifecycle} (h : RegisterLog s o L r) :
    CredentialHandled s (.get ns name t₀ (.ok (some o)) :: L) (r.map some) := by
  -- the read at the head of the log counts nothing and calls no registry
  have hcount : ∀ n, L.countP Exchange.isFallback = n →
      (Exchange.get ns name t₀ (.ok (some o)) :: L).countP Exchange.isFallback = n := by
    intro n hn
    simpa [List.countP_cons, Exchange.isFallback] using hn
  have hreg : (∀ u ∈ L, u.toRegistry = false) →
      ∀ u ∈ Exchange.get ns name t₀ (.ok (some o)) :: L, u.toRegistry = false := by
    intro hL u hu
    rcases List.mem_cons.mp hu with rfl | hu
    · rfl
    · exact hL u hu
  have hlookup : ∀ {t a}, .adminCredential t a ∈ Exchange.get ns name t₀ (.ok (some o)) :: L →
      .adminCredential t a ∈ L :=
    fun hmem => (List.mem_cons.mp hmem).resolve_left fun h => nomatch h
  constructor
  · intro t e hmem hk
    obtain ⟨hfb, hafter⟩ := h.after_lookup (hlookup hmem)
    have hcred : credentialAfter (.error e) = .ok "" := by simp [credentialAfter, hk]
    simp only [hcred] at hafter
    obtain ⟨hkube, hmade⟩ := hafter
    refine ⟨hcount 1 (by simpa [fallbacksAfter, hk] using hfb), fun req t' a hc => ?_, ?_⟩
    · exact hkube req t' a ((List.mem_cons.mp hc).resolve_left fun h => nomatch h)
    · rcases hmade with ⟨req, t', a, hc⟩ | ⟨e', rfl, hdl, hnone⟩
      · exact .inl ⟨req, t', a, List.mem_cons_of_mem _ hc⟩
      · exact .inr ⟨e', rfl, hdl, hreg hnone⟩
  · intro t k hmem
    obtain ⟨hfb, hkube, -⟩ := h.after_lookup (hlookup hmem)
    refine ⟨hcount 0 hfb, fun req t' a hc => ?_⟩
    exact hkube req t' a ((List.mem_cons.mp hc).resolve_left fun h => nomatch h)
  · intro t e hmem hk
    obtain ⟨hfb, hafter⟩ := h.after_lookup (hlookup hmem)
    have hcred : credentialAfter (.error e) = .error e := by simp [credentialAfter, hk]
    simp only [hcred] at hafter
    obtain ⟨rfl, hnone⟩ := hafter
    exact ⟨rfl, hcount 0 (by simpa [fallbacksAfter, hk] using hfb), hreg hnone⟩
  · intro o' tc ctx _ _ hctx hno
    have hctx' : .clusterContext tc (.ok ctx) ∈ L :=
      (List.mem_cons.mp hctx).resolve_left fun h => nomatch h
    obtain ⟨e, rfl, hdl, hfb, hnone⟩ :=
      h.no_lookup hctx' fun t a hmem => hno t a (List.mem_cons_of_mem _ hmem)
    exact ⟨e, rfl, hdl, hcount 0 hfb, hreg hnone⟩

theorem RevokeLog.not_mem_lookup {r : Except OperatorError Lifecycle} (h : RevokeLog s o L r) :
    ∀ t a, .adminCredential t a ∉ L := by
  intro t a hc
  cases h with
  | expired _ | contextFailed | expiredAfterContext _ | revokeFailed => simp at hc
  | revoked hw => simp [hw.not_mem] at hc

theorem ReconcileLog.credential_handled {ns name : String}
    {r : Except OperatorError (Option Lifecycle)} (h : ReconcileLog s ns name L r) :
    CredentialHandled s L r := by
  -- only a registration looks the credential up; every other branch shows nothing
  have hnot : ∀ {t₀ : Option Rat} {o : Identity} {L : List Exchange},
      o.lifecycle s ≠ .pendingRegistration → (∀ t a, .adminCredential t a ∉ L) →
      CredentialHandled s (.get ns name t₀ (.ok (some o)) :: L) r := by
    intro t₀ o L hlife hno
    apply CredentialHandled.of_no_lookup
    · intro t a hmem
      exact hno t a ((List.mem_cons.mp hmem).resolve_left fun h => nomatch h)
    · intro o' ho
      cases ho
      exact hlife
  cases h with
  | expired _ => exact .of_no_lookup (by simp) (by simp [Exchange.read?])
  | readFailed => exact .of_no_lookup (by simp) (by simp [Exchange.read?])
  | missing => exact .of_no_lookup (by simp) (by simp)
  | unmanaged hlife => exact hnot (by simp [hlife]) (by simp)
  | revoking hlife hrev => exact hnot (by simp [hlife]) hrev.not_mem_lookup
  | ensuring hlife hw => exact hnot (by simp [hlife]) hw.not_mem.2.1
  | registering _ hreg => exact hreg.credential_handled

end Credential

/-! ## Looking the credential up -/

/-- A read of the credential Secret leaves no credential under `key`: the read was
refused, whatever its status; or the Secret has no data, nothing under the key, or
a falsy value there; or a text there that is not strict base64 or decodes to
nothing. -/
def CredentialLacking (key : String) : Except ClusterFailure SecretRecord → Prop
  | .error (.refused _ _) => True
  | .error (.raised _ _) => False
  | .ok secret =>
    match (secret.data.getD []).lookup key with
    | none => True
    | some v => v.truthy = false ∨
        ∃ text, v = .str text ∧ (Base64.decode? text = none ∨ Base64.decode? text = some [])

namespace Reconciler

variable {W : Type} (r : Reconciler W)

theorem adminCredential_lacking_iff (t : Option Rat) (w : W) :
    (∃ e, ((r.adminCredential t).exec w).1 = .error e ∧ e.kind = .credentialLookup) ↔
      CredentialLacking r.settings.credentialKey
        (r.outside.readSecret r.settings.credentialNamespace r.settings.credentialName t w).2 := by
  unfold adminCredential
  simp only [Run.exec_bind, Run.exec_call]
  cases (r.outside.readSecret r.settings.credentialNamespace r.settings.credentialName t w).2 with
  | error f =>
    cases f with
    | refused status reason => simp [CredentialLacking, OperatorError.kind]
    | raised kind message =>
      simp [CredentialLacking, ClusterFailure.foreign, OperatorError.kind]
  | ok secret =>
    simp only [CredentialLacking]
    cases (secret.data.getD []).lookup r.settings.credentialKey with
    | none => simp [OperatorError.kind]
    | some v =>
      -- a falsy value is missing; a truthy one must be a text in strict base64
      dsimp only
      cases ht : v.truthy with
      | false => simp [OperatorError.kind]
      | true =>
        simp only [Bool.not_true, Bool.false_eq_true, if_false]
        cases v
        case str text =>
          cases hd : Base64.decode? text with
          | none => simp [hd, OperatorError.kind]
          | some bytes =>
            cases bytes with
            | nil => simp [hd, OperatorError.kind]
            | cons b bs => simp [hd]
        all_goals simp [ClusterFailure.foreign, OperatorError.kind]

/-- How every reconciler handles the credential of a registration. The lookup
fails as a credential lookup exactly when the Secret's read leaves no credential,
a refused read of any status among them. In every run, a reconcile whose lookup
finds no credential counts the fallback once and creates its entry without a
credential, unless the deadline check before the creation stops it; one whose
lookup finds a credential creates its entry with it and counts nothing; and any
other failure of the lookup, or the deadline check before it, stops the reconcile
before the registry is called, with nothing counted. -/
theorem credential_fallback_registers :
    (∀ t w, (∃ e, ((r.adminCredential t).exec w).1 = .error e ∧ e.kind = .credentialLookup) ↔
      CredentialLacking r.settings.credentialKey
        (r.outside.readSecret r.settings.credentialNamespace r.settings.credentialName t w).2) ∧
    ∀ (hs : List (Happening W)) (w : W), ∀ x ∈ (r.collaborators.session r.settings hs w).1,
      CredentialHandled r.settings x.log x.result :=
  ⟨r.adminCredential_lacking_iff, fun _ _ _ hx =>
    (r.collaborators.session_log r.settings hx).credential_handled⟩

end Reconciler

/-- A world holding the account `default/web`, which asks to be managed and has no
entry id, and the cluster information, but no admin Secret; every other call is
answered as `Outside.answering` does. -/
def Outside.withoutSecret : Outside Unit :=
  { Outside.answering with
    readAccount := fun ns name _ w =>
      (w, .ok ⟨ns, name, some [("omegahome.net/managed-spire", .str "true")], none, false, some "1"⟩)
    readConfigMap := fun ns name _ w =>
      (w, .ok ⟨ns, name, some [("omega.k8s.io/spire-trustdomain", .str "example.org")],
        some [("ClusterConfiguration", .str "clusterName: demo")]⟩) }

/-- Registering a new account while the admin Secret is missing: the lookup fails
as a credential lookup, and the reconcile goes on from it as `CredentialHandled`
says. -/
theorem credential_handled_when_secret_missing :
    let r : Reconciler Unit := ⟨{}, ⟨"http://spire.test:8081", 10, .standard⟩, Outside.withoutSecret⟩
    let x := (r.collaborators.reconciled r.settings "default" "web" ()).1
    (r.outside.readAccount "default" "web" (some 10) ()).2.map (·.identity.lifecycle r.settings) =
        .ok .pendingRegistration ∧
      (∃ e, ((r.adminCredential (some 10)).exec ()).1 = .error e ∧ e.kind = .credentialLookup) ∧
      x ∈ (r.collaborators.session r.settings [.reconcile "default" "web"] ()).1 ∧
      CredentialHandled r.settings x.log x.result := by
  intro r x
  have hread : (r.outside.readAccount "default" "web" (some 10) ()).2.map
      (·.identity.lifecycle r.settings) = .ok .pendingRegistration := rfl
  -- the Secret's read is refused as not found
  have hlacking : CredentialLacking r.settings.credentialKey
      (r.outside.readSecret r.settings.credentialNamespace r.settings.credentialName (some 10) ()).2 :=
    trivial
  have hx : x ∈ (r.collaborators.session r.settings [.reconcile "default" "web"] ()).1 :=
    List.mem_cons_self
  exact ⟨hread, (r.credential_fallback_registers.1 (some 10) ()).2 hlacking, hx,
    r.credential_fallback_registers.2 _ () x hx⟩

/-- Collaborators over a cancellation flag: the account asks to be managed, the
cluster context is found, and the credential lookup finds no credential and is
cancelled as it fails. -/
def Collaborators.cancelledLookup : Collaborators Bool where
  get _ _ _ := pure (some (Identity.sample {} "true" [] false))
  update o _ := pure o
  clusterContext _ := pure ⟨"cluster", "example.org"⟩
  adminCredential _ := do
    Run.change fun _ => true
    throw (.credentialUnreadable "kube-system" "admin-kubeconfig" 403 "Forbidden")
  createEntry _ _ := pure "entry-1"
  revokeEntry _ _ := pure ()
  countFallback b := b
  deadline b := ⟨none, b⟩
  clock _ := 0

/-- A registration whose lookup finds no credential, and is cancelled meanwhile,
counts its fallback and then stops at the deadline check before the creation: it
never calls the registry. -/
theorem cancelled_lookup_skips_creation :
    let x := (Collaborators.cancelledLookup.reconciled {} "default" "web" false).1
    (∃ t e, .adminCredential t (.error e) ∈ x.log ∧ e.kind = .credentialLookup) ∧
      x.log.countP Exchange.isFallback = 1 ∧ (∀ req t a, .createEntry req t a ∉ x.log) ∧
      x.result = .error .cancelled := by
  intro x
  let t := some ({} : Settings).requestTimeout.seconds
  let e : OperatorError := .credentialUnreadable "kube-system" "admin-kubeconfig" 403 "Forbidden"
  have hlog : x.log = [.get "default" "web" t (.ok (some (Identity.sample {} "true" [] false))),
      .clusterContext t (.ok ⟨"cluster", "example.org"⟩), .adminCredential t (.error e),
      .countFallback] := rfl
  have hresult : x.result = .error .cancelled := rfl
  refine ⟨⟨t, e, by simp [hlog], rfl⟩, by simp [hlog, Exchange.isFallback], ?_, hresult⟩
  intro req t' a hc
  simp [hlog] at hc

end SpireEnroll
