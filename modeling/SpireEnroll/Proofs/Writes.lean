import SpireEnroll.Proofs.Calls

/-!
# What a reconcile writes

The writes of a reconcile, read off the descriptions of its logs
(`ReconcileLog`), over every run of the operator with any collaborators:

* every write modifies the account last handed back to the reconcile, keeps its
  version, and makes one change: it records the id of the entry just created, or
  appends the missing finalizer, or (in a revocation, right after the entry was
  revoked) drops the finalizer (`WriteFollows`, `ReconcileLog.writes_follow`);
* hence the finalizer is only ever dropped by a revocation that went through, and
  a failed cluster context or revocation stops all writing
  (`finalizer_dropped_only_after_revocation`);
* an account that is not managed is read and left alone
  (`unmanaged_account_left_alone`);
* a reconcile that fails writes nothing, except that a registration may have
  recorded the id of the entry it created (`failed_reconcile_keeps_account`).

A statement about every write of a log is a statement about every entry and the
entries before it (`EachAfter`), which splits along the log's shape.
-/

namespace SpireEnroll

/-! ## Entries and what comes before them -/

/-- Every entry of `l` satisfies `Φ`, given what comes before it: `before`, then
the entries of `l` before it. -/
def EachAfter {α : Type} (Φ : List α → α → Prop) (before l : List α) : Prop :=
  ∀ pre u post, l = pre ++ u :: post → Φ (before ++ pre) u

namespace EachAfter

variable {α : Type} {Φ : List α → α → Prop}

theorem nil (before : List α) : EachAfter Φ before [] := by
  intro pre u post h
  cases pre <;> cases h

theorem cons_iff {before : List α} {x : α} {l : List α} :
    EachAfter Φ before (x :: l) ↔ Φ before x ∧ EachAfter Φ (before ++ [x]) l := by
  constructor
  · intro h
    refine ⟨by simpa using h [] x l rfl, fun pre u post hl => ?_⟩
    have hx := h (x :: pre) u post (by rw [hl]; rfl)
    simpa [List.append_assoc] using hx
  · rintro ⟨hx, hl⟩ pre u post h
    cases pre with
    | nil =>
        simp only [List.nil_append, List.cons.injEq] at h
        obtain ⟨rfl, rfl⟩ := h
        simpa using hx
    | cons y pre =>
        simp only [List.cons_append, List.cons.injEq] at h
        obtain ⟨rfl, h⟩ := h
        simpa [List.append_assoc] using hl pre u post h

theorem append_iff {before A B : List α} :
    EachAfter Φ before (A ++ B) ↔ EachAfter Φ before A ∧ EachAfter Φ (before ++ A) B := by
  induction A generalizing before with
  | nil => simp [nil]
  | cons x A ih =>
      rw [List.cons_append, cons_iff, cons_iff, ih]
      simp [List.append_assoc, and_assoc]

theorem of_forall_mem {before l : List α} (h : ∀ u ∈ l, ∀ pre, Φ pre u) :
    EachAfter Φ before l := by
  intro pre u post hl
  exact h u (by rw [hl]; simp) _

end EachAfter

/-! ## Reading logs -/

theorem Except.map_eq_error {ε α β : Type} {f : α → β} {r : Except ε α} {e : ε} :
    r.map f = .error e ↔ r = .error e := by
  cases r <;> simp [Except.map]

namespace Exchange

@[simp] theorem lastObtained_nil : lastObtained [] = none := rfl

@[simp] theorem lastObtained_append (A B : List Exchange) :
    lastObtained (A ++ B) = (lastObtained B).or (lastObtained A) := by
  simp [lastObtained, List.filterMap_append, List.getLast?_append]

@[simp] theorem lastObtained_cons (x : Exchange) (l : List Exchange) :
    lastObtained (x :: l) = (lastObtained l).or x.obtained? := by
  rw [← List.singleton_append, lastObtained_append]
  cases h : x.obtained? <;> simp [lastObtained, h]

end Exchange

theorem CredentialLog.mem {L : List Exchange} {r : Except OperatorError String}
    (h : CredentialLog L r) {u : Exchange} (hu : u ∈ L) :
    (∃ t a, u = .adminCredential t a) ∨ u = .countFallback := by
  cases h with
  | expired => simp at hu
  | found | failed =>
      rw [List.mem_singleton] at hu
      exact .inl ⟨_, _, hu⟩
  | fallback =>
      simp only [List.mem_cons, List.mem_nil_iff, or_false] at hu
      rcases hu with rfl | rfl
      · exact .inl ⟨_, _, rfl⟩
      · exact .inr rfl

theorem CredentialLog.lastObtained {L : List Exchange} {r : Except OperatorError String}
    (h : CredentialLog L r) : Exchange.lastObtained L = none := by
  cases h <;> rfl

theorem CredentialLog.lookup_failure {L : List Exchange} {cred : String}
    (h : CredentialLog L (.ok cred)) {t : Option Rat} {e : OperatorError}
    (hu : .adminCredential t (.error e) ∈ L) : e.kind = .credentialLookup := by
  cases h with
  | found => simp at hu
  | fallback hk =>
      simp only [List.mem_cons, Exchange.adminCredential.injEq, Except.error.injEq,
        reduceCtorEq, List.mem_nil_iff, or_false] at hu
      rw [hu.2]
      exact hk

theorem WriteLog.mem {due : Bool} {body : Identity} {out : Lifecycle} {L : List Exchange}
    {r : Except OperatorError Lifecycle} (h : WriteLog due body out L r) {u : Exchange}
    (hu : u ∈ L) : ∃ t a, u = .update body t a := by
  cases h <;> simp_all

/-! ## Every write makes one change -/

/-- What a write of `body` made after the calls `pre` of a reconcile of `ns/name`
does to the account `pre` last handed back: it records the id of the entry
created just before on an account with no entry id; or it appends the finalizer
the account lacks; or, in the revocation of an account being deleted, right
after its entry was revoked for it in the cluster read there, it drops every
occurrence of the finalizer the account carries. The account's other fields,
its version among them, are kept. -/
def WriteFollows (s : Settings) (ns name : String) (pre : List Exchange) (body : Identity) :
    Prop :=
  ∃ o, Exchange.lastObtained pre = some o ∧
    ((∃ req t id, pre.getLast? = some (.createEntry req t (.ok id)) ∧ o.hasEntryId s = false ∧
        body = { o with annotations := Value.setEntry o.annotations s.entryIdAnnotation (.str id) }) ∨
      (o.hasFinalizer s.finalizer = false ∧
        body = { o with finalizers := o.finalizers ++ [s.finalizer] }) ∨
      (o.hasFinalizer s.finalizer = true ∧ o.lifecycle s = .pendingRevocation ∧
        (∃ t₀ tc ctx tr, pre = [.get ns name t₀ (.ok (some o)), .clusterContext tc (.ok ctx),
          .revokeEntry (.build ctx o "") tr (.ok ())]) ∧
        body = { o with finalizers := o.finalizers.filter (· != s.finalizer) }))

def WriteFollows.AtEach (s : Settings) (ns name : String) (pre : List Exchange) (u : Exchange) :
    Prop :=
  ∀ body t a, u = .update body t a → WriteFollows s ns name pre body

namespace WriteFollows

variable {s : Settings} {ns name : String}

theorem skip {before l : List Exchange} {u : Exchange} (hu : ∀ body t a, u ≠ .update body t a)
    (h : EachAfter (AtEach s ns name) (before ++ [u]) l) :
    EachAfter (AtEach s ns name) before (u :: l) :=
  EachAfter.cons_iff.2 ⟨fun body t a h => absurd h (hu body t a), h⟩

theorem write {before l : List Exchange} {body : Identity} {t : Option Rat}
    {a : Except OperatorError Identity} (hw : WriteFollows s ns name before body)
    (h : EachAfter (AtEach s ns name) (before ++ [.update body t a]) l) :
    EachAfter (AtEach s ns name) before (.update body t a :: l) := by
  refine EachAfter.cons_iff.2 ⟨?_, h⟩
  intro body' t' a' he
  cases he
  exact hw

theorem of_credentialLog {before L : List Exchange} {r : Except OperatorError String}
    (h : CredentialLog L r) : EachAfter (AtEach s ns name) before L := by
  refine EachAfter.of_forall_mem fun u hu pre body t a he => ?_
  rcases h.mem hu with ⟨t', a', rfl⟩ | rfl <;> cases he

theorem of_addFinalizer {pre : List Exchange} {o : Identity}
    (hlast : Exchange.lastObtained pre = some o) (hf : o.hasFinalizer s.finalizer = false) :
    WriteFollows s ns name pre (o.addFinalizer s.finalizer) := by
  refine ⟨o, hlast, .inr (.inl ⟨hf, ?_⟩)⟩
  simp only [Identity.addFinalizer]
  rw [Finalizers.add_of_contains_eq_false hf]

theorem of_recordId {pre : List Exchange} {o : Identity} {req : RegistrationRequest}
    {t : Option Rat} {id : String} (hlast : Exchange.lastObtained pre = some o)
    (hid : o.hasEntryId s = false) :
    WriteFollows s ns name (pre ++ [.createEntry req t (.ok id)])
      ( o.setAnnotation s.entryIdAnnotation (.str id)) := by
  refine ⟨o, ?_, .inl ⟨req, t, id, by simp, hid, rfl⟩⟩
  simp [hlast, Exchange.obtained?]

theorem of_writeLog_add {before M : List Exchange} {o : Identity}
    {r : Except OperatorError Lifecycle} (hlast : Exchange.lastObtained before = some o)
    (h : WriteLog (!o.hasFinalizer s.finalizer) (o.addFinalizer s.finalizer) .registered M r) :
    EachAfter (AtEach s ns name) before M := by
  cases h with
  | skipped _ => exact EachAfter.nil _
  | expired _ _ => exact EachAfter.nil _
  | written hdue => exact write (of_addFinalizer hlast (by simpa using hdue)) (EachAfter.nil _)

theorem of_revokeLog {o : Identity} {t₀ : Option Rat} {L : List Exchange}
    {r : Except OperatorError Lifecycle} (h : RevokeLog s o L r)
    (hlife : o.lifecycle s = .pendingRevocation) :
    EachAfter (AtEach s ns name) [.get ns name t₀ (.ok (some o))] L := by
  cases h with
  | expired _ => exact EachAfter.nil _
  | contextFailed => exact skip (fun _ _ _ => nofun) (EachAfter.nil _)
  | expiredAfterContext _ => exact skip (fun _ _ _ => nofun) (EachAfter.nil _)
  | revokeFailed =>
      exact skip (fun _ _ _ => nofun) (skip (fun _ _ _ => nofun) (EachAfter.nil _))
  | @revoked t t' ctx M r hw =>
      refine skip (fun _ _ _ => nofun) (skip (fun _ _ _ => nofun) ?_)
      cases hw with
      | skipped _ => exact EachAfter.nil _
      | expired _ _ => exact EachAfter.nil _
      | written hdue =>
          refine write ⟨o, by simp [Exchange.obtained?], .inr (.inr ⟨hdue, hlife, ?_, rfl⟩)⟩
            (EachAfter.nil _)
          exact ⟨t₀, t, ctx, t', rfl⟩

theorem of_registerLog {before L : List Exchange} {o : Identity}
    {r : Except OperatorError Lifecycle} (h : RegisterLog s o L r)
    (hlast : Exchange.lastObtained before = some o) (hid : o.hasEntryId s = false) :
    EachAfter (AtEach s ns name) before L := by
  cases h with
  | expired _ => exact EachAfter.nil _
  | contextFailed => exact skip (fun _ _ _ => nofun) (EachAfter.nil _)
  | credentialFailed hc => exact skip (fun _ _ _ => nofun) (of_credentialLog hc)
  | expiredBeforeCreate hc _ => exact skip (fun _ _ _ => nofun) (of_credentialLog hc)
  | createFailed hc =>
      refine skip (fun _ _ _ => nofun) (EachAfter.append_iff.2 ⟨of_credentialLog hc, ?_⟩)
      exact skip (fun _ _ _ => nofun) (EachAfter.nil _)
  | recordFailed hc =>
      refine skip (fun _ _ _ => nofun) (EachAfter.append_iff.2 ⟨of_credentialLog hc, ?_⟩)
      refine skip (fun _ _ _ => nofun) (write (of_recordId ?_ hid) (EachAfter.nil _))
      simp [hlast, hc.lastObtained, Exchange.obtained?]
  | recorded hc hw =>
      refine skip (fun _ _ _ => nofun) (EachAfter.append_iff.2 ⟨of_credentialLog hc, ?_⟩)
      refine skip (fun _ _ _ => nofun) (write (of_recordId ?_ hid) (of_writeLog_add ?_ hw))
      · simp [hlast, hc.lastObtained, Exchange.obtained?]
      · simp [Exchange.obtained?]

end WriteFollows

theorem WriteFollows.dropped {s : Settings} {ns name : String} {pre : List Exchange}
    {body o : Identity} (h : WriteFollows s ns name pre body)
    (hlast : Exchange.lastObtained pre = some o) (hheld : o.hasFinalizer s.finalizer = true)
    (hdropped : body.hasFinalizer s.finalizer = false) :
    o.lifecycle s = .pendingRevocation ∧
      ∃ t₀ tc ctx tr, pre = [.get ns name t₀ (.ok (some o)), .clusterContext tc (.ok ctx),
        .revokeEntry (.build ctx o "") tr (.ok ())] := by
  obtain ⟨o', hlast', hchange⟩ := h
  rw [hlast] at hlast'
  cases hlast'
  rcases hchange with ⟨req, t, id, -, -, hbody⟩ | ⟨hf, -⟩ | ⟨-, hlife, hpre, -⟩
  · -- recording the entry id keeps the finalizers
    have hkept : body.hasFinalizer s.finalizer = o.hasFinalizer s.finalizer := by
      rw [hbody]
      rfl
    rw [hkept, hheld] at hdropped
    cases hdropped
  · rw [hheld] at hf
    cases hf
  · exact ⟨hlife, hpre⟩

/-- Every write of a reconcile follows `WriteFollows`. -/
theorem ReconcileLog.writes_follow {s : Settings} {ns name : String} {L : List Exchange}
    {r : Except OperatorError (Option Lifecycle)} (h : ReconcileLog s ns name L r) :
    EachAfter (WriteFollows.AtEach s ns name) [] L := by
  cases h with
  | expired _ => exact EachAfter.nil _
  | readFailed => exact WriteFollows.skip (fun _ _ _ => nofun) (EachAfter.nil _)
  | missing => exact WriteFollows.skip (fun _ _ _ => nofun) (EachAfter.nil _)
  | unmanaged _ => exact WriteFollows.skip (fun _ _ _ => nofun) (EachAfter.nil _)
  | revoking hlife hrev =>
      exact WriteFollows.skip (fun _ _ _ => nofun) (WriteFollows.of_revokeLog hrev hlife)
  | ensuring _ hw =>
      refine WriteFollows.skip (fun _ _ _ => nofun) (WriteFollows.of_writeLog_add ?_ hw)
      simp [Exchange.obtained?]
  | registering hlife hreg =>
      refine WriteFollows.skip (fun _ _ _ => nofun) (WriteFollows.of_registerLog hreg ?_
        (Identity.hasEntryId_eq_false_of_pendingRegistration _ _ hlife))
      simp [Exchange.obtained?]

theorem CredentialLog.not_mem {L : List Exchange} {r : Except OperatorError String}
    (h : CredentialLog L r) :
    (∀ body t a, .update body t a ∉ L) ∧ (∀ t a, .clusterContext t a ∉ L) ∧
      (∀ req t a, .createEntry req t a ∉ L) ∧ (∀ req t a, .revokeEntry req t a ∉ L) := by
  refine ⟨fun body t a hu => ?_, fun t a hu => ?_, fun req t a hu => ?_, fun req t a hu => ?_⟩ <;>
    rcases h.mem hu with ⟨_, _, he⟩ | he <;> cases he

theorem WriteLog.not_mem {due : Bool} {body : Identity} {out : Lifecycle} {L : List Exchange}
    {r : Except OperatorError Lifecycle} (h : WriteLog due body out L r) :
    (∀ t a, .clusterContext t a ∉ L) ∧ (∀ t a, .adminCredential t a ∉ L) ∧
      (∀ req t a, .createEntry req t a ∉ L) ∧ (∀ req t a, .revokeEntry req t a ∉ L) := by
  refine ⟨fun t a hu => ?_, fun t a hu => ?_, fun req t a hu => ?_, fun req t a hu => ?_⟩ <;>
    obtain ⟨_, _, he⟩ := h.mem hu <;> cases he

theorem ReconcileLog.no_write_of_failure {s : Settings} {ns name : String} {L : List Exchange}
    {r : Except OperatorError (Option Lifecycle)} (h : ReconcileLog s ns name L r)
    (hfail : (∃ tc e, .clusterContext tc (.error e) ∈ L) ∨
      (∃ req tr e, .revokeEntry req tr (.error e) ∈ L)) :
    ∀ body t a, .update body t a ∉ L := by
  intro body t a hu
  -- the logs with a write read the context and revoke with success, if at all
  cases h with
  | expired _ => simp at hu
  | readFailed | missing | unmanaged _ => simp at hu
  | revoking _ hrev =>
      cases hrev with
      | expired _ | contextFailed | expiredAfterContext _ | revokeFailed => simp at hu
      | revoked hw =>
          rcases hfail with ⟨tc, e, he⟩ | ⟨req, tr, e, he⟩ <;>
            simp [hw.not_mem] at he
  | ensuring _ hw =>
      rcases hfail with ⟨tc, e, he⟩ | ⟨req, tr, e, he⟩ <;>
        simp [hw.not_mem] at he
  | registering _ hreg =>
      cases hreg with
      | expired _ | contextFailed => simp at hu
      | credentialFailed hc | expiredBeforeCreate hc _ => simp [hc.not_mem] at hu
      | createFailed hc => simp [hc.not_mem] at hu
      | recordFailed hc =>
          rcases hfail with ⟨tc, e, he⟩ | ⟨req, tr, e, he⟩ <;>
            simp [hc.not_mem] at he
      | recorded hc hw =>
          rcases hfail with ⟨tc, e, he⟩ | ⟨req, tr, e, he⟩ <;>
            simp [hc.not_mem, hw.not_mem] at he

theorem ReconcileLog.no_entry_of_failure {s : Settings} {ns name : String} {L : List Exchange}
    {r : Except OperatorError (Option Lifecycle)} (h : ReconcileLog s ns name L r)
    (hfail : (∃ tc e, .clusterContext tc (.error e) ∈ L) ∨
      (∃ tc e, .adminCredential tc (.error e) ∈ L ∧ e.kind ≠ .credentialLookup) ∨
      (∃ req tc e, .createEntry req tc (.error e) ∈ L) ∨
      (∃ req tr e, .revokeEntry req tr (.error e) ∈ L)) :
    ∀ req tc id, .createEntry req tc (.ok id) ∉ L := by
  intro req tc id hcreated
  -- only a registration creates, and one that did had none of these failures
  cases h with
  | expired _ | readFailed | missing | unmanaged _ => simp at hcreated
  | revoking _ hrev =>
      cases hrev with
      | expired _ | contextFailed | expiredAfterContext _ | revokeFailed => simp at hcreated
      | revoked hw => simp [hw.not_mem] at hcreated
  | ensuring _ hw => simp [hw.not_mem] at hcreated
  | registering _ hreg =>
      cases hreg with
      | expired _ | contextFailed => simp at hcreated
      | credentialFailed hc | expiredBeforeCreate hc _ | createFailed hc =>
          simp [hc.not_mem] at hcreated
      | recordFailed hc =>
          rcases hfail with ⟨tc, e, he⟩ | ⟨tc, e, he, hk⟩ | ⟨req, tc, e, he⟩ | ⟨req, tr, e, he⟩ <;>
            simp [hc.not_mem] at he
          exact hk (hc.lookup_failure he)
      | recorded hc hw =>
          rcases hfail with ⟨tc, e, he⟩ | ⟨tc, e, he, hk⟩ | ⟨req, tc, e, he⟩ | ⟨req, tr, e, he⟩ <;>
            simp [hc.not_mem, hw.not_mem] at he
          exact hk (hc.lookup_failure he)

/-! ## Writes of failed reconciles -/

theorem CredentialLog.written {L : List Exchange} {r : Except OperatorError String}
    (h : CredentialLog L r) : L.filterMap Exchange.written? = [] := by
  cases h <;> rfl

theorem WriteLog.written_of_error {due : Bool} {body : Identity} {out : Lifecycle}
    {L : List Exchange} {r : Except OperatorError Lifecycle} (h : WriteLog due body out L r)
    {e : OperatorError} (hr : r = .error e) : L.filterMap Exchange.written? = [] := by
  cases h with
  | skipped _ => cases hr
  | expired _ _ => rfl
  | written _ =>
      rw [Except.map_eq_error] at hr
      rw [hr]
      rfl

theorem RevokeLog.written_of_error {s : Settings} {o : Identity} {L : List Exchange}
    {r : Except OperatorError Lifecycle} (h : RevokeLog s o L r) {e : OperatorError}
    (hr : r = .error e) : L.filterMap Exchange.written? = [] := by
  cases h with
  | expired _ | contextFailed | expiredAfterContext _ | revokeFailed => rfl
  | revoked hw => exact hw.written_of_error hr

theorem RegisterLog.written_of_error {s : Settings} {o : Identity} {L : List Exchange}
    {r : Except OperatorError Lifecycle} (h : RegisterLog s o L r) {e : OperatorError}
    (hr : r = .error e) :
    L.filterMap Exchange.written? = [] ∨
      ∃ req tc id, .createEntry req tc (.ok id) ∈ L ∧
        L.filterMap Exchange.written? = [ o.setAnnotation s.entryIdAnnotation (.str id)] := by
  cases h with
  | expired _ | contextFailed => exact .inl rfl
  | credentialFailed hc | expiredBeforeCreate hc _ => exact .inl hc.written
  | createFailed hc | recordFailed hc =>
      left
      rw [List.filterMap_cons_none rfl, List.filterMap_append, hc.written]
      rfl
  | recorded hc hw =>
      right
      refine ⟨_, _, _, List.mem_cons_of_mem _ (List.mem_append_right _ List.mem_cons_self), ?_⟩
      simp only [List.filterMap_cons, List.filterMap_append, Exchange.written?, hc.written,
        hw.written_of_error hr, List.nil_append]

theorem ReconcileLog.written_of_error {s : Settings} {ns name : String} {L : List Exchange}
    {r : Except OperatorError (Option Lifecycle)} (h : ReconcileLog s ns name L r)
    {e : OperatorError} (hr : r = .error e) :
    L.filterMap Exchange.written? = [] ∨
      ∃ t₀ o req tc id, L.head? = some (.get ns name t₀ (.ok (some o))) ∧
        o.lifecycle s = .pendingRegistration ∧ .createEntry req tc (.ok id) ∈ L ∧
        L.filterMap Exchange.written? = [ o.setAnnotation s.entryIdAnnotation (.str id)] := by
  cases h with
  | expired _ | readFailed | missing | unmanaged _ => exact .inl rfl
  | revoking _ hrev => exact .inl (hrev.written_of_error (Except.map_eq_error.1 hr))
  | ensuring _ hw => exact .inl (hw.written_of_error (Except.map_eq_error.1 hr))
  | registering hlife hreg =>
      rcases hreg.written_of_error (Except.map_eq_error.1 hr) with hnone | ⟨req, tc, id, hc, hw⟩
      · exact .inl hnone
      · exact .inr ⟨_, _, req, tc, id, rfl, hlife, List.mem_cons_of_mem _ hc, hw⟩

/-! ## Reads of accounts that are not managed -/

theorem ReconcileLog.of_unmanaged_read {s : Settings} {ns name : String} {L : List Exchange}
    {r : Except OperatorError (Option Lifecycle)} (h : ReconcileLog s ns name L r)
    {t₀ : Option Rat} {o : Identity} (hread : L.head? = some (.get ns name t₀ (.ok (some o))))
    (hun : o.isManaged s = false) :
    r = .ok (some .unmanaged) ∧ L = [.get ns name t₀ (.ok (some o))] := by
  have hlife : o.lifecycle s = .unmanaged := (Identity.lifecycle_eq_unmanaged_iff s o).2 hun
  cases h with
  | expired _ | readFailed | missing => cases hread
  | unmanaged _ =>
      cases hread
      exact ⟨rfl, rfl⟩
  | revoking hlife' _ | ensuring hlife' _ | registering hlife' _ =>
      cases hread
      rw [hlife] at hlife'
      cases hlife'

theorem ReconcileLog.managed_of_write {s : Settings} {ns name : String} {L : List Exchange}
    {r : Except OperatorError (Option Lifecycle)} (h : ReconcileLog s ns name L r)
    {body : Identity} {t : Option Rat} {a : Except OperatorError Identity}
    (hu : .update body t a ∈ L) :
    ∃ t₀ o, .get ns name t₀ (.ok (some o)) ∈ L ∧ o.isManaged s = true := by
  cases h with
  | expired _ | readFailed | missing | unmanaged _ => simp at hu
  | revoking hlife _ | ensuring hlife _ | registering hlife _ =>
      refine ⟨_, _, List.mem_cons_self, Identity.isManaged_of_ne_unmanaged _ _ ?_⟩
      rw [hlife]
      nofun

/-! ## Collaborators over no world

Reconciles of a fixed account against collaborators under which every call goes
through but the cluster context, when it is given as a failure. -/

/-- The account `default/web` with the managed annotation `managed`, carrying
`finalizers`, being deleted or not, without an entry id. -/
def Identity.sample (s : Settings) (managed : String) (finalizers : List String)
    (deleting : Bool) : Identity :=
  { ns := "default", name := "web", annotations := [( s.managedAnnotation, .str managed)],
    finalizers, deleting, resourceVersion := some "1" }

-- a clock standing at zero never goes back; named, so that every world over
-- `Unit` with that clock shares this one proof
theorem Collaborators.zero_clock_le : ∀ _ : Unit, (0 : Rat) ≤ 0 := fun _ => Rat.le_refl

/-- Collaborators over no world: every read finds `o`, every write stores what it
is given, the cluster context is `ctx`, and every other call goes through. -/
def Collaborators.constant (o : Identity) (ctx : Except OperatorError ClusterContext) :
    Collaborators Unit where
  get _ _ _ := pure (some o)
  update o' _ := pure o'
  clusterContext _ := Run.ofExcept ctx
  adminCredential _ := pure "admin"
  createEntry _ _ := pure "entry-1"
  revokeEntry _ _ := pure ()
  countFallback _ := ()
  deadline _ := .unlimited
  clock _ := 0
  clock_le_elapse := Collaborators.zero_clock_le

/-! ## The finalizer, accounts not managed, and failed reconciles -/

section

variable {W : Type} (c : Collaborators W) (s : Settings)

/-- In any run of the operator, with any collaborator failing at any call, the
only write that drops the finalizer from the account it modifies is the release
in a revocation: the account is being deleted, and the write comes right after
the reconcile read it, read the cluster context and revoked the account's entry
in that cluster, with success. A reconcile in which reading the cluster context
or revoking fails makes no write at all. -/
theorem finalizer_dropped_only_after_revocation (hs : List (Happening W)) (w : W) :
    ∀ x ∈ (c.session s hs w).1,
      (∀ pre body t a post o, x.log = pre ++ .update body t a :: post →
          Exchange.lastObtained pre = some o →
          o.hasFinalizer s.finalizer = true → body.hasFinalizer s.finalizer = false →
          o.lifecycle s = .pendingRevocation ∧
            ∃ t₀ tc ctx tr, pre = [.get x.ns x.name t₀ (.ok (some o)),
              .clusterContext tc (.ok ctx), .revokeEntry (.build ctx o "") tr (.ok ())]) ∧
      ((∃ tc e, .clusterContext tc (.error e) ∈ x.log) ∨
          (∃ req tr e, .revokeEntry req tr (.error e) ∈ x.log) →
        ∀ body t a, .update body t a ∉ x.log) := by
  intro x hx
  have hlog := c.session_log s hx
  refine ⟨fun pre body t a post o hsplit hlast hheld hdropped => ?_, hlog.no_write_of_failure⟩
  exact (hlog.writes_follow pre _ post hsplit body t a rfl).dropped hlast hheld hdropped

/-- Revoking a deleted account that carries the finalizer drops it in its last
write; when the cluster context cannot be read, nothing is written. -/
theorem revocation_releases_account :
    let f := ({} : Settings).finalizer
    let o := Identity.sample {} "true" [f] true
    let e : OperatorError := .clusterInfoMissing "kube-system" "kubeadm-config"
    let revoking := Collaborators.constant o (.ok ⟨"cluster", "example.org"⟩)
    let failing := Collaborators.constant o (.error e)
    let x := (revoking.reconciled {} "default" "web" ()).1
    let y := (failing.reconciled {} "default" "web" ()).1
    let t := some ({} : Settings).requestTimeout.seconds
    (x ∈ (revoking.session {} [.reconcile "default" "web"] ()).1 ∧
      x.log = x.log.take 3 ++ [.update (o.removeFinalizer f) t (.ok (o.removeFinalizer f))] ∧
      Exchange.lastObtained (x.log.take 3) = some o ∧ o.hasFinalizer f = true ∧
      (o.removeFinalizer f).hasFinalizer f = false ∧ o.lifecycle {} = .pendingRevocation ∧
      ∃ t₀ tc ctx tr, x.log.take 3 = [.get x.ns x.name t₀ (.ok (some o)),
        .clusterContext tc (.ok ctx), .revokeEntry (.build ctx o "") tr (.ok ())]) ∧
    (y ∈ (failing.session {} [.reconcile "default" "web"] ()).1 ∧
      .clusterContext t (.error e) ∈ y.log ∧ ∀ body t a, .update body t a ∉ y.log) := by
  intro f o e revoking failing x y t
  have hx : x ∈ (revoking.session {} [.reconcile "default" "web"] ()).1 := List.mem_cons_self
  have hlog : x.log = x.log.take 3 ++
      [.update (o.removeFinalizer f) t (.ok (o.removeFinalizer f))] := rfl
  have hy : y ∈ (failing.session {} [.reconcile "default" "web"] ()).1 := List.mem_cons_self
  have hfail : .clusterContext t (.error e) ∈ y.log := List.mem_cons_of_mem _ List.mem_cons_self
  refine ⟨⟨hx, hlog, rfl, rfl, rfl, ?_⟩, hy, hfail, ?_⟩
  · exact (finalizer_dropped_only_after_revocation revoking {} _ () x hx).1 _ _ _ _ _ o hlog
      rfl rfl rfl
  · exact (finalizer_dropped_only_after_revocation failing {} _ () y hy).2 (.inl ⟨_, _, hfail⟩)

/-- A reconcile that reads an account whose managed annotation is not exactly the
text "true" (absent, another text, or another value) returns `unmanaged` right
after that one read, whether the account is being deleted, has an entry id or
carries the finalizer: it makes no other call. Hence, over any run of the
operator, an account that is not managed whenever it is read is never written. -/
theorem unmanaged_account_left_alone (hs : List (Happening W)) (w : W) :
    (∀ x ∈ (c.session s hs w).1, ∀ t₀ o,
        x.log.head? = some (.get x.ns x.name t₀ (.ok (some o))) →
        o.annotation? s.managedAnnotation ≠ some (.str "true") →
        x.result = .ok (some .unmanaged) ∧ x.log = [.get x.ns x.name t₀ (.ok (some o))]) ∧
      ∀ ns name, (∀ x ∈ (c.session s hs w).1, ∀ t₀ o, .get ns name t₀ (.ok (some o)) ∈ x.log →
          o.annotation? s.managedAnnotation ≠ some (.str "true")) →
        ∀ x ∈ (c.session s hs w).1, x.ns = ns → x.name = name →
          ∀ body t a, .update body t a ∉ x.log := by
  refine ⟨fun x hx t₀ o hread ho => ?_, fun ns name hreads x hx hns hname body t a hu => ?_⟩
  · exact (c.session_log s hx).of_unmanaged_read hread ((Identity.isManaged_eq_false_iff s o).2 ho)
  · -- a write follows a read that found a managed account, and no read of the run found one
    subst hns hname
    obtain ⟨t₀, o, hread, hm⟩ := (c.session_log s hx).managed_of_write hu
    rw [(Identity.isManaged_eq_false_iff s o).2 (hreads x hx t₀ o hread)] at hm
    cases hm

/-- A deleted account that carries the finalizer, with the managed annotation
"True", is read and left alone. -/
theorem unmanaged_deleting_account_read_only :
    let s : Settings := {}
    let o := Identity.sample s "True" [s.finalizer] true
    let c := Collaborators.constant o (.ok ⟨"cluster", "example.org"⟩)
    let hs : List (Happening Unit) := [.reconcile "default" "web"]
    let x := (c.reconciled s "default" "web" ()).1
    let t := some s.requestTimeout.seconds
    (x ∈ (c.session s hs ()).1 ∧ x.log.head? = some (.get x.ns x.name t (.ok (some o))) ∧
      o.annotation? s.managedAnnotation ≠ some (.str "true") ∧
      x.result = .ok (some .unmanaged) ∧ x.log = [.get x.ns x.name t (.ok (some o))]) ∧
    ((∀ y ∈ (c.session s hs ()).1, ∀ t₀ o', .get "default" "web" t₀ (.ok (some o')) ∈ y.log →
        o'.annotation? s.managedAnnotation ≠ some (.str "true")) ∧
      ∀ y ∈ (c.session s hs ()).1, y.ns = "default" → y.name = "web" →
        ∀ body t a, .update body t a ∉ y.log) := by
  intro s o c hs x t
  have hx : x ∈ (c.session s hs ()).1 := List.mem_cons_self
  have hunmanaged : o.annotation? s.managedAnnotation ≠ some (.str "true") :=
    (Identity.isManaged_eq_false_iff s o).1 rfl
  -- the one reconcile of the run reads `o` and nothing else
  have hreads : ∀ y ∈ (c.session s hs ()).1, ∀ t₀ o', .get "default" "web" t₀ (.ok (some o')) ∈ y.log →
      o'.annotation? s.managedAnnotation ≠ some (.str "true") := by
    intro y hy t₀ o' hget
    cases hy with
    | head =>
        cases hget with
        | head => exact hunmanaged
        | tail _ h => cases h
    | tail _ h => cases h
  have hleft := unmanaged_account_left_alone c s hs ()
  exact ⟨⟨hx, rfl, hunmanaged, hleft.1 x hx t o rfl hunmanaged⟩, hreads,
    hleft.2 "default" "web" hreads⟩

/-- A reconcile that fails, in any run of the operator, writes nothing, with one
exception: a registration that created an entry may have recorded its id on the
account as it was read, changing nothing else (the finalizer stays absent). In
particular a reconcile writes nothing when it fails without creating an entry,
as it does when the cluster context, the admin credential (for any reason but
its absence), the creation or the revocation fails, or when the deadline runs
out or is cancelled before the creation. -/
theorem failed_reconcile_keeps_account (hs : List (Happening W)) (w : W) :
    ∀ x ∈ (c.session s hs w).1, ∀ e, x.result = .error e →
      (x.log.filterMap Exchange.written? = [] ∨
        ∃ t₀ o req tc id, x.log.head? = some (.get x.ns x.name t₀ (.ok (some o))) ∧
          o.lifecycle s = .pendingRegistration ∧ .createEntry req tc (.ok id) ∈ x.log ∧
          x.log.filterMap Exchange.written? = [{ o with
            annotations := Value.setEntry o.annotations s.entryIdAnnotation (.str id) }]) ∧
      ((∃ tc e', .clusterContext tc (.error e') ∈ x.log) ∨
          (∃ tc e', .adminCredential tc (.error e') ∈ x.log ∧ e'.kind ≠ .credentialLookup) ∨
          (∃ req tc e', .createEntry req tc (.error e') ∈ x.log) ∨
          (∃ req tr e', .revokeEntry req tr (.error e') ∈ x.log) ∨
          (∀ req tc id, .createEntry req tc (.ok id) ∉ x.log) →
        x.log.filterMap Exchange.written? = []) := by
  intro x hx e hfailed
  have hlog := c.session_log s hx
  have hwritten := hlog.written_of_error hfailed
  refine ⟨hwritten, fun hcause => ?_⟩
  -- each named failure leaves no entry created, and without one nothing is recorded
  have hnone : ∀ req tc id, .createEntry req tc (.ok id) ∉ x.log := by
    rcases hcause with h | h | h | h | h
    · exact hlog.no_entry_of_failure (.inl h)
    · exact hlog.no_entry_of_failure (.inr (.inl h))
    · exact hlog.no_entry_of_failure (.inr (.inr (.inl h)))
    · exact hlog.no_entry_of_failure (.inr (.inr (.inr h)))
    · exact h
  rcases hwritten with hw | ⟨t₀, o, req, tc, id, -, -, hcreated, -⟩
  · exact hw
  · exact absurd hcreated (hnone req tc id)

/-- A registration whose cluster context cannot be read fails and writes
nothing. -/
theorem context_failure_writes_nothing :
    let e : OperatorError := .clusterInfoMissing "kube-system" "kubeadm-config"
    let c := Collaborators.constant (.sample {} "true" [] false) (.error e)
    let x := (c.reconciled {} "default" "web" ()).1
    x ∈ (c.session {} [.reconcile "default" "web"] ()).1 ∧ x.result = .error e ∧
      .clusterContext (some ({} : Settings).requestTimeout.seconds) (.error e) ∈ x.log ∧
      x.log.filterMap Exchange.written? = [] := by
  intro e c x
  have hx : x ∈ (c.session {} [.reconcile "default" "web"] ()).1 := List.mem_cons_self
  have hfail : .clusterContext (some ({} : Settings).requestTimeout.seconds) (.error e) ∈ x.log :=
    List.mem_cons_of_mem _ List.mem_cons_self
  exact ⟨hx, rfl, hfail,
    (failed_reconcile_keeps_account c {} _ () x hx e rfl).2 (.inl ⟨_, _, hfail⟩)⟩

end

end SpireEnroll
