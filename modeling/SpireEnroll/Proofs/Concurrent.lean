import Mathlib
import SpireEnroll.Proofs.Writes

/-!
# Reconciles that run at once

Any number of reconciles of one account may run at the same time, each making
its own calls, against one store that takes a write only at the version it
holds, while outside writers change the account as well. A run is the list of
their calls and of the outside writes in the order they happened (`Move`); how
the store answers and changes at each of them is `Held.Takes`, given what
outside writers may put, and `Held.Step` when they keep a recorded entry id.

Whatever the interleaving, whichever calls fail and whatever outside writers put,
a write goes through only on the account the store holds, which it changes as
the write's one change says, and a write made on an account the store no longer
holds is refused (`Held.Tracked`, `write_changes_one_thing`). As long as no
outside writer blanks a recorded entry id, moreover:

* an entry is created only by a reconcile that read the account managed, not
  being deleted, and without an entry id;
* at most one write recording an entry id goes through;
* entries created number at most one more than the recording writes that failed,
  since the call right after the creation of an entry is the write that records
  it.

The proof carries one invariant of the store and the logs so far
(`Held.Current`, which extends `Held.Tracked`). A write goes through only when
the account it modifies is the one the store holds, so a second recording write
would modify an account without an entry id, while from the first recording on
the store holds one.
-/

namespace SpireEnroll

theorem append_cons_eq_of_unique {α : Type} {P : α → Bool} {A B A' B' : List α} {x x' : α}
    (h : A ++ x :: B = A' ++ x' :: B') (hx' : P x' = true)
    (hA : ∀ y ∈ A, P y = false) (hB : ∀ y ∈ B, P y = false) :
    A = A' ∧ x = x' ∧ B = B' := by
  induction A generalizing A' with
  | nil =>
      cases A' with
      | nil =>
          simp only [List.nil_append, List.cons.injEq] at h
          exact ⟨rfl, h.1, h.2⟩
      | cons y A' =>
          simp only [List.nil_append, List.cons_append, List.cons.injEq] at h
          have hmem : x' ∈ B := by
            rw [h.2]
            simp
          rw [hB x' hmem] at hx'
          cases hx'
  | cons y A ih =>
      cases A' with
      | nil =>
          simp only [List.cons_append, List.nil_append, List.cons.injEq] at h
          rw [← h.1, hA y List.mem_cons_self] at hx'
          cases hx'
      | cons z A' =>
          simp only [List.cons_append, List.cons.injEq] at h
          obtain ⟨rfl, hrest⟩ := h
          obtain ⟨rfl, rfl, rfl⟩ := ih hrest fun y hy => hA y (List.mem_cons_of_mem _ hy)
          exact ⟨rfl, rfl, rfl⟩

theorem sum_le_one_of_unique {l : List Nat} (hle : ∀ a ∈ l, a ≤ 1)
    (huniq : ∀ (i j : Nat) (a b : Nat), l[i]? = some a → l[j]? = some b → 0 < a → 0 < b →
      i = j) :
    l.sum ≤ 1 := by
  induction l with
  | nil => simp
  | cons a l ih =>
      rw [List.sum_cons]
      by_cases ha : a = 0
      · rw [ha, Nat.zero_add]
        refine ih (fun b hb => hle b (List.mem_cons_of_mem _ hb)) ?_
        intro i j b c hb hc hb0 hc0
        have hij := huniq (i + 1) (j + 1) b c hb hc hb0 hc0
        omega
      · -- `a` is the number that is not zero, so the others are all zero
        have hrest : l.sum = 0 := by
          rw [List.sum_eq_zero_iff_forall_eq_nat]
          intro b hb
          obtain ⟨j, hj⟩ := List.mem_iff_getElem?.1 hb
          by_contra hb0
          have h0j := huniq 0 (j + 1) a b rfl hj (Nat.pos_of_ne_zero ha) (Nat.pos_of_ne_zero hb0)
          omega
        have ha1 := hle a List.mem_cons_self
        omega

/-! ## Writes that record an entry id -/

namespace Exchange

/-- Whether a call created an entry. -/
def created : Exchange → Bool
  | .createEntry _ _ (.ok _) => true
  | _ => false

def recordAfter : Exchange → Exchange → Option (Except OperatorError Identity)
  | .createEntry _ _ (.ok _), .update _ _ a => some a
  | _, _ => none

/-- The answers of the writes of a log that record an entry id. -/
def records : List Exchange → List (Except OperatorError Identity)
  | u :: v :: l => (recordAfter u v).toList ++ records (v :: l)
  | _ => []

def RecordedOk (L : List Exchange) : Prop :=
  ∃ o, .ok o ∈ records L

/-- Every entry created in a log has a non-empty id. -/
def IdsGiven (L : List Exchange) : Prop :=
  ∀ req t id, .createEntry req t (.ok id) ∈ L → id ≠ ""

theorem recordAfter_of_created_eq_false {u : Exchange} (h : u.created = false) (v : Exchange) :
    recordAfter u v = none := by
  unfold recordAfter
  split
  · simp [created] at h
  · rfl

theorem recordAfter_eq_some {u v : Exchange} {a : Except OperatorError Identity}
    (h : recordAfter u v = some a) :
    (∃ req t id, u = .createEntry req t (.ok id)) ∧ ∃ body t', v = .update body t' a := by
  unfold recordAfter at h
  split at h
  · cases h
    exact ⟨⟨_, _, _, rfl⟩, _, _, rfl⟩
  · cases h

@[simp] theorem records_nil : records [] = [] := rfl

theorem records_cons_of_created_eq_false {u : Exchange} (h : u.created = false)
    (l : List Exchange) : records (u :: l) = records l := by
  cases l with
  | nil => rfl
  | cons v l => rw [records, recordAfter_of_created_eq_false h, Option.toList_none, List.nil_append]

theorem records_created (req : RegistrationRequest) (t t' : Option Rat) (id : String)
    (body : Identity) (a : Except OperatorError Identity) (l : List Exchange) :
    records (.createEntry req t (.ok id) :: .update body t' a :: l) = a :: records l := by
  rw [records, records_cons_of_created_eq_false rfl]
  rfl

theorem records_append_of_not_created {A : List Exchange} (hA : ∀ u ∈ A, u.created = false)
    (l : List Exchange) : records (A ++ l) = records l := by
  induction A with
  | nil => rfl
  | cons u A ih =>
      rw [List.cons_append, records_cons_of_created_eq_false (hA u List.mem_cons_self)]
      exact ih fun v hv => hA v (List.mem_cons_of_mem _ hv)

theorem records_eq_nil {l : List Exchange} (hl : ∀ u ∈ l, u.created = false) :
    records l = [] := by
  have h := records_append_of_not_created hl []
  rw [List.append_nil] at h
  exact h

theorem records_append_singleton (l : List Exchange) (v : Exchange) :
    records (l ++ [v]) = records l ++ (l.getLast?.bind fun u => recordAfter u v).toList := by
  induction l with
  | nil => rfl
  | cons u l ih =>
      cases l with
      | nil => simp [records]
      | cons w l =>
          have hstep : records (u :: w :: l ++ [v]) =
              (recordAfter u w).toList ++ records (w :: l ++ [v]) := by
            rfl
          rw [hstep, ih, records, List.getLast?_cons_cons, List.append_assoc]

theorem recordedOk_of_countP_pos {L : List Exchange}
    (h : 0 < (records L).countP Except.isOk) : RecordedOk L := by
  obtain ⟨a, ha, hok⟩ := List.countP_pos_iff.1 h
  cases a with
  | ok o => exact ⟨o, ha⟩
  | error e => cases hok

theorem recordedOk_append_singleton {l : List Exchange} {v : Exchange}
    (h : RecordedOk (l ++ [v])) :
    RecordedOk l ∨ ∃ req tc id body t o, l.getLast? = some (.createEntry req tc (.ok id)) ∧
      v = .update body t (.ok o) := by
  obtain ⟨o, ho⟩ := h
  rw [records_append_singleton, List.mem_append] at ho
  rcases ho with ho | ho
  · exact .inl ⟨o, ho⟩
  · right
    cases hlast : l.getLast? with
    | none =>
        rw [hlast] at ho
        simp at ho
    | some u =>
        rw [hlast, Option.bind_some, Option.mem_toList] at ho
        obtain ⟨⟨req, tc, id, rfl⟩, body, t, rfl⟩ := recordAfter_eq_some ho
        exact ⟨req, tc, id, body, t, o, rfl, rfl⟩

@[simp] theorem lastObtained_singleton (x : Exchange) : lastObtained [x] = x.obtained? := by
  cases h : x.obtained? <;> simp [lastObtained, h]

end Exchange

section Logs

variable {s : Settings} {ns name : String}

theorem CredentialLog.not_created {L : List Exchange} {r : Except OperatorError String}
    (h : CredentialLog L r) : ∀ u ∈ L, u.created = false := by
  intro u hu
  rcases h.mem hu with ⟨t, a, rfl⟩ | rfl <;> rfl

theorem WriteLog.not_created {due : Bool} {body : Identity} {out : Lifecycle} {L : List Exchange}
    {r : Except OperatorError Lifecycle} (h : WriteLog due body out L r) :
    ∀ u ∈ L, u.created = false := by
  intro u hu
  obtain ⟨t, a, rfl⟩ := h.mem hu
  rfl

theorem RevokeLog.not_created {o : Identity} {L : List Exchange}
    {r : Except OperatorError Lifecycle} (h : RevokeLog s o L r) :
    ∀ u ∈ L, u.created = false := by
  cases h with
  | expired _ | contextFailed | expiredAfterContext _ | revokeFailed => simp [Exchange.created]
  | revoked hw =>
      refine List.forall_mem_cons.2 ⟨rfl, List.forall_mem_cons.2 ⟨rfl, ?_⟩⟩
      exact hw.not_created

theorem ReconcileLog.created_split {L : List Exchange} {r : Except OperatorError (Option Lifecycle)}
    (h : ReconcileLog s ns name L r) :
    (∀ u ∈ L, u.created = false) ∨
      ∃ t₀ o pre req t id a post,
        L = .get ns name t₀ (.ok (some o)) :: (pre ++ .createEntry req t (.ok id) ::
          .update ( o.setAnnotation s.entryIdAnnotation (.str id))
            (some s.requestTimeout.seconds) a :: post) ∧
        o.lifecycle s = .pendingRegistration ∧ Exchange.lastObtained pre = none ∧
        (∀ u ∈ pre, u.created = false) ∧ ∀ u ∈ post, u.created = false := by
  cases h with
  | expired _ | readFailed | missing | unmanaged _ => simp [Exchange.created]
  | revoking _ hrev => exact .inl (List.forall_mem_cons.2 ⟨rfl, hrev.not_created⟩)
  | ensuring _ hw => exact .inl (List.forall_mem_cons.2 ⟨rfl, hw.not_created⟩)
  | registering hlife hreg =>
      cases hreg with
      | expired _ | contextFailed => simp [Exchange.created]
      | credentialFailed hc | expiredBeforeCreate hc _ =>
          left
          refine List.forall_mem_cons.2 ⟨rfl, List.forall_mem_cons.2 ⟨rfl, ?_⟩⟩
          exact hc.not_created
      | createFailed hc =>
          left
          refine List.forall_mem_cons.2 ⟨rfl, List.forall_mem_cons.2 ⟨rfl, ?_⟩⟩
          exact List.forall_mem_append.2 ⟨hc.not_created, by simp [Exchange.created]⟩
      | recordFailed hc =>
          right
          refine ⟨_, _, _ :: _, _, _, _, _, [], rfl, hlife, ?_, ?_, by simp⟩
          · simp [hc.lastObtained, Exchange.obtained?]
          · exact List.forall_mem_cons.2 ⟨rfl, hc.not_created⟩
      | recorded hc hw =>
          right
          refine ⟨_, _, _ :: _, _, _, _, _, _, rfl, hlife, ?_, ?_, hw.not_created⟩
          · simp [hc.lastObtained, Exchange.obtained?]
          · exact List.forall_mem_cons.2 ⟨rfl, hc.not_created⟩

theorem ReconcileLog.created_count {L : List Exchange} {r : Except OperatorError (Option Lifecycle)}
    (h : ReconcileLog s ns name L r) :
    L.countP Exchange.created = (Exchange.records L).length ∧
      (Exchange.records L).length ≤ 1 := by
  rcases h.created_split with
    hnone | ⟨t₀, o, pre, req, t, id, a, post, rfl, -, -, hpre, hpost⟩
  · have hcount : L.countP Exchange.created = 0 :=
      List.countP_eq_zero.2 fun u hu => by simp [hnone u hu]
    rw [hcount, Exchange.records_eq_nil hnone]
    simp
  · have hrec : Exchange.records (.get ns name t₀ (.ok (some o)) :: (pre ++
        .createEntry req t (.ok id) :: .update ( o.setAnnotation s.entryIdAnnotation (.str id))
          (some s.requestTimeout.seconds) a :: post)) = [a] := by
      rw [Exchange.records_cons_of_created_eq_false rfl,
        Exchange.records_append_of_not_created hpre, Exchange.records_created,
        Exchange.records_eq_nil hpost]
    have hpre0 : pre.countP Exchange.created = 0 :=
      List.countP_eq_zero.2 fun u hu => by simp [hpre u hu]
    have hpost0 : post.countP Exchange.created = 0 :=
      List.countP_eq_zero.2 fun u hu => by simp [hpost u hu]
    rw [hrec]
    simp [List.countP_cons, List.countP_append, hpre0, hpost0, Exchange.created]

theorem ReconcileLog.record_write {L : List Exchange} {r : Except OperatorError (Option Lifecycle)}
    (h : ReconcileLog s ns name L r) {pre post : List Exchange} {req : RegistrationRequest}
    {tc t : Option Rat} {id : String} {body : Identity} {a : Except OperatorError Identity}
    (hL : L = pre ++ .createEntry req tc (.ok id) :: .update body t a :: post) :
    ∃ o, Exchange.lastObtained pre = some o ∧ o.lifecycle s = .pendingRegistration ∧
      body = o.setAnnotation s.entryIdAnnotation (.str id) ∧
      t = some s.requestTimeout.seconds := by
  rcases h.created_split with
    hnone | ⟨t₀, o, pre', req', tc', id', a', post', hL', hlife, hlast, hpre, hpost⟩
  · have hc := hnone (.createEntry req tc (.ok id)) (by rw [hL]; simp)
    cases hc
  · rw [hL] at hL'
    -- the creation is the only call that creates, so both splits are the same
    have hsplit := append_cons_eq_of_unique (P := Exchange.created)
      (A := .get ns name t₀ (.ok (some o)) :: pre') hL'.symm rfl
      (List.forall_mem_cons.2 ⟨rfl, hpre⟩) (List.forall_mem_cons.2 ⟨rfl, hpost⟩)
    obtain ⟨rfl, hc, hu⟩ := hsplit
    cases hc
    simp only [List.cons.injEq, Exchange.update.injEq] at hu
    obtain ⟨⟨rfl, rfl, -⟩, -⟩ := hu
    refine ⟨o, ?_, hlife, rfl, rfl⟩
    simp [hlast, Exchange.obtained?]

theorem ReconcileLog.read_before_create {L : List Exchange}
    {r : Except OperatorError (Option Lifecycle)} (h : ReconcileLog s ns name L r)
    {req : RegistrationRequest} {t : Option Rat} {a : Except OperatorError String}
    (hc : .createEntry req t a ∈ L) :
    ∃ t₀ o rest, L = .get ns name t₀ (.ok (some o)) :: rest ∧
      o.lifecycle s = .pendingRegistration := by
  cases h with
  | expired _ | readFailed | missing | unmanaged _ => simp at hc
  | revoking _ hrev =>
      cases hrev with
      | expired _ | contextFailed | expiredAfterContext _ | revokeFailed => simp at hc
      | revoked hw => simp [hw.not_mem] at hc
  | ensuring _ hw => simp [hw.not_mem] at hc
  | registering hlife _ => exact ⟨_, _, _, rfl, hlife⟩

end Logs

def WriteFits (s : Settings) (pre : List Exchange) (u : Exchange) : Prop :=
  ∀ body t a, u = .update body t a → ∃ o, Exchange.lastObtained pre = some o ∧
    body.resourceVersion = o.resourceVersion ∧
    (o.hasEntryId s = true → body.hasEntryId s = true) ∧
    ∀ req tc id, pre.getLast? = some (.createEntry req tc (.ok id)) →
      o.hasEntryId s = false ∧ body = o.setAnnotation s.entryIdAnnotation (.str id)

theorem ReconcileLog.writes_fit {s : Settings} {ns name : String} {L : List Exchange}
    {r : Except OperatorError (Option Lifecycle)} (h : ReconcileLog s ns name L r) :
    EachAfter (WriteFits s) [] L := by
  intro pre u post hL body t a hu
  subst hu
  rw [List.nil_append]
  obtain ⟨o, hlast, hchange⟩ := h.writes_follow pre _ post hL body t a rfl
  rw [List.nil_append] at hlast
  refine ⟨o, hlast, ?_, ?_, ?_⟩
  · rcases hchange with ⟨_, _, _, _, _, rfl⟩ | ⟨_, rfl⟩ | ⟨_, _, _, rfl⟩ <;> rfl
  · intro hid
    rcases hchange with ⟨_, _, _, _, hno, _⟩ | ⟨_, rfl⟩ | ⟨_, _, _, rfl⟩
    · rw [hid] at hno
      cases hno
    · exact hid
    · exact hid
  · intro req tc id hcreate
    obtain ⟨pre₀, rfl⟩ := List.getLast?_eq_some_iff.1 hcreate
    obtain ⟨o', hlast', hlife, hbody, -⟩ := h.record_write (by rw [hL, List.append_assoc]; rfl)
    have ho : o' = o := by
      simp only [Exchange.lastObtained_append, hlast'] at hlast
      simpa [Exchange.lastObtained, Exchange.obtained?] using hlast
    subst ho
    exact ⟨Identity.hasEntryId_eq_false_of_pendingRegistration _ _ hlife, hbody⟩

/-! ## Runs of several reconciles -/

/-- One event of a run of reconciles of one account against one store: a call
reconcile `p` made, with its answer, or a write from outside. -/
inductive Move where
  | call (p : Nat) (x : Exchange)
  | outside (o : Identity)

namespace Move

def callOf? (p : Nat) : Move → Option Exchange
  | .call q x => if q = p then some x else none
  | .outside _ => none

/-- The calls reconcile `p` made in a run, in order: its own log. -/
def logOf (h : List Move) (p : Nat) : List Exchange :=
  h.filterMap (callOf? p)

@[simp] theorem logOf_nil (p : Nat) : logOf [] p = [] := rfl

@[simp] theorem logOf_append (h h' : List Move) (p : Nat) :
    logOf (h ++ h') p = logOf h p ++ logOf h' p :=
  List.filterMap_append

@[simp] theorem logOf_call (q : Nat) (x : Exchange) (p : Nat) :
    logOf [.call q x] p = if q = p then [x] else [] := by
  by_cases hq : q = p <;> simp [logOf, callOf?, hq]

@[simp] theorem logOf_outside (o : Identity) (p : Nat) : logOf [.outside o] p = [] := rfl

theorem logOf_snoc_of_ne {h : List Move} {q : Nat} {x : Exchange} {p : Nat} (hq : q ≠ p) :
    logOf (h ++ [.call q x]) p = logOf h p := by
  simp [hq]

end Move

/-- A store of one account, as a run sees it: the account it holds, and the
states it held before, latest first. -/
structure Held where
  account : Identity
  past : List Identity

namespace Held

def states (H : Held) : List Identity :=
  H.account :: H.past

/-- The store once it took `o`. -/
def put (H : Held) (o : Identity) : Held :=
  ⟨o, H.states⟩

/-- A version the store never gave out: set, and the version of no state it held. -/
def Fresh (H : Held) (v : Option String) : Prop :=
  v.isSome = true ∧ ∀ a ∈ H.states, a.resourceVersion ≠ v

def Admits (H : Held) (body : Identity) : Prop :=
  body.resourceVersion = none ∨ body.resourceVersion = H.account.resourceVersion

/-- The account a write of `body` leaves at the version `v`: the body's
annotations and finalizers, the rest as held. -/
def written (H : Held) (body : Identity) (v : Option String) : Identity :=
  { H.account with annotations := body.annotations, finalizers := body.finalizers,
                   resourceVersion := v }

@[simp] theorem states_put (H : Held) (o : Identity) : (H.put o).states = o :: H.states := rfl

@[simp] theorem put_account (H : Held) (o : Identity) : (H.put o).account = o := rfl

@[simp] theorem put_past (H : Held) (o : Identity) : (H.put o).past = H.states := rfl

@[simp] theorem written_resourceVersion (H : Held) (body : Identity) (v : Option String) :
    (H.written body v).resourceVersion = v := rfl

theorem written_hasEntryId (s : Settings) (H : Held) (body : Identity) (v : Option String) :
    (H.written body v).hasEntryId s = body.hasEntryId s := rfl

/-- What one move does to the store, when an outside writer may put over the
account held any account `Allowed` admits. A read hands back the account held,
and a call that neither reads nor writes an account leaves the store alone,
whatever it answers. A write the store admits goes through at a fresh version
and hands back the account written; a write that fails was refused, or went
through with its answer lost. An outside writer puts an account at a fresh
version. -/
inductive Takes (Allowed : Identity → Identity → Prop) : Held → Move → Held → Prop where
  | read {H : Held} {p : Nat} {ns name : String} {t : Option Rat} :
      Takes Allowed H (.call p (.get ns name t (.ok (some H.account)))) H
  | quiet {H : Held} {p : Nat} {x : Exchange} :
      x.obtained? = none → (∀ body t a, x ≠ .update body t a) → Takes Allowed H (.call p x) H
  | wrote {H : Held} {p : Nat} {body : Identity} {t : Option Rat} {v : Option String} :
      H.Admits body → H.Fresh v →
      Takes Allowed H (.call p (.update body t (.ok (H.written body v))))
        (H.put (H.written body v))
  | refused {H : Held} {p : Nat} {body : Identity} {t : Option Rat} {e : OperatorError} :
      Takes Allowed H (.call p (.update body t (.error e))) H
  | lost {H : Held} {p : Nat} {body : Identity} {t : Option Rat} {e : OperatorError}
      {v : Option String} :
      H.Admits body → H.Fresh v →
      Takes Allowed H (.call p (.update body t (.error e))) (H.put (H.written body v))
  | outside {H : Held} {o : Identity} :
      H.Fresh o.resourceVersion → Allowed H.account o → Takes Allowed H (.outside o) (H.put o)

/-- A move among outside writers that keep a recorded entry id. -/
def Step (s : Settings) : Held → Move → Held → Prop :=
  Takes fun a o => a.hasEntryId s = true → o.hasEntryId s = true

/-- A run of moves, each a `step`, taking the store from one state to another. -/
inductive RunsWith (step : Held → Move → Held → Prop) : Held → List Move → Held → Prop where
  | nil {H : Held} : RunsWith step H [] H
  | snoc {H H' H'' : Held} {h : List Move} {m : Move} :
      RunsWith step H h H' → step H' m H'' → RunsWith step H (h ++ [m]) H''

/-- A run among outside writers that keep a recorded entry id. -/
def Runs (s : Settings) : Held → List Move → Held → Prop :=
  RunsWith (Step s)

/-- What a run keeps true of the store and of the logs so far, whatever outside
writers do: every state held has a version, and the current version is that of
no earlier state; and every account last handed back to a reconcile is a state
of the store. -/
structure Tracked (H : Held) (h : List Move) : Prop where
  versioned : ∀ a ∈ H.states, a.resourceVersion.isSome = true
  latest : ∀ a ∈ H.past, a.resourceVersion ≠ H.account.resourceVersion
  seen : ∀ p o, Exchange.lastObtained (Move.logOf h p) = some o → o ∈ H.states

/-- What a run among outside writers that keep a recorded entry id keeps true
besides `Tracked`: at most one reconcile recorded an entry id with success, after
which the store holds an entry id. -/
structure Current (s : Settings) (H : Held) (h : List Move) : Prop extends Tracked H h where
  single : ∀ p q, Exchange.RecordedOk (Move.logOf h p) →
    Exchange.RecordedOk (Move.logOf h q) → p = q
  kept : ∀ p, Exchange.RecordedOk (Move.logOf h p) → H.account.hasEntryId s = true

variable {s : Settings} {Allowed : Identity → Identity → Prop} {H H' : Held} {h : List Move}
  {m : Move}

namespace Tracked

theorem start {o : Identity} (hv : o.resourceVersion.isSome = true) : Tracked ⟨o, []⟩ [] where
  versioned := by simpa [states] using hv
  latest := by simp
  seen := by simp

theorem modifies_held (ht : Tracked H h) {o body : Identity} (ho : o ∈ H.states)
    (hrv : body.resourceVersion = o.resourceVersion) (hadm : H.Admits body) : o = H.account := by
  have hsome : o.resourceVersion.isSome = true := ht.versioned o ho
  have hsame : o.resourceVersion = H.account.resourceVersion := by
    rcases hadm with hnone | heq
    · rw [hrv] at hnone
      rw [hnone] at hsome
      cases hsome
    · rw [← hrv, heq]
  rcases List.mem_cons.1 ho with rfl | hpast
  · rfl
  · exact absurd hsame (ht.latest o hpast)

theorem write_modifies_held (ht : Tracked H h) {p : Nat} {body : Identity} {t : Option Rat}
    {a : Except OperatorError Identity} (hfit : WriteFits s (Move.logOf h p) (.update body t a))
    (hadm : H.Admits body) :
    ∃ o, Exchange.lastObtained (Move.logOf h p) = some o ∧ o = H.account ∧
      (o.hasEntryId s = true → body.hasEntryId s = true) ∧
      ∀ req tc id, (Move.logOf h p).getLast? = some (.createEntry req tc (.ok id)) →
        o.hasEntryId s = false ∧ body = o.setAnnotation s.entryIdAnnotation (.str id) := by
  obtain ⟨o, hlast, hrv, hkeep, hrecord⟩ := hfit body t a rfl
  exact ⟨o, hlast, ht.modifies_held (ht.seen p o hlast) hrv hadm, hkeep, hrecord⟩

end Tracked

theorem Takes.obtained {p : Nat} {x : Exchange} (hstep : Takes Allowed H (.call p x) H') :
    x.obtained? = none ∨ x.obtained? = some H'.account := by
  cases hstep with
  | read => exact .inr rfl
  | quiet hx _ => exact .inl hx
  | wrote _ _ => exact .inr rfl
  | refused | lost _ _ => exact .inl rfl

theorem Takes.states_subset (hstep : Takes Allowed H m H') : ∀ a ∈ H.states, a ∈ H'.states := by
  intro a ha
  cases hstep <;> simp [ha]

theorem Tracked.step (ht : Tracked H h) (hstep : Takes Allowed H m H') : Tracked H' (h ++ [m]) := by
  constructor
  · intro a ha
    cases hstep with
    | read | quiet _ _ | refused => exact ht.versioned a ha
    | wrote _ hv | lost _ hv | outside hv _ =>
        rcases List.mem_cons.1 ha with rfl | ha
        · exact hv.1
        · exact ht.versioned a ha
  · intro a ha
    cases hstep with
    | read | quiet _ _ | refused => exact ht.latest a ha
    | wrote _ hv | lost _ hv | outside hv _ => exact hv.2 a ha
  · intro p o hlast
    rw [Move.logOf_append, Exchange.lastObtained_append] at hlast
    cases m with
    | outside o' =>
        rw [Move.logOf_outside] at hlast
        exact hstep.states_subset o (ht.seen p o hlast)
    | call q x =>
        by_cases hq : q = p
        · subst hq
          rw [Move.logOf_call, if_pos rfl, Exchange.lastObtained_singleton] at hlast
          rcases hstep.obtained with hnone | hsome
          · rw [hnone, Option.none_or] at hlast
            exact hstep.states_subset o (ht.seen q o hlast)
          · rw [hsome, Option.some_or] at hlast
            cases hlast
            exact List.mem_cons_self
        · rw [Move.logOf_call, if_neg hq, Exchange.lastObtained_nil, Option.none_or] at hlast
          exact hstep.states_subset o (ht.seen p o hlast)

/-- A write of a reconcile lands on the account the store holds or changes
nothing. When it goes through, the account the reconcile last had handed back is
the one held, and the store then holds that account with the body's annotations
and finalizers at a fresh version; otherwise it failed and the store is as it
was. -/
theorem Tracked.write_lands (ht : Tracked H h) {p : Nat} {body : Identity} {t : Option Rat}
    {a : Except OperatorError Identity} (hstep : Takes Allowed H (.call p (.update body t a)) H')
    (hfit : WriteFits s (Move.logOf h p) (.update body t a)) :
    (Exchange.lastObtained (Move.logOf h p) = some H.account ∧
        ∃ v, H.Fresh v ∧ H' = H.put (H.written body v)) ∨
      (H' = H ∧ ∃ e, a = .error e) := by
  cases hstep with
  | quiet _ hx => exact absurd rfl (hx body t a)
  | wrote hadm hv | lost hadm hv =>
      obtain ⟨o, hlast, rfl, -, -⟩ := ht.write_modifies_held hfit hadm
      exact .inl ⟨hlast, _, hv, rfl⟩
  | refused => exact .inr ⟨rfl, _, rfl⟩

namespace RunsWith

variable {step : Held → Move → Held → Prop} {H₀ : Held}

theorem cons (hstep : step H₀ m H') (hr : RunsWith step H' h H) : RunsWith step H₀ (m :: h) H := by
  induction hr with
  | nil => exact .snoc .nil hstep
  | @snoc H₁ H₂ h m' hr hstep' ih =>
      rw [← List.cons_append]
      exact .snoc ih hstep'

theorem snoc_inv (hr : RunsWith step H₀ (h ++ [m]) H) : ∃ H', RunsWith step H₀ h H' ∧ step H' m H := by
  generalize hl : h ++ [m] = l at hr
  cases hr with
  | nil => simp at hl
  | snoc hr hstep =>
      obtain ⟨rfl, rfl⟩ := List.append_singleton_inj.1 hl
      exact ⟨_, hr, hstep⟩

theorem append_inv {h' : List Move} (hr : RunsWith step H₀ (h ++ h') H) :
    ∃ H', RunsWith step H₀ h H' ∧ RunsWith step H' h' H := by
  induction h' using List.reverseRecOn generalizing H with
  | nil => exact ⟨H, by simpa using hr, .nil⟩
  | append_singleton h' m ih =>
      rw [← List.append_assoc] at hr
      obtain ⟨H₁, hr₁, hstep⟩ := hr.snoc_inv
      obtain ⟨H', hr', hr''⟩ := ih hr₁
      exact ⟨H', hr', .snoc hr'' hstep⟩

theorem split {h₁ h₂ : List Move} (hr : RunsWith step H₀ (h₁ ++ m :: h₂) H) :
    ∃ H₁ H₂, RunsWith step H₀ h₁ H₁ ∧ step H₁ m H₂ ∧ RunsWith step H₂ h₂ H := by
  rw [← List.singleton_append, ← List.append_assoc] at hr
  obtain ⟨H₂, hr₂, hrest⟩ := hr.append_inv
  obtain ⟨H₁, hr₁, hstep⟩ := hr₂.snoc_inv
  exact ⟨H₁, H₂, hr₁, hstep, hrest⟩

theorem tracked (hr : RunsWith (Takes Allowed) H₀ h H) (h₀ : Tracked H₀ []) : Tracked H h := by
  induction hr with
  | nil => exact h₀
  | snoc _ hstep ih => exact ih.step hstep

end RunsWith

namespace Current

theorem start {o : Identity} (hv : o.resourceVersion.isSome = true) : Current s ⟨o, []⟩ [] where
  toTracked := Tracked.start hv
  single := by simp [Exchange.RecordedOk]
  kept := by simp [Exchange.RecordedOk]

end Current

theorem Step.keeps_entryId (hc : Current s H h) (hstep : Step s H m H')
    (hfit : ∀ p x, m = .call p x → WriteFits s (Move.logOf h p) x)
    (hid : H.account.hasEntryId s = true) : H'.account.hasEntryId s = true := by
  cases hstep with
  | read | quiet _ _ | refused => exact hid
  | @wrote p body t v hadm _ | @lost p body t _ v hadm _ =>
      obtain ⟨o, -, rfl, hkeep, -⟩ := hc.write_modifies_held (hfit p _ rfl) hadm
      rw [put_account, written_hasEntryId]
      exact hkeep hid
  | outside _ hkeep => exact hkeep hid

theorem Step.records_first (hc : Current s H h) {p : Nat} {body : Identity} {t : Option Rat}
    {o' : Identity} (hstep : Step s H (.call p (.update body t (.ok o'))) H')
    (hfit : WriteFits s (Move.logOf h p) (.update body t (.ok o')))
    (hids : Exchange.IdsGiven (Move.logOf h p)) {req : RegistrationRequest} {tc : Option Rat}
    {id : String} (hcreate : (Move.logOf h p).getLast? = some (.createEntry req tc (.ok id))) :
    H.account.hasEntryId s = false ∧ H'.account.hasEntryId s = true := by
  cases hstep with
  | quiet _ hx => exact absurd rfl (hx body t _)
  | @wrote _ _ _ v hadm _ =>
      obtain ⟨o, -, rfl, -, hrecord⟩ := hc.write_modifies_held hfit hadm
      obtain ⟨hnone, rfl⟩ := hrecord req tc id hcreate
      refine ⟨hnone, ?_⟩
      have hid : id ≠ "" := hids req tc id (List.mem_of_getLast? hcreate)
      rw [put_account, written_hasEntryId, Identity.hasEntryId_setAnnotation_self]
      simpa [Value.truthy] using hid

theorem recordedOk_snoc {p : Nat} (hp : Exchange.RecordedOk (Move.logOf (h ++ [m]) p)) :
    Exchange.RecordedOk (Move.logOf h p) ∨
      ∃ req tc id body t o, (Move.logOf h p).getLast? = some (.createEntry req tc (.ok id)) ∧
        m = .call p (.update body t (.ok o)) := by
  cases m with
  | outside o =>
      rw [Move.logOf_append, Move.logOf_outside, List.append_nil] at hp
      exact .inl hp
  | call q x =>
      by_cases hq : q = p
      · subst hq
        rw [Move.logOf_append, Move.logOf_call, if_pos rfl] at hp
        rcases Exchange.recordedOk_append_singleton hp with
          hp | ⟨req, tc, id, body, t, o, hc, rfl⟩
        · exact .inl hp
        · exact .inr ⟨req, tc, id, body, t, o, hc, rfl⟩
      · rw [Move.logOf_snoc_of_ne hq] at hp
        exact .inl hp

theorem Current.step (hc : Current s H h) (hstep : Step s H m H')
    (hfit : ∀ p x, m = .call p x → WriteFits s (Move.logOf h p) x)
    (hids : ∀ p, Exchange.IdsGiven (Move.logOf h p)) : Current s H' (h ++ [m]) := by
  -- a recording write that went through in this step came first
  have hfirst : ∀ p, ¬ Exchange.RecordedOk (Move.logOf h p) →
      Exchange.RecordedOk (Move.logOf (h ++ [m]) p) →
      H.account.hasEntryId s = false ∧ H'.account.hasEntryId s = true := by
    intro p hold hnew
    rcases recordedOk_snoc hnew with hnew | ⟨req, tc, id, body, t, o, hcreate, rfl⟩
    · exact absurd hnew hold
    · exact hstep.records_first hc (hfit p _ rfl) (hids p) hcreate
  refine ⟨hc.toTracked.step hstep, ?_, ?_⟩
  · intro p q hp hq
    by_cases hp' : Exchange.RecordedOk (Move.logOf h p)
    · by_cases hq' : Exchange.RecordedOk (Move.logOf h q)
      · exact hc.single p q hp' hq'
      · have hno := (hfirst q hq' hq).1
        rw [hc.kept p hp'] at hno
        cases hno
    · rcases recordedOk_snoc hp with hp'' | ⟨_, _, _, _, _, _, _, rfl⟩
      · exact absurd hp'' hp'
      · rcases recordedOk_snoc hq with hq'' | ⟨_, _, _, _, _, _, _, hm⟩
        · have hno := (hfirst p hp' hp).1
          rw [hc.kept q hq''] at hno
          cases hno
        · cases hm
          rfl
  · intro p hp
    by_cases hold : Exchange.RecordedOk (Move.logOf h p)
    · exact hstep.keeps_entryId hc hfit (hc.kept p hold)
    · exact (hfirst p hold hp).2

theorem Runs.current {H₀ : Held} (hr : Runs s H₀ h H) (h₀ : Current s H₀ [])
    (hfit : ∀ p, EachAfter (WriteFits s) [] (Move.logOf h p))
    (hids : ∀ p, Exchange.IdsGiven (Move.logOf h p)) : Current s H h := by
  induction hr with
  | nil => exact h₀
  | @snoc H' H'' h m hr hstep ih =>
      have hsplit : ∀ p, EachAfter (WriteFits s) [] (Move.logOf h p) ∧
          EachAfter (WriteFits s) (Move.logOf h p) (Move.logOf [m] p) := by
        intro p
        have h' := hfit p
        rw [Move.logOf_append, EachAfter.append_iff, List.nil_append] at h'
        exact h'
      have hids' : ∀ p, Exchange.IdsGiven (Move.logOf h p) := by
        intro p req t id hmem
        exact hids p req t id (by simp [hmem])
      refine (ih (fun p => (hsplit p).1) hids').step hstep ?_ hids'
      intro p x hm
      subst hm
      have hlast := (hsplit p).2
      rw [Move.logOf_call, if_pos rfl] at hlast
      simpa using hlast [] x [] rfl

end Held

/-! ## The bound on recorded entries -/

section Woven

variable {s : Settings} {ns name : String} {xs : List Reconciled} {h : List Move}

theorem logOf_woven (hwoven : ∀ p, Move.logOf h p = (xs[p]?.map (·.log)).getD []) (p : Nat) :
    Move.logOf h p = [] ∨ ∃ x ∈ xs, Move.logOf h p = x.log := by
  cases hx : xs[p]? with
  | none =>
      left
      rw [hwoven p, hx]
      rfl
  | some x =>
      right
      refine ⟨x, List.mem_of_getElem? hx, ?_⟩
      rw [hwoven p, hx]
      rfl

theorem write_of_woven (hwoven : ∀ p, Move.logOf h p = (xs[p]?.map (·.log)).getD [])
    {h₁ h₂ : List Move} {p : Nat} {u : Exchange} (hsplit : h = h₁ ++ .call p u :: h₂) :
    ∃ x ∈ xs, x.log = Move.logOf h₁ p ++ u :: Move.logOf h₂ p := by
  have hof : Move.logOf h p = Move.logOf h₁ p ++ u :: Move.logOf h₂ p := by
    subst hsplit
    simp [Move.logOf, Move.callOf?]
  rcases logOf_woven hwoven p with hnil | ⟨x, hx, hx'⟩
  · rw [hof] at hnil
    simp at hnil
  · exact ⟨x, hx, by rw [← hx', hof]⟩

theorem reconciled_logs (hxs : ∀ x ∈ xs, ∃ (W : Type) (c : Collaborators W) (w : W),
      x = (c.reconciled s ns name w).1) :
    ∀ x ∈ xs, ReconcileLog s ns name x.log x.result := by
  intro x hx
  obtain ⟨W, c, w, rfl⟩ := hxs x hx
  exact (c.reconciled_spec s ns name w).2.2

theorem Held.RunsWith.write_lands {Allowed : Identity → Identity → Prop} {o₀ : Identity}
    {H : Held} (hrun : Held.RunsWith (Held.Takes Allowed) ⟨o₀, []⟩ h H)
    (hv : o₀.resourceVersion.isSome = true)
    (hlog : ∀ x ∈ xs, ReconcileLog s ns name x.log x.result)
    (hwoven : ∀ p, Move.logOf h p = (xs[p]?.map (·.log)).getD []) {h₁ h₂ : List Move} {p : Nat}
    {body : Identity} {t : Option Rat} {a : Except OperatorError Identity}
    (hsplit : h = h₁ ++ .call p (.update body t a) :: h₂) :
    ∃ H₁ H₂, Held.RunsWith (Held.Takes Allowed) ⟨o₀, []⟩ h₁ H₁ ∧
      Held.Takes Allowed H₁ (.call p (.update body t a)) H₂ ∧
      Held.RunsWith (Held.Takes Allowed) H₂ h₂ H ∧
      WriteFollows s ns name (Move.logOf h₁ p) body ∧
      ((Exchange.lastObtained (Move.logOf h₁ p) = some H₁.account ∧
          ∃ v, H₁.Fresh v ∧ H₂ = H₁.put (H₁.written body v)) ∨
        (H₂ = H₁ ∧ ∃ e, a = .error e)) := by
  obtain ⟨x, hx, hL⟩ := write_of_woven hwoven hsplit
  subst hsplit
  obtain ⟨H₁, H₂, hr₁, hstep, hr₂⟩ := hrun.split
  have hfollow : WriteFollows s ns name (Move.logOf h₁ p) body :=
    (hlog x hx).writes_follow _ _ _ hL body t a rfl
  have hfit : WriteFits s (Move.logOf h₁ p) (.update body t a) :=
    (hlog x hx).writes_fit _ _ _ hL
  exact ⟨H₁, H₂, hr₁, hstep, hr₂, hfollow, (hr₁.tracked (.start hv)).write_lands hstep hfit⟩

theorem Held.Runs.current_of_woven {o₀ : Identity} {H : Held}
    (hrun : Held.Runs s ⟨o₀, []⟩ h H) (hv : o₀.resourceVersion.isSome = true)
    (hlog : ∀ x ∈ xs, ReconcileLog s ns name x.log x.result)
    (hids : ∀ x ∈ xs, Exchange.IdsGiven x.log)
    (hwoven : ∀ p, Move.logOf h p = (xs[p]?.map (·.log)).getD []) : Held.Current s H h := by
  refine hrun.current (Held.Current.start hv) (fun p => ?_) (fun p => ?_)
  · rcases logOf_woven hwoven p with hnil | ⟨x, hx, hof⟩
    · rw [hnil]
      exact EachAfter.nil _
    · rw [hof]
      exact (hlog x hx).writes_fit
  · rcases logOf_woven hwoven p with hnil | ⟨x, hx, hof⟩
    · rw [hnil]
      simp [Exchange.IdsGiven]
    · rw [hof]
      exact hids x hx

theorem records_ok_sum_le_one {H : Held} (hlog : ∀ x ∈ xs, ReconcileLog s ns name x.log x.result)
    (hwoven : ∀ p, Move.logOf h p = (xs[p]?.map (·.log)).getD [])
    (hcur : Held.Current s H h) :
    (xs.map fun x => (Exchange.records x.log).countP Except.isOk).sum ≤ 1 := by
  -- the calls of the `p`-th reconcile in the run are its log
  have hof : ∀ p x, xs[p]? = some x → Move.logOf h p = x.log := by
    intro p x hx
    rw [hwoven p, hx]
    rfl
  apply sum_le_one_of_unique
  · intro a ha
    obtain ⟨x, hx, rfl⟩ := List.mem_map.1 ha
    exact Nat.le_trans List.countP_le_length (hlog x hx).created_count.2
  · intro i j a b hi hj ha hb
    rw [List.getElem?_map] at hi hj
    obtain ⟨x, hx, rfl⟩ := Option.map_eq_some_iff.1 hi
    obtain ⟨y, hy, rfl⟩ := Option.map_eq_some_iff.1 hj
    apply hcur.single i j
    · rw [hof i x hx]
      exact Exchange.recordedOk_of_countP_pos ha
    · rw [hof j y hy]
      exact Exchange.recordedOk_of_countP_pos hb

theorem created_sum_eq (hlog : ∀ x ∈ xs, ReconcileLog s ns name x.log x.result) :
    (xs.map fun x => x.log.countP Exchange.created).sum =
      (xs.map fun x => (Exchange.records x.log).countP Except.isOk).sum +
        (xs.map fun x => (Exchange.records x.log).countP fun a => !a.isOk).sum := by
  rw [← List.sum_map_add]
  congr 1
  apply List.map_congr_left
  intro x hx
  rw [(hlog x hx).created_count.1, List.length_eq_countP_add_countP Except.isOk]
  simp

end Woven

section Race

variable {s : Settings}

/-! ### Two registrations in a race

Two reconciles read the same new account and both create an entry; the first
records its id, and the store refuses the record of the second, made at the
version both read. -/

/-- Collaborators over no world for the registration of `o`: every read finds
`o`, the registry creates the entry `id`, and a write goes through at a new
version when `accepts`, and is refused as a conflict otherwise. -/
def Collaborators.registrar (o : Identity) (id : String) (accepts : Bool) :
    Collaborators Unit where
  get _ _ _ := pure (some o)
  update o' _ :=
    if accepts then pure { o' with resourceVersion := o'.resourceVersion.map (· ++ "0") }
    else throw (.accountWriteRefused o'.key 409 "Conflict")
  clusterContext _ := pure ⟨"cluster", "example.org"⟩
  adminCredential _ := pure "admin"
  createEntry _ _ := pure id
  revokeEntry _ _ := pure ()
  countFallback _ := ()
  deadline _ := .unlimited
  clock _ := 0
  clock_le_elapse := Collaborators.zero_clock_le

/-- The account `o` after the first registration recorded `entry-1`, and after it
also added the finalizer. -/
def registered₁ (s : Settings) (o : Identity) : Identity :=
  let body := o.setAnnotation s.entryIdAnnotation (.str "entry-1")
  { body with resourceVersion := body.resourceVersion.map (· ++ "0") }

def registered₂ (s : Settings) (o : Identity) : Identity :=
  let body := (registered₁ s o).addFinalizer s.finalizer
  { body with resourceVersion := body.resourceVersion.map (· ++ "0") }

/-- Reconciles `0` and `1` registering `o` in turns, with the entries `entry-1`
and `entry-2`; the record of `entry-2` is refused. -/
def registrationRace (s : Settings) (o : Identity) : List Move :=
  let t := some s.requestTimeout.seconds
  let ctx : ClusterContext := ⟨"cluster", "example.org"⟩
  let read : Exchange := .get o.ns o.name t (.ok (some o))
  [.call 0 read, .call 1 read,
    .call 0 (.clusterContext t (.ok ctx)), .call 1 (.clusterContext t (.ok ctx)),
    .call 0 (.adminCredential t (.ok "admin")), .call 1 (.adminCredential t (.ok "admin")),
    .call 0 (.createEntry (.build ctx o "admin") t (.ok "entry-1")),
    .call 1 (.createEntry (.build ctx o "admin") t (.ok "entry-2")),
    .call 0 (.update ( o.setAnnotation s.entryIdAnnotation (.str "entry-1")) t
      (.ok (registered₁ s o))),
    .call 1 (.update ( o.setAnnotation s.entryIdAnnotation (.str "entry-2")) t
      (.error (.accountWriteRefused o.key 409 "Conflict"))),
    .call 0 (.update ((registered₁ s o).addFinalizer s.finalizer) t (.ok (registered₂ s o)))]

def registrationRacers (s : Settings) (o : Identity) : List Reconciled :=
  [((Collaborators.registrar o "entry-1" true).reconciled s "default" "web" ()).1,
    ((Collaborators.registrar o "entry-2" false).reconciled s "default" "web" ()).1]

theorem registrationRacers_reconciled (s : Settings) (o : Identity) :
    ∀ x ∈ registrationRacers s o, ∃ (W : Type) (c : Collaborators W) (w : W),
      x = (c.reconciled s "default" "web" w).1 := by
  intro x hx
  rcases List.mem_cons.1 hx with rfl | hx
  · exact ⟨Unit, _, (), rfl⟩
  · rcases List.mem_singleton.1 hx with rfl
    exact ⟨Unit, _, (), rfl⟩

theorem registrationRace_woven :
    let o := Identity.sample {} "true" [] false
    ∀ p, Move.logOf (registrationRace {} o) p = ((registrationRacers {} o)[p]?.map (·.log)).getD [] := by
  intro o p
  rcases p with _ | _ | p
  · rfl
  · rfl
  · simp [registrationRace, Move.logOf, Move.callOf?, registrationRacers]

theorem registrationRace_runs :
    let o := Identity.sample {} "true" [] false
    Held.Runs {} ⟨o, []⟩ (registrationRace {} o)
      (((⟨o, []⟩ : Held).put (registered₁ {} o)).put (registered₂ {} o)) := by
  intro o
  refine .cons .read (.cons .read ?_)
  -- the cluster contexts, the credentials and the creations leave the store alone
  refine .cons (.quiet rfl fun _ _ _ h => by cases h) ?_
  refine .cons (.quiet rfl fun _ _ _ h => by cases h) ?_
  refine .cons (.quiet rfl fun _ _ _ h => by cases h) ?_
  refine .cons (.quiet rfl fun _ _ _ h => by cases h) ?_
  refine .cons (.quiet rfl fun _ _ _ h => by cases h) ?_
  refine .cons (.quiet rfl fun _ _ _ h => by cases h) ?_
  refine .cons (.wrote (.inr rfl) ⟨rfl, by decide⟩) (.cons .refused ?_)
  exact .cons (.wrote (.inr rfl) ⟨rfl, by decide⟩) .nil

/-- Any number of reconciles of one account, run at once in any interleaving
against a store that takes a write only at the version it holds, with any of
their calls failing, and with outside writers that never blank a recorded entry
id: each entry is created by a reconcile that read the account managed, not being
deleted and without an entry id; at most one write recording an entry id goes
through; and the entries created are at most one more than the recording writes
that failed. The store starts from an account with a version, and the registry
gives non-empty ids. -/
theorem entry_recorded_at_most_once (ns name : String) (o₀ : Identity)
    (hv : o₀.resourceVersion.isSome = true) (xs : List Reconciled)
    (hxs : ∀ x ∈ xs, ∃ (W : Type) (c : Collaborators W) (w : W),
      x = (c.reconciled s ns name w).1)
    (hids : ∀ x ∈ xs, Exchange.IdsGiven x.log) (h : List Move)
    (hwoven : ∀ p, Move.logOf h p = (xs[p]?.map (·.log)).getD []) (H : Held)
    (hrun : Held.Runs s ⟨o₀, []⟩ h H) :
    (∀ x ∈ xs, ∀ req t a, .createEntry req t a ∈ x.log →
      ∃ t₀ o rest, x.log = .get ns name t₀ (.ok (some o)) :: rest ∧
        o.isManaged s = true ∧ o.deleting = false ∧ o.hasEntryId s = false) ∧
    (xs.map fun x => (Exchange.records x.log).countP Except.isOk).sum ≤ 1 ∧
    (xs.map fun x => x.log.countP Exchange.created).sum ≤
      1 + (xs.map fun x => (Exchange.records x.log).countP fun a => !a.isOk).sum := by
  have hlog := reconciled_logs hxs
  have hcur := hrun.current_of_woven hv hlog hids hwoven
  refine ⟨?_, records_ok_sum_le_one hlog hwoven hcur, ?_⟩
  · intro x hx req t a hc
    obtain ⟨t₀, o, rest, hL, hlife⟩ := (hlog x hx).read_before_create hc
    exact ⟨t₀, o, rest, hL, (Identity.lifecycle_eq_pendingRegistration_iff s o).1 hlife⟩
  · rw [created_sum_eq hlog]
    have hok := records_ok_sum_le_one hlog hwoven hcur
    omega

theorem registration_race_records_once :
    let s : Settings := {}
    let o := Identity.sample s "true" [] false
    let xs := [((Collaborators.registrar o "entry-1" true).reconciled s "default" "web" ()).1,
      ((Collaborators.registrar o "entry-2" false).reconciled s "default" "web" ()).1]
    let H := ((⟨o, []⟩ : Held).put (registered₁ s o)).put (registered₂ s o)
    o.resourceVersion.isSome = true ∧
      (∀ x ∈ xs, ∃ (W : Type) (c : Collaborators W) (w : W),
        x = (c.reconciled s "default" "web" w).1) ∧
      (∀ x ∈ xs, Exchange.IdsGiven x.log) ∧
      (∀ p, Move.logOf (registrationRace s o) p = (xs[p]?.map (·.log)).getD []) ∧
      Held.Runs s ⟨o, []⟩ (registrationRace s o) H ∧
      (∀ x ∈ xs, ∀ req t a, .createEntry req t a ∈ x.log →
        ∃ t₀ o' rest, x.log = .get "default" "web" t₀ (.ok (some o')) :: rest ∧
          o'.isManaged s = true ∧ o'.deleting = false ∧ o'.hasEntryId s = false) ∧
      (xs.map fun x => (Exchange.records x.log).countP Except.isOk).sum ≤ 1 ∧
      (xs.map fun x => x.log.countP Exchange.created).sum ≤
        1 + (xs.map fun x => (Exchange.records x.log).countP fun a => !a.isOk).sum := by
  intro s o xs H
  have hv : o.resourceVersion.isSome = true := rfl
  have hxs := registrationRacers_reconciled s o
  have hwoven := registrationRace_woven
  -- the logs of the two registrations, as the race interleaves them
  have hlog₀ :
      ((Collaborators.registrar o "entry-1" true).reconciled s "default" "web" ()).1.log =
        Move.logOf (registrationRace s o) 0 := rfl
  have hlog₁ :
      ((Collaborators.registrar o "entry-2" false).reconciled s "default" "web" ()).1.log =
        Move.logOf (registrationRace s o) 1 := rfl
  have hids : ∀ x ∈ xs, Exchange.IdsGiven x.log := by
    intro x hx req t id hmem
    rcases List.mem_cons.1 hx with rfl | hx
    · rw [hlog₀] at hmem
      simp [registrationRace, Move.logOf, Move.callOf?] at hmem
      rw [hmem.2.2]
      decide
    · rcases List.mem_singleton.1 hx with rfl
      rw [hlog₁] at hmem
      simp [registrationRace, Move.logOf, Move.callOf?] at hmem
      rw [hmem.2.2]
      decide
  have hrun := registrationRace_runs
  exact ⟨hv, hxs, hids, hwoven, hrun,
    entry_recorded_at_most_once "default" "web" o hv xs hxs hids _ hwoven H hrun⟩

end Race

/-! ## Writes among other writers -/

section Writes

variable {W : Type} (c : Collaborators W) (s : Settings)

/-- Every write a reconcile makes, in any run of the operator, modifies the account
last handed back to that reconcile (by its read, or by its previous write), keeps
that account's version and all else of it, and makes exactly one change: it sets
the entry-id annotation, on an account without an entry id, to the id of the
entry created just before; or it appends the finalizer, absent before, at the
end; or, in the revocation of an account being deleted, it drops every
occurrence of the finalizer.

Hence, for reconciles of one account run at once in any interleaving, each by
any collaborators, with outside writers that may put anything, against a store
that takes a write only at the version it holds: the run passes each write from
a state of the store to the next; a write that goes through was made on the
account the store held, which the store then holds with the body's annotations
and finalizers (that account with the one change) at a fresh version, so no
change another writer made before is lost; and a write made on an account the
store no longer holds fails and leaves the store as it was. -/
theorem write_changes_one_thing (hs : List (Happening W)) (w : W) :
    (∀ x ∈ (c.session s hs w).1, ∀ pre body t a post,
      x.log = pre ++ .update body t a :: post →
      ∃ o, Exchange.lastObtained pre = some o ∧
        ((∃ req tc id, pre.getLast? = some (.createEntry req tc (.ok id)) ∧
            o.hasEntryId s = false ∧
            body = { o with
              annotations := Value.setEntry o.annotations s.entryIdAnnotation (.str id) }) ∨
          (o.hasFinalizer s.finalizer = false ∧
            body = { o with finalizers := o.finalizers ++ [s.finalizer] }) ∨
          (o.hasFinalizer s.finalizer = true ∧ o.lifecycle s = .pendingRevocation ∧
            (∃ t₀ tc ctx tr, pre = [.get x.ns x.name t₀ (.ok (some o)),
              .clusterContext tc (.ok ctx), .revokeEntry (.build ctx o "") tr (.ok ())]) ∧
            body = { o with finalizers := o.finalizers.filter (· != s.finalizer) }))) ∧
    ∀ (ns name : String) (o₀ : Identity), o₀.resourceVersion.isSome = true →
      ∀ (xs : List Reconciled), (∀ x ∈ xs, ∃ (W' : Type) (c' : Collaborators W') (w' : W'),
          x = (c'.reconciled s ns name w').1) →
      ∀ (h : List Move), (∀ p, Move.logOf h p = (xs[p]?.map (·.log)).getD []) →
      ∀ (Allowed : Identity → Identity → Prop) (H : Held),
        Held.RunsWith (Held.Takes Allowed) ⟨o₀, []⟩ h H →
      ∀ h₁ p body t a h₂, h = h₁ ++ .call p (.update body t a) :: h₂ →
        ∃ H₁ H₂, Held.RunsWith (Held.Takes Allowed) ⟨o₀, []⟩ h₁ H₁ ∧
          Held.Takes Allowed H₁ (.call p (.update body t a)) H₂ ∧
          Held.RunsWith (Held.Takes Allowed) H₂ h₂ H ∧
          WriteFollows s ns name (Move.logOf h₁ p) body ∧
          ((Exchange.lastObtained (Move.logOf h₁ p) = some H₁.account ∧
              ∃ v, H₁.Fresh v ∧ H₂ = H₁.put (H₁.written body v)) ∨
            (H₂ = H₁ ∧ ∃ e, a = .error e)) := by
  refine ⟨?_, ?_⟩
  · intro x hx pre body t a post hlog
    exact (c.session_log s hx).writes_follow pre _ post hlog body t a rfl
  · intro ns name o₀ hv xs hxs h hwoven Allowed H hrun h₁ p body t a h₂ hsplit
    exact hrun.write_lands hv (reconciled_logs hxs) hwoven hsplit

/-- Registering a new account: its first write records the id of the entry just
created, after the read, the cluster context, the credential and the creation.
Two registrations of it in a race: the record of the second, made on the account
both read, comes after the first went through, and leaves the store as it was. -/
theorem registration_record_write :
    let s : Settings := {}
    let c := Collaborators.constant (.sample s "true" [] false) (.ok ⟨"cluster", "example.org"⟩)
    let x := (c.reconciled s "default" "web" ()).1
    let body := Identity.setAnnotation (.sample s "true" [] false) s.entryIdAnnotation
      (.str "entry-1")
    let o := Identity.sample s "true" [] false
    let stale : Move := .call 1 (.update (o.setAnnotation s.entryIdAnnotation (.str "entry-2"))
      (some s.requestTimeout.seconds) (.error (.accountWriteRefused o.key 409 "Conflict")))
    let race := registrationRace s o
    let H := ((⟨o, []⟩ : Held).put (registered₁ s o)).put (registered₂ s o)
    (x ∈ (c.session s [.reconcile "default" "web"] ()).1 ∧
      x.log = x.log.take 4 ++
        .update body (some s.requestTimeout.seconds) (.ok body) :: x.log.drop 5 ∧
      WriteFollows s x.ns x.name (x.log.take 4) body) ∧
    race = race.take 9 ++ stale :: race.drop 10 ∧
      ∃ H₁, Held.Runs s ⟨o, []⟩ (race.take 9) H₁ ∧ Held.Step s H₁ stale H₁ ∧
        Held.Runs s H₁ (race.drop 10) H := by
  intro s c x body o stale race H
  have hx : x ∈ (c.session s [.reconcile "default" "web"] ()).1 := List.mem_cons_self
  have hlog : x.log = x.log.take 4 ++
      .update body (some s.requestTimeout.seconds) (.ok body) :: x.log.drop 5 := rfl
  have hsplit : race = race.take 9 ++ stale :: race.drop 10 := rfl
  have hone := write_changes_one_thing c s [.reconcile "default" "web"] ()
  obtain ⟨H₁, H₂, hr₁, hstep, hr₂, -, hlands⟩ := hone.2 "default" "web" o rfl
    (registrationRacers s o) (registrationRacers_reconciled s o) race registrationRace_woven
    (fun a o' => a.hasEntryId s = true → o'.hasEntryId s = true) H registrationRace_runs
    _ _ _ _ _ _ hsplit
  refine ⟨⟨hx, hlog, hone.1 x hx _ _ _ _ _ hlog⟩, hsplit, ?_⟩
  rcases hlands with ⟨hlast, -⟩ | ⟨hsame, -⟩
  · -- the store holds the first record, not the account the second registration read
    have hfirst : race.take 9 = race.take 8 ++ [.call 0 (.update
        (o.setAnnotation s.entryIdAnnotation (.str "entry-1")) (some s.requestTimeout.seconds)
        (.ok (registered₁ s o)))] := rfl
    rw [hfirst] at hr₁
    obtain ⟨_, -, hwrite⟩ := hr₁.snoc_inv
    have hread : Exchange.lastObtained (Move.logOf (race.take 9) 1) = some o := rfl
    rcases hwrite.obtained with hnone | hheld
    · cases hnone
    · rw [hread, ← hheld] at hlast
      have hrv := congrArg (Option.map Identity.resourceVersion) hlast
      exact absurd hrv (by decide)
  · rw [hsame] at hstep hr₂
    exact ⟨H₁, hr₁, hstep, hr₂⟩

end Writes

end SpireEnroll
