import Mathlib
import SpireEnroll.Proofs.Traces

/-!
# Calls to the registry

What one call to the registry does, whatever the transport makes of its post.

*How a call ends.* The client reads what the transport did with a post
(`RegistryClient.received`) and then the answer, as a creation or a deletion
reads it. A creation gives an id exactly when the answer has status 200 and its
content is a JSON object whose `entryID` is present and truthy; the id is that
value's display, never empty. A deletion succeeds on 200 and on 404. Every other
outcome is a transport error (after a transport failure) or a protocol error,
carrying the answer's status and text when an answer was read.

*What a call counts.* The samples the operator's metrics take are kept beside the
world by `Outside.metered`, and `Meters m' m P` says that the metered run `m'` is
the run `m` itself with samples `M` taken, `P M r` for its outcome `r`. A call
whose post is made counts itself once, under its operation and the status its
outcome is counted as, and records its duration once, also when it fails.
-/

namespace SpireEnroll

/-- What the transport did with a post is one of the outcomes the client is made
for: an answer, or a failure of the transport, of decoding the answer, or of
following its redirects. -/
def Delivery.Known : Delivery → Prop
  | .answered _ => True
  | .raised kind _ => kind ∈ transportFailures ∨ kind ∈ unusableAnswers

/-- Calls over no world: the cluster holds nothing, the registry answers every
post with an empty 200 response, and the clock stands still. -/
def Outside.answering : Outside Unit where
  readAccount _ _ _ w := (w, .error .notFound)
  replaceAccount _ _ w := (w, .error .notFound)
  readConfigMap _ _ _ w := (w, .error .notFound)
  readSecret _ _ _ w := (w, .error .notFound)
  deliver _ _ w := (w, .answered ⟨200, [], #[]⟩)
  deadline _ := .unlimited
  clock _ := 0
  count _ w := w
  observe _ _ w := w

/-! ## The texts of values

An entry's id is the display of a truthy value, so it is never empty: only a text
displays as itself, and every other value has a literal of at least one
character. -/

theorem Decimal.Layout.write_ne_empty (f : Decimal.Layout) (d : Decimal.Dec) : f.write d ≠ "" := by
  have hds : Decimal.digitsOf d.digits ≠ [] := Nat.toDigits_ne_nil
  unfold Decimal.Layout.write
  dsimp only
  split
  · split
    · simp [String.ofList_eq_empty_iff]
    · split
      · simp [String.ofList_eq_empty_iff]
      -- an integral decimal: its digits, then zeros
      · simp [String.append_eq_empty_iff, String.ofList_eq_empty_iff, hds]
  · simp [String.ofList_eq_empty_iff]

namespace Value

theorem floatText_ne_empty (x : Float) : floatText x ≠ "" := by
  unfold floatText Decimal.Layout.render
  dsimp only
  split
  · simp [floatLayout]
  · split
    · simp [floatLayout, String.append_eq_empty_iff]
    · split
      · simp [floatLayout, String.append_eq_empty_iff]
      · simp [String.append_eq_empty_iff, Decimal.Layout.write_ne_empty]

theorem literal_ne_empty (v : Value) : v.literal ≠ "" := by
  cases v with
  | null => simp [literal]
  | bool b => cases b <;> simp [literal]
  | int n =>
    show Int.repr n ≠ ""
    cases n with
    | ofNat m => exact Nat.repr_ne_empty
    | negSucc m => simp [Int.repr, String.append_eq_empty_iff]
  | float x => exact floatText_ne_empty x
  | str s => simp [literal, Text.literal]
  | list xs => simp [literal, String.append_eq_empty_iff]
  | dict es => simp [literal, String.append_eq_empty_iff]

theorem display_ne_empty {v : Value} (h : v.truthy = true) : v.display ≠ "" := by
  cases v
  case str s => simpa [truthy, display] using h
  all_goals exact literal_ne_empty _

end Value

theorem answerText_eq_iff {data : List (String × Value)} {key s : String} :
    (answerText data key = s ∧ s ≠ "") ↔
      ∃ v, data.lookup key = some v ∧ v.truthy = true ∧ s = v.display := by
  unfold answerText
  cases hv : data.lookup key with
  | none =>
    constructor
    · rintro ⟨rfl, h⟩
      exact absurd rfl h
    · rintro ⟨v, h, -⟩
      cases h
  | some v =>
    cases ht : v.truthy with
    | true =>
      simp only [ht, if_true]
      constructor
      · rintro ⟨rfl, -⟩
        exact ⟨v, rfl, ht, rfl⟩
      · rintro ⟨v', h, -, rfl⟩
        cases h
        exact ⟨rfl, Value.display_ne_empty ht⟩
    | false =>
      simp only [ht, Bool.false_eq_true, if_false]
      constructor
      · rintro ⟨rfl, h⟩
        exact absurd rfl h
      · rintro ⟨v', h, ht', -⟩
        cases h
        rw [ht] at ht'
        cases ht'

/-! ## How a call ends -/

/-- The transport answered with status 200 and content, once its coding is
undone, that the runtime reads as a JSON object whose `entryID` is present and
truthy, `id` being its display. -/
def Delivery.Accepts (rt : Runtime) (d : Delivery) (id : String) : Prop :=
  ∃ resp content es v, d = .answered resp ∧ resp.content = .ok content ∧ resp.status = 200 ∧
    jsonOfBytes rt.jsonDepth content = .ok (.dict es) ∧ es.lookup "entryID" = some v ∧
    v.truthy = true ∧ id = v.display

/-- The transport answered with status 200 or 404, with content whose coding can
be undone. -/
def Delivery.Deletes (d : Delivery) : Prop :=
  ∃ resp content, d = .answered resp ∧ resp.content = .ok content ∧
    (resp.status = 200 ∨ resp.status = 404)

def Runtime.givesUpOn? (rt : Runtime) (content : Array UInt8) : Option Json.Container :=
  match jsonOfBytes rt.jsonDepth content with
  | .error (.tooDeep c) => some c
  | _ => none

def Response.RefusedWith (resp : Response)
    (decoder : String → Option (Array UInt8 → Except OperatorError String))
    (content : Array UInt8) (e : OperatorError) : Prop :=
  match resp.textOf decoder content with
  | .ok text => e.kind = .protocol ∧ e.status? = some resp.status ∧ e.body = text
  | .error e' => e = e'

/-- An error is the failure a delivery shows to a call for `op`: a transport error
after a transport failure; a protocol error with no status and an empty text when
no answer could be read (it could not be decoded, or its redirects not followed);
for a creation answered with status 200 whose JSON the runtime's reader gives up
on, the reader's nesting error; and otherwise the refusal of the answer. -/
def Delivery.FailsAs (rt : Runtime) (op : RegistryOp) (d : Delivery) (e : OperatorError) :
    Prop :=
  match d with
  | .raised kind _ =>
    if kind ∈ transportFailures then e.kind = .transport
    else e.kind = .protocol ∧ e.status? = none ∧ e.body = ""
  | .answered resp =>
    match resp.content with
    | .error _ => e.kind = .protocol ∧ e.status? = none ∧ e.body = ""
    | .ok content =>
      match if op = .create ∧ resp.status = 200 then rt.givesUpOn? content else none with
      | some c => e = RegistryClient.nestingError c
      | none => resp.RefusedWith rt.decoder content e

namespace RegistryClient

variable {τ : Type} (c : RegistryClient τ)

theorem received_fails {op : RegistryOp} {d : Delivery} {f : CallFailure} (hd : d.Known)
    (h : c.received op d = .error f) : d.FailsAs c.runtime op f.error := by
  cases d with
  | raised kind message =>
    dsimp only [received] at h
    by_cases ht : transportFailures.contains kind = true
    · simp only [ht, if_true, Except.error.injEq] at h
      subst h
      simp [Delivery.FailsAs, List.contains_iff_mem.mp ht, OperatorError.kind]
    · have hnt : kind ∉ transportFailures := fun hm => ht (List.contains_iff_mem.mpr hm)
      have hu : kind ∈ unusableAnswers := hd.resolve_left hnt
      simp only [ht, Bool.false_eq_true, if_false, List.contains_iff_mem.mpr hu, if_true,
        Except.error.injEq] at h
      subst h
      simp_all [Delivery.FailsAs, OperatorError.kind, OperatorError.status?, OperatorError.body]
  | answered resp =>
    dsimp only [received] at h
    cases hc : resp.content with
    | ok content => simp [hc] at h
    | error message =>
      simp only [hc, Except.error.injEq] at h
      subst h
      simp [Delivery.FailsAs, hc, OperatorError.kind, OperatorError.status?, OperatorError.body]

theorem refusal_result_ne_ok {α : Type} (rt : Runtime) (op : RegistryOp) (p : AnswerProblem)
    (resp : Response) (content : Array UInt8) (a : α) :
    (refusal rt op p resp content).result ≠ .ok a := by
  unfold refusal
  split <;> nofun

theorem refusal_refuses {α : Type} (rt : Runtime) {op : RegistryOp} {p : AnswerProblem}
    {resp : Response} {content : Array UInt8} {e : OperatorError}
    (h : (refusal (α := α) rt op p resp content).result = .error e) :
    resp.RefusedWith rt.decoder content e := by
  unfold refusal at h
  unfold Response.RefusedWith
  cases ht : resp.textOf rt.decoder content with
  | ok text =>
    simp only [ht, Except.error.injEq] at h
    subst h
    exact ⟨rfl, rfl, rfl⟩
  | error e' =>
    simp only [ht, Except.error.injEq] at h
    exact h.symm

theorem createAnswer_cases (rt : Runtime) (resp : Response) (content : Array UInt8) :
    (∃ c, resp.status = 200 ∧ rt.givesUpOn? content = some c ∧
        createAnswer rt resp content = ⟨.error (nestingError c), none⟩) ∨
      ((resp.status = 200 → rt.givesUpOn? content = none) ∧
        ((∃ p, createAnswer rt resp content = refusal rt .create p resp content) ∨
          ∃ id, createAnswer rt resp content = ⟨.ok id, some .success⟩)) := by
  unfold createAnswer Runtime.givesUpOn?
  by_cases hs : resp.status = 200
  · have hne : (resp.status != 200) = false := by simp [hs]
    simp only [hne, Bool.false_eq_true, if_false]
    cases hj : jsonOfBytes rt.jsonDepth content with
    | error f =>
      cases f with
      | malformed => exact .inr ⟨fun _ => rfl, .inl ⟨_, rfl⟩⟩
      | tooDeep c => exact .inl ⟨c, hs, rfl, rfl⟩
    | ok v =>
      refine .inr ⟨fun _ => rfl, ?_⟩
      cases v
      case dict es =>
        dsimp only
        split
        · exact .inl ⟨_, rfl⟩
        · exact .inr ⟨_, rfl⟩
      all_goals exact .inl ⟨_, rfl⟩
  · have hne : (resp.status != 200) = true := by simp [hs]
    simp only [hne, if_true]
    exact .inr ⟨fun h => absurd h hs, .inl ⟨_, rfl⟩⟩

theorem createAnswer_ok_iff {rt : Runtime} {resp : Response} {content : Array UInt8}
    {id : String} :
    (createAnswer rt resp content).result = .ok id ↔
      resp.status = 200 ∧ ∃ es v, jsonOfBytes rt.jsonDepth content = .ok (.dict es) ∧
        es.lookup "entryID" = some v ∧ v.truthy = true ∧ id = v.display := by
  unfold createAnswer
  by_cases hs : resp.status = 200
  · simp only [hs, bne_self_eq_false, Bool.false_eq_true, if_false, true_and]
    cases hj : jsonOfBytes rt.jsonDepth content with
    | error f =>
      cases f
      · simp [refusal_result_ne_ok]
      · simp
    | ok j =>
      cases j
      case dict es =>
        -- the id is the answer's `entryID` as text; an empty one is refused
        have hread : (EntryResponse.ofEntries es).entryId = answerText es "entryID" := rfl
        have hrhs : (∃ es' v, Except.ok (ε := Json.Failure) (Value.dict es) = .ok (.dict es') ∧
            es'.lookup "entryID" = some v ∧ v.truthy = true ∧ id = v.display) ↔
            answerText es "entryID" = id ∧ id ≠ "" := by
          rw [answerText_eq_iff]
          constructor
          · rintro ⟨es', v, h, hv⟩
            cases h
            exact ⟨v, hv⟩
          · rintro ⟨v, hv⟩
            exact ⟨es, v, rfl, hv⟩
        rw [hrhs]
        simp only [hread]
        by_cases he : answerText es "entryID" = ""
        · simp only [he, String.isEmpty_iff.mpr rfl, if_true]
          constructor
          · intro h
            exact absurd h (refusal_result_ne_ok _ _ _ _ _ _)
          · rintro ⟨rfl, h⟩
            exact absurd rfl h
        · simp only [String.isEmpty_eq_false_iff.mpr he, Bool.false_eq_true, if_false,
            Except.ok.injEq]
          constructor
          · rintro rfl
            exact ⟨rfl, he⟩
          · rintro ⟨h, -⟩
            exact h
      all_goals simp [refusal_result_ne_ok]
  · simp [hs, refusal_result_ne_ok]

theorem createAnswer_fails {rt : Runtime} {resp : Response} {content : Array UInt8}
    {e : OperatorError} (hc : resp.content = .ok content)
    (h : (createAnswer rt resp content).result = .error e) :
    (Delivery.answered resp).FailsAs rt .create e := by
  rcases createAnswer_cases rt resp content with
    ⟨c, hs, hgive, hca⟩ | ⟨hgive, ⟨p, hp⟩ | ⟨id, hid⟩⟩
  · rw [hca] at h
    cases h
    simp [Delivery.FailsAs, hc, hs, hgive]
  · rw [hp] at h
    have hr := refusal_refuses rt h
    -- the reader does not give up on this answer, so it is refused
    by_cases hs : resp.status = 200
    · simpa [Delivery.FailsAs, hc, hs, hgive hs] using hr
    · simpa [Delivery.FailsAs, hc, hs] using hr
  · rw [hid] at h
    cases h

theorem revokeAnswer_ok_iff {rt : Runtime} {resp : Response} {content : Array UInt8} :
    (revokeAnswer rt resp content).result = .ok () ↔ resp.status = 200 ∨ resp.status = 404 := by
  unfold revokeAnswer
  by_cases hs : resp.status = 200 ∨ resp.status = 404
  · have hb : (resp.status == 200 || resp.status == 404) = true := by simpa using hs
    simp [hb, hs]
  · have hb : (resp.status == 200 || resp.status == 404) = false := by simpa using hs
    simp only [hb, Bool.false_eq_true, if_false, hs, iff_false]
    split
    · nofun
    · exact refusal_result_ne_ok _ _ _ _ _ _

theorem revokeAnswer_fails {rt : Runtime} {resp : Response} {content : Array UInt8}
    {e : OperatorError} (hc : resp.content = .ok content)
    (h : (revokeAnswer rt resp content).result = .error e) :
    (Delivery.answered resp).FailsAs rt .revoke e := by
  -- a deletion never reads JSON, so its failure is the refusal of its answer
  have hr : resp.RefusedWith rt.decoder content e := by
    unfold revokeAnswer at h
    split at h
    · cases h
    · cases ht : resp.textOf rt.decoder content with
      | error e' =>
        simp only [ht, Except.error.injEq] at h
        unfold Response.RefusedWith
        rw [ht]
        exact h.symm
      | ok text =>
        simp only [ht] at h
        exact refusal_refuses rt h
  simpa [Delivery.FailsAs, hc] using hr

theorem received_ok_iff {op : RegistryOp} {d : Delivery} {resp : Response}
    {content : Array UInt8} :
    c.received op d = .ok (resp, content) ↔ d = .answered resp ∧ resp.content = .ok content := by
  cases d with
  | raised kind message =>
    constructor
    · intro h
      dsimp only [received] at h
      split at h
      · cases h
      · split at h <;> cases h
    · rintro ⟨h, -⟩
      cases h
  | answered r =>
    dsimp only [received]
    cases hc : r.content with
    | ok bytes =>
      constructor
      · intro h
        cases h
        exact ⟨rfl, hc⟩
      · rintro ⟨h, hc'⟩
        cases h
        rw [hc] at hc'
        cases hc'
        rfl
    | error message =>
      constructor
      · intro h
        cases h
      · rintro ⟨h, hc'⟩
        cases h
        rw [hc] at hc'
        cases hc'

theorem createOutcome_ok_iff {d : Delivery} {id : String} :
    (c.createOutcome d).result = .ok id ↔ d.Accepts c.runtime id := by
  unfold createOutcome Delivery.Accepts
  cases hr : c.received .create d with
  | error f =>
    simp only [CallFailure.outcome, reduceCtorEq, false_iff]
    rintro ⟨resp, content, es, v, rfl, hc, -⟩
    rw [c.received_ok_iff.mpr ⟨rfl, hc⟩] at hr
    cases hr
  | ok a =>
    obtain ⟨resp, content⟩ := a
    obtain ⟨rfl, hc⟩ := c.received_ok_iff.mp hr
    rw [createAnswer_ok_iff]
    constructor
    · rintro ⟨hs, es, v, hj, hv, ht, rfl⟩
      exact ⟨resp, content, es, v, rfl, hc, hs, hj, hv, ht, rfl⟩
    · rintro ⟨resp', content', es, v, h, hc', hs, hj, hv, ht, rfl⟩
      cases h
      rw [hc] at hc'
      cases hc'
      exact ⟨hs, es, v, hj, hv, ht, rfl⟩

theorem createOutcome_fails {d : Delivery} {e : OperatorError} (hd : d.Known)
    (h : (c.createOutcome d).result = .error e) : d.FailsAs c.runtime .create e := by
  unfold createOutcome at h
  cases hr : c.received .create d with
  | error f =>
    rw [hr] at h
    cases h
    exact c.received_fails hd hr
  | ok a =>
    obtain ⟨resp, content⟩ := a
    obtain ⟨rfl, hc⟩ := c.received_ok_iff.mp hr
    rw [hr] at h
    exact createAnswer_fails hc h

theorem revokeOutcome_ok_iff {d : Delivery} :
    (c.revokeOutcome d).result = .ok () ↔ d.Deletes := by
  unfold revokeOutcome Delivery.Deletes
  cases hr : c.received .revoke d with
  | error f =>
    simp only [CallFailure.outcome, reduceCtorEq, false_iff]
    rintro ⟨resp, content, rfl, hc, -⟩
    rw [c.received_ok_iff.mpr ⟨rfl, hc⟩] at hr
    cases hr
  | ok a =>
    obtain ⟨resp, content⟩ := a
    obtain ⟨rfl, hc⟩ := c.received_ok_iff.mp hr
    rw [revokeAnswer_ok_iff]
    constructor
    · intro hs
      exact ⟨resp, content, rfl, hc, hs⟩
    · rintro ⟨resp', content', h, -, hs⟩
      cases h
      exact hs

theorem revokeOutcome_fails {d : Delivery} {e : OperatorError} (hd : d.Known)
    (h : (c.revokeOutcome d).result = .error e) : d.FailsAs c.runtime .revoke e := by
  unfold revokeOutcome at h
  cases hr : c.received .revoke d with
  | error f =>
    rw [hr] at h
    cases h
    exact c.received_fails hd hr
  | ok a =>
    obtain ⟨resp, content⟩ := a
    obtain ⟨rfl, hc⟩ := c.received_ok_iff.mp hr
    rw [hr] at h
    exact revokeAnswer_fails hc h

theorem post_error_kind {op : RegistryOp} {req : RegistrationRequest} {t : Option τ}
    {e : OperatorError} (h : c.post op req t = .error e) :
    e.kind = .foreign "InvalidURL" ∨ e.kind = .foreign "UnicodeEncodeError" := by
  unfold post at h
  cases hb : Url.parse c.baseUrl with
  | error m =>
    simp [hb, Except.mapError, bind, Except.bind] at h
    subst h
    exact .inl rfl
  | ok base =>
    cases hj : base.join op.path with
    | error m =>
      simp [hb, hj, Except.mapError, bind, Except.bind] at h
      subst h
      exact .inl rfl
    | ok url =>
      cases he : bodyError? (op.payload req) with
      | none => simp [hb, hj, he, Except.mapError, bind, Except.bind, pure, Except.pure] at h
      | some e' =>
        simp [hb, hj, he, Except.mapError, bind, Except.bind, throw, throwThe,
          MonadExceptOf.throw] at h
        subst h
        unfold bodyError? at he
        obtain ⟨_, -, rfl⟩ := Option.map_eq_some_iff.mp he
        exact .inr rfl

end RegistryClient

namespace Reconciler

variable {W : Type} (r : Reconciler W)

theorem exec_countCall (op : RegistryOp) (s : Option CallStatus) (w : W) :
    (r.countCall op s).exec w = (.ok (), ((r.countCall op s).exec w).2) := by
  cases s <;> rfl

theorem registryCall_result {α : Type} (op : RegistryOp)
    (read : Response → Array UInt8 → CallOutcome α) (req : RegistrationRequest) (t : Option Rat)
    (w : W) :
    ((r.registryCall op read req t).exec w).1 =
      (r.client.post op req t).bind fun p =>
        match r.client.received op (r.outside.deliver op p w).2 with
        | .error f => .error f.error
        | .ok (resp, content) => (read resp content).result := by
  unfold registryCall exchange
  simp only [Run.exec_bind, Run.exec_read, Run.exec_attempt, Run.exec_ofExcept]
  cases hp : r.client.post op req t with
  | error e => rfl
  | ok p =>
    simp only [Run.exec_call, Except.bind]
    cases hrec : r.client.received op (r.outside.deliver op p w).2 with
    | error f =>
      simp only [Run.exec_bind, Run.exec_throw]
      rw [exec_countCall]
      rfl
    | ok a =>
      obtain ⟨resp, content⟩ := a
      simp only [Run.exec_pure, Run.exec_change]
      rw [exec_countCall]

theorem registryCall_outcome {α : Type} (op : RegistryOp)
    (read : Response → Array UInt8 → CallOutcome α) (outcome : Delivery → CallOutcome α)
    (houtcome : ∀ d, outcome d = match r.client.received op d with
      | .error f => f.outcome
      | .ok (resp, content) => read resp content)
    (req : RegistrationRequest) (t : Option Rat) (w : W) :
    ((r.registryCall op read req t).exec w).1 =
      (r.client.post op req t).bind fun p => (outcome (r.outside.deliver op p w).2).result := by
  rw [registryCall_result]
  congr 1
  funext p
  rw [houtcome]
  cases r.client.received op (r.outside.deliver op p w).2 with
  | error f => rfl
  | ok a =>
    obtain ⟨resp, content⟩ := a
    rfl

theorem createEntry_result (req : RegistrationRequest) (t : Option Rat) (w : W) :
    ((r.createEntry req t).exec w).1 =
      (r.client.post .create req t).bind fun p =>
        (r.client.createOutcome (r.outside.deliver .create p w).2).result :=
  r.registryCall_outcome .create _ _ (fun _ => rfl) req t w

theorem revokeEntry_result (req : RegistrationRequest) (t : Option Rat) (w : W) :
    ((r.revokeEntry req t).exec w).1 =
      (r.client.post .revoke req t).bind fun p =>
        (r.client.revokeOutcome (r.outside.deliver .revoke p w).2).result :=
  r.registryCall_outcome .revoke _ _ (fun _ => rfl) req t w

end Reconciler

/-- How a registry call for `op` may end, by its post and what the transport does
with it (`deliver`): when the post cannot be made, with that failure, of its
address or of its body; when it is made, returning `a` exactly when `ok` says so
of the delivery, and otherwise failing as the delivery shows. -/
def CallEnds {α : Type} (c : RegistryClient Rat) (op : RegistryOp) (req : RegistrationRequest)
    (t : Option Rat) (deliver : Post Rat → Delivery) (ok : Delivery → α → Prop)
    (x : Except OperatorError α) : Prop :=
  match c.post op req t with
  | .error e =>
    x = .error e ∧ (e.kind = .foreign "InvalidURL" ∨ e.kind = .foreign "UnicodeEncodeError")
  | .ok p =>
    (∀ a, x = .ok a ↔ ok (deliver p) a) ∧ ∀ e, x = .error e → (deliver p).FailsAs c.runtime op e

theorem callEnds_of_outcome {α : Type} {c : RegistryClient Rat} {op : RegistryOp}
    {req : RegistrationRequest} {t : Option Rat} {deliver : Post Rat → Delivery}
    {ok : Delivery → α → Prop} {outcome : Delivery → CallOutcome α}
    (hknown : ∀ p, (deliver p).Known) (hok : ∀ d a, (outcome d).result = .ok a ↔ ok d a)
    (hfail : ∀ d e, d.Known → (outcome d).result = .error e → d.FailsAs c.runtime op e) :
    CallEnds c op req t deliver ok ((c.post op req t).bind fun p => (outcome (deliver p)).result) := by
  unfold CallEnds
  cases hp : c.post op req t with
  | error e => exact ⟨rfl, c.post_error_kind hp⟩
  | ok p => exact ⟨hok (deliver p), fun e => hfail (deliver p) e (hknown p)⟩

theorem Delivery.Accepts.id_ne_empty {rt : Runtime} {d : Delivery} {id : String}
    (h : d.Accepts rt id) : id ≠ "" := by
  obtain ⟨_, _, _, v, -, -, -, -, -, ht, rfl⟩ := h
  exact Value.display_ne_empty ht

namespace Reconciler

variable {W : Type} (r : Reconciler W)

end Reconciler

/-- A sample the operator's metrics take: one count under a name, or one
observation of a duration, in seconds. -/
inductive Metric where
  | count (name : String)
  | observe (name : String) (seconds : Rat)
deriving DecidableEq

def RegistryOp.series (op : RegistryOp) (st : CallStatus) : String :=
  op.name ++ "/" ++ st.label

def CallStatus.ofError (e : OperatorError) : Option CallStatus :=
  match e.kind with
  | .transport => some .transportError
  | .protocol => some .protocolError
  | _ => none

def CallStatus.ofResult {α : Type} : Except OperatorError α → Option CallStatus
  | .ok _ => some .success
  | .error e => ofError e

namespace Outside

variable {W α : Type} (o : Outside W)

def keep (f : W → W × α) (p : W × List Metric) : (W × List Metric) × α :=
  (((f p.1).1, p.2), (f p.1).2)

/-- The same world, every sample its metrics take also kept, in order, in a list
beside it. -/
def metered : Outside (W × List Metric) where
  readAccount ns name t := keep (o.readAccount ns name t)
  replaceAccount body t := keep (o.replaceAccount body t)
  readConfigMap ns name t := keep (o.readConfigMap ns name t)
  readSecret ns name t := keep (o.readSecret ns name t)
  deliver op p := keep (o.deliver op p)
  deadline p := o.deadline p.1
  clock p := o.clock p.1
  elapse p := (o.elapse p.1, p.2)
  deadline_elapse p := o.deadline_elapse p.1
  clock_le_elapse p := o.clock_le_elapse p.1
  count k p := (o.count k p.1, p.2 ++ [.count k])
  observe k x p := (o.observe k x p.1, p.2 ++ [.observe k x])

end Outside

/-- The same reconciler, in its world with the samples of its metrics beside it. -/
def Reconciler.metered {W : Type} (r : Reconciler W) : Reconciler (W × List Metric) :=
  { r with outside := r.outside.metered }

/-- `m'` runs as `m` does, with the samples of the metrics kept beside the world:
from any world and list of samples it ends with the outcome and the world that `m`
gives, having added samples `M` with `P M r` for its outcome `r`. -/
def Meters {W α : Type} (m' : Run (W × List Metric) α) (m : Run W α)
    (P : List Metric → Except OperatorError α → Prop) : Prop :=
  ∀ w l, ∃ M, m'.exec (w, l) = ((m.exec w).1, ((m.exec w).2, l ++ M)) ∧ P M (m.exec w).1

namespace Meters

variable {W α β : Type} {P Q : List Metric → Except OperatorError α → Prop}

theorem mono {m' : Run (W × List Metric) α} {m : Run W α} (h : Meters m' m P)
    (hPQ : ∀ M r, P M r → Q M r) : Meters m' m Q := by
  intro w l
  obtain ⟨M, hexec, hP⟩ := h w l
  exact ⟨M, hexec, hPQ M _ hP⟩

theorem pure {a : α} (h : P [] (.ok a)) : Meters (W := W) (Pure.pure a) (Pure.pure a) P := by
  intro w l
  exact ⟨[], by simp, h⟩

theorem throw {e : OperatorError} (h : P [] (.error e)) :
    Meters (W := W) (MonadExcept.throw e) (MonadExcept.throw e) P := by
  intro w l
  exact ⟨[], by simp, h⟩

theorem ofExcept {x : Except OperatorError α} (h : P [] x) :
    Meters (W := W) (Run.ofExcept x) (Run.ofExcept x) P := by
  intro w l
  exact ⟨[], by rw [List.append_nil]; rfl, h⟩

theorem bind {m' : Run (W × List Metric) α} {m : Run W α}
    {f' : α → Run (W × List Metric) β} {f : α → Run W β}
    {Q : List Metric → Except OperatorError α → Prop}
    {P : List Metric → Except OperatorError β → Prop}
    (hm : Meters m' m Q)
    (hok : ∀ a M, Q M (.ok a) → Meters (f' a) (f a) fun M' r => P (M ++ M') r)
    (herr : ∀ e M, Q M (.error e) → P M (.error e)) :
    Meters (m' >>= f') (m >>= f) P := by
  intro w l
  obtain ⟨M, hexec, hQ⟩ := hm w l
  rcases hrun : m.exec w with ⟨e | a, w'⟩
  · rw [hrun] at hQ hexec
    have h : (m >>= f).exec w = (.error e, w') := by simp only [Run.exec_bind, hrun]
    have h' : (m' >>= f').exec (w, l) = (.error e, (w', l ++ M)) := by
      simp only [Run.exec_bind, hexec]
    rw [h, h']
    exact ⟨M, rfl, herr e M hQ⟩
  · rw [hrun] at hQ hexec
    obtain ⟨M', hexec', hP⟩ := hok a M hQ w' (l ++ M)
    have h : (m >>= f).exec w = (f a).exec w' := by simp only [Run.exec_bind, hrun]
    have h' : (m' >>= f').exec (w, l) = (f' a).exec (w', l ++ M) := by
      simp only [Run.exec_bind, hexec]
    rw [h, h', hexec']
    exact ⟨M ++ M', by rw [List.append_assoc], hP⟩

theorem attempt {m' : Run (W × List Metric) α} {m : Run W α}
    {P : List Metric → Except OperatorError (Except OperatorError α) → Prop}
    (h : Meters m' m Q) (hP : ∀ M r, Q M r → P M (.ok r)) :
    Meters (Run.attempt m') (Run.attempt m) P := by
  intro w l
  obtain ⟨M, hexec, hQ⟩ := h w l
  have h' : (Run.attempt m').exec (w, l) = (.ok (m'.exec (w, l)).1, (m'.exec (w, l)).2) := rfl
  have h : (Run.attempt m).exec w = (.ok (m.exec w).1, (m.exec w).2) := rfl
  rw [h', h, hexec]
  exact ⟨M, rfl, hP M _ hQ⟩

end Meters

namespace Outside

variable {W α : Type} (o : Outside W)

theorem meters_clock : Meters (Run.read o.metered.clock) (Run.read o.clock)
    fun M x => M = [] ∧ ∃ w, x = .ok (o.clock w) := by
  intro w l
  exact ⟨[], by rw [List.append_nil]; rfl, rfl, w, rfl⟩

theorem meters_call (f : W → W × α) : Meters (Run.call (keep f)) (Run.call f)
    fun M x => M = [] ∧ ∃ w, x = .ok (f w).2 := by
  intro w l
  exact ⟨[], by rw [List.append_nil]; rfl, rfl, w, rfl⟩

theorem meters_count (k : String) : Meters (Run.change (o.metered.count k)) (Run.change (o.count k))
    fun M x => M = [.count k] ∧ x = .ok () := by
  intro w l
  exact ⟨[.count k], rfl, rfl, rfl⟩

theorem meters_observe (k : String) (x : W → Rat) :
    Meters (Run.change fun p => o.metered.observe k (x p.1) p)
      (Run.change fun w => o.observe k (x w) w)
      fun M y => (∃ δ, M = [.observe k δ]) ∧ y = .ok () := by
  intro w l
  exact ⟨[.observe k (x w)], rfl, ⟨x w, rfl⟩, rfl⟩

end Outside

/-! ## The samples of one call -/

def CallOutcome.Tallied {α : Type} (o : CallOutcome α) : Prop :=
  (∃ st, o.status = some st ∧ CallStatus.ofResult o.result = some st) ∨
    (CallStatus.ofResult o.result = none ∧ (o.status = none ∨ o.status = some .protocolError))

theorem CallStatus.ofError_foreign {e : OperatorError} {k : String} (h : e.kind = .foreign k) :
    CallStatus.ofError e = none := by
  unfold CallStatus.ofError
  rw [h]

theorem Response.textOf_error_foreign (rt : Runtime) {r : Response} {content : Array UInt8}
    {e : OperatorError} (h : r.textOf rt.decoder content = .error e) : ∃ k, e.kind = .foreign k := by
  unfold Response.textOf at h
  split at h
  · cases h
  · cases hd : r.charsetName?.bind rt.decoder with
    | none =>
      rw [hd] at h
      cases h
    | some decode =>
      rw [hd] at h
      obtain ⟨name, -, hname⟩ := Option.bind_eq_some_iff.mp hd
      exact rt.decoder_foreign name decode content e hname h

namespace RegistryClient

theorem refusal_tallied {α : Type} (rt : Runtime) (op : RegistryOp) (p : AnswerProblem)
    (resp : Response) (content : Array UInt8) : (refusal (α := α) rt op p resp content).Tallied := by
  unfold refusal
  cases ht : resp.textOf rt.decoder content with
  | ok text => exact .inl ⟨.protocolError, rfl, rfl⟩
  | error e =>
    -- the text could not be read: the refusal is counted, the decoder's error raised
    obtain ⟨k, hk⟩ := Response.textOf_error_foreign rt ht
    exact .inr ⟨CallStatus.ofError_foreign hk, .inr rfl⟩

theorem createAnswer_tallied (rt : Runtime) (resp : Response) (content : Array UInt8) :
    (createAnswer rt resp content).Tallied := by
  rcases createAnswer_cases rt resp content with ⟨c, -, -, hca⟩ | ⟨-, ⟨p, hp⟩ | ⟨id, hid⟩⟩
  · rw [hca]
    -- the reader's give-up escapes uncounted
    have hk : (nestingError c).kind = .foreign "RecursionError" := rfl
    exact .inr ⟨CallStatus.ofError_foreign hk, .inl rfl⟩
  · rw [hp]
    exact refusal_tallied ..
  · rw [hid]
    exact .inl ⟨.success, rfl, rfl⟩

theorem revokeAnswer_tallied (rt : Runtime) (resp : Response) (content : Array UInt8) :
    (revokeAnswer rt resp content).Tallied := by
  unfold revokeAnswer
  split
  · exact .inl ⟨.success, rfl, rfl⟩
  · cases ht : resp.textOf rt.decoder content with
    | error e =>
      -- the text is read for the log before the call is counted
      obtain ⟨k, hk⟩ := Response.textOf_error_foreign rt ht
      exact .inr ⟨CallStatus.ofError_foreign hk, .inl rfl⟩
    | ok text => exact refusal_tallied ..

end RegistryClient

theorem received_counted {τ : Type} {c : RegistryClient τ} {op : RegistryOp} {d : Delivery}
    {f : CallFailure} (hd : d.Known) (h : c.received op d = .error f) :
    ∃ st, f.status = some st ∧ CallStatus.ofError f.error = some st := by
  cases d with
  | raised kind message =>
      dsimp only [RegistryClient.received] at h
      by_cases ht : transportFailures.contains kind = true
      · rw [if_pos ht] at h
        cases h
        exact ⟨.transportError, rfl, rfl⟩
      · rw [if_neg ht] at h
        by_cases hu : unusableAnswers.contains kind = true
        · rw [if_pos hu] at h
          cases h
          exact ⟨.protocolError, rfl, rfl⟩
        · -- a known delivery fails in one of the two ways above
          have hnt : kind ∉ transportFailures := fun hm => ht (List.contains_iff_mem.mpr hm)
          have hnu : kind ∉ unusableAnswers := fun hm => hu (List.contains_iff_mem.mpr hm)
          exact absurd hd (by simp [Delivery.Known, hnt, hnu])
  | answered resp =>
      dsimp only [RegistryClient.received] at h
      split at h
      · cases h
      · cases h
        exact ⟨.protocolError, rfl, rfl⟩

def ExchangeSamples (op : RegistryOp) (posted : Bool) (M : List Metric)
    (r : Except OperatorError (Response × Array UInt8)) : Prop :=
  ∃ δ, match r with
    | .ok _ => posted = true ∧ M = [.observe op.name δ]
    | .error e =>
      if posted then ∃ st, CallStatus.ofError e = some st ∧
        M = [.count (op.series st), .observe op.name δ]
      else M = [.observe op.name δ]

/-- The samples a registry call for `op` takes, by whether its post was made and
how it ended: one observation of its duration and, when the post was made, one
count of the series its outcome is counted under, before or after it, when it
returned or failed with a transport or a protocol error; when it failed with an
error of another class, nothing more, or one count as a protocol error. -/
def CallSamples {α : Type} (op : RegistryOp) (posted : Bool) (M : List Metric)
    (x : Except OperatorError α) : Prop :=
  ∃ δ, if posted then
      (∃ st, CallStatus.ofResult x = some st ∧
        M.Perm [.count (op.series st), .observe op.name δ]) ∨
      (CallStatus.ofResult x = none ∧ (M = [.observe op.name δ] ∨
        M.Perm [.count (op.series .protocolError), .observe op.name δ]))
    else M = [.observe op.name δ]

namespace Reconciler

variable {W : Type} (r : Reconciler W)

theorem meters_countCall (op : RegistryOp) (s : Option CallStatus) :
    Meters (r.metered.countCall op s) (r.countCall op s)
      fun M x => M = s.toList.map (fun st => .count (op.series st)) ∧ x = .ok () := by
  cases s with
  | none => exact Meters.pure ⟨rfl, rfl⟩
  | some st => exact r.outside.meters_count _

def PostSamples (op : RegistryOp) (posted : Bool) (M : List Metric)
    (x : Except OperatorError (Response × Array UInt8)) : Prop :=
  match x with
  | .ok _ => posted = true ∧ M = []
  | .error e =>
    if posted then ∃ st, CallStatus.ofError e = some st ∧ M = [.count (op.series st)]
    else M = []

theorem meters_exchange (hknown : ∀ op p w, (r.outside.deliver op p w).2.Known)
    (op : RegistryOp) (req : RegistrationRequest) (t : Option Rat) :
    Meters (r.metered.exchange op req t) (r.exchange op req t)
      (ExchangeSamples op (r.client.post op req t).isOk) := by
  -- the steps of the exchange in order: the clock, the post kept by `attempt` (which
  -- counts a failure that left no answer), the observation, and the answer passed on
  unfold Reconciler.exchange
  dsimp only [Reconciler.metered]
  refine Meters.bind r.outside.meters_clock (fun start M hM => ?_) (fun e M hM => ?_)
  · obtain ⟨rfl, -⟩ := hM
    refine Meters.bind (Meters.attempt (Q := PostSamples op (r.client.post op req t).isOk)
      (P := fun M y => ∃ x, y = .ok x ∧ PostSamples op (r.client.post op req t).isOk M x) ?_
      fun M x h => ⟨x, rfl, h⟩) (fun answer M hM => ?_) (fun e M hM => ?_)
    · refine Meters.bind (Meters.ofExcept (P := fun M x => M = [] ∧ x = r.client.post op req t)
        ⟨rfl, rfl⟩) (fun p M hp => ?_) (fun e M he => ?_)
      · obtain ⟨rfl, hp⟩ := hp
        have hposted : (r.client.post op req t).isOk = true := by rw [← hp]; rfl
        refine Meters.bind (Outside.meters_call (r.outside.deliver op p)) (fun d M hd => ?_)
          (fun e M he => ?_)
        · obtain ⟨rfl, w, hw⟩ := hd
          cases hw
          cases hrec : r.client.received op (r.outside.deliver op p w).2 with
          | ok a => exact Meters.pure ⟨hposted, rfl⟩
          | error f =>
            obtain ⟨st, hst, hkind⟩ := received_counted (hknown op p w) hrec
            refine Meters.bind (r.meters_countCall op f.status) (fun _ M hM => Meters.throw ?_)
              fun e M hM => nomatch hM.2
            simp only [PostSamples, hposted, if_true, List.nil_append, List.append_nil, hM.1, hst]
            exact ⟨st, hkind, rfl⟩
        · obtain ⟨-, w, hw⟩ := he
          cases hw
      · obtain ⟨rfl, he⟩ := he
        have hposted : (r.client.post op req t).isOk = false := by rw [← he]; rfl
        simp [PostSamples, hposted]
    · obtain ⟨x, hx, hpost⟩ := hM
      cases hx
      refine Meters.bind (r.outside.meters_observe op.name fun w => r.outside.clock w - start)
        (fun _ M' hM' => Meters.ofExcept ?_) fun e M' hM' => nomatch hM'.2
      obtain ⟨⟨δ, rfl⟩, -⟩ := hM'
      refine ⟨δ, ?_⟩
      cases answer with
      | ok a =>
        obtain ⟨hposted, rfl⟩ := hpost
        exact ⟨hposted, rfl⟩
      | error e =>
        cases hp : (r.client.post op req t).isOk with
        | true =>
          simp only [PostSamples, hp, if_true, List.nil_append, List.append_nil] at hpost ⊢
          obtain ⟨st, hkind, rfl⟩ := hpost
          exact ⟨st, hkind, rfl⟩
        | false =>
          simp only [PostSamples, hp, Bool.false_eq_true, if_false, List.nil_append,
            List.append_nil] at hpost ⊢
          rw [hpost, List.nil_append]
    · obtain ⟨x, hx, -⟩ := hM
      cases hx
  · obtain ⟨-, w, hw⟩ := hM
    cases hw

theorem meters_registryCall (hknown : ∀ op p w, (r.outside.deliver op p w).2.Known)
    {α : Type} (op : RegistryOp) (read : Response → Array UInt8 → CallOutcome α)
    (hread : ∀ resp content, (read resp content).Tallied) (req : RegistrationRequest)
    (t : Option Rat) :
    Meters (r.metered.registryCall op read req t) (r.registryCall op read req t)
      (CallSamples op (r.client.post op req t).isOk) := by
  unfold Reconciler.registryCall
  refine Meters.bind (r.meters_exchange hknown op req t) (fun a M hM => ?_) (fun e M hM => ?_)
  · obtain ⟨resp, content⟩ := a
    obtain ⟨δ, hposted, rfl⟩ := hM
    refine Meters.bind (r.meters_countCall op _) (fun _ M' hM' => Meters.ofExcept ?_)
      fun e M' hM' => nomatch hM'.2
    refine ⟨δ, ?_⟩
    rw [if_pos hposted, hM'.1]
    -- the answer's reading is counted after the duration is observed
    rcases hread resp content with ⟨st, hst, hres⟩ | ⟨hnone, hst | hst⟩
    · rw [hst]
      exact .inl ⟨st, hres, by simpa using List.Perm.swap _ _ []⟩
    · rw [hst]
      exact .inr ⟨hnone, .inl rfl⟩
    · rw [hst]
      exact .inr ⟨hnone, .inr (by simpa using List.Perm.swap _ _ [])⟩
  · obtain ⟨δ, hM⟩ := hM
    refine ⟨δ, ?_⟩
    cases hposted : (r.client.post op req t).isOk with
    | true =>
      simp only [hposted, if_true] at hM ⊢
      obtain ⟨st, hkind, rfl⟩ := hM
      exact .inl ⟨st, hkind, List.Perm.refl _⟩
    | false =>
      simp only [hposted, Bool.false_eq_true, if_false] at hM ⊢
      exact hM

/-- Every call to the registry, with any runtime and for whatever the transport
does among the outcomes the client is made for, runs as it does with its samples
kept aside, and takes one observation of its duration under its operation, also
when it fails. When its post is made it counts at most once, under its operation:
once, under the status its result is counted as, when it returns or fails with a
transport or a protocol error; and when it fails with an error of another class
(the JSON reader giving up on an answer nested too deep, a decoder failing on an
answer's text), nothing or once as a protocol error. -/
theorem registry_call_counted_at_most_once
    (hknown : ∀ op p w, (r.outside.deliver op p w).2.Known) (req : RegistrationRequest)
    (t : Option Rat) :
    Meters (r.metered.createEntry req t) (r.createEntry req t)
        (CallSamples .create (r.client.post .create req t).isOk) ∧
      Meters (r.metered.revokeEntry req t) (r.revokeEntry req t)
        (CallSamples .revoke (r.client.post .revoke req t).isOk) :=
  ⟨r.meters_registryCall hknown .create _ (RegistryClient.createAnswer_tallied _) req t,
    r.meters_registryCall hknown .revoke _ (RegistryClient.revokeAnswer_tallied _) req t⟩

end Reconciler

theorem answered_calls_counted_at_most_once :
    let r : Reconciler Unit := ⟨{}, ⟨"http://spire.test:8081", 10, .standard⟩, Outside.answering⟩
    let req : RegistrationRequest := ⟨"example.org", "billing", "team-a", "demo", ""⟩
    (∀ op p w, (r.outside.deliver op p w).2.Known) ∧
      Meters (r.metered.createEntry req (some 10)) (r.createEntry req (some 10))
          (CallSamples .create (r.client.post .create req (some 10)).isOk) ∧
        Meters (r.metered.revokeEntry req (some 10)) (r.revokeEntry req (some 10))
          (CallSamples .revoke (r.client.post .revoke req (some 10)).isOk) := by
  intro r req
  exact ⟨fun _ _ _ => trivial,
    r.registry_call_counted_at_most_once (fun _ _ _ => trivial) req (some 10)⟩

end SpireEnroll
