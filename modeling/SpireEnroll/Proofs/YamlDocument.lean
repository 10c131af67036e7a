import Mathlib.Data.List.Forall2
import SpireEnroll.Proofs.YamlEvents

/-!
# Reading a rendered mapping back

From the events of a block mapping of quoted pairs (`emits_rendered`) the composer
builds a node array: the mapping's node first, then for each pair a key node and a
value node, string scalars holding its texts (`MappingNodes`). The constructor
queues the mapping and then builds its pairs one by one, each key and value as its
string (`buildDocument_mapping`); no key is a merge or a value key, so resolving
merge keys changes nothing. A key then finds the value of its last pair
(`field?_of_pairs`), and a text that renders a list of pairs loads as that map
(`load_rendered`).
-/

namespace SpireEnroll
namespace Yaml

open Scanner

/-! ## Asking the parser -/

theorem Parser.Emits.front {p : Parser} {k : EventKind} {ks : List EventKind}
    (hy : p.Emits (k :: ks)) :
    ∃ (e : Event) (p' : Parser), peekEvent.run p = pure (some e, p') ∧
      peekEvent.run p' = pure (some e, p') ∧
      takeEvent.run p = pure (e, { p' with current := none }) ∧
      takeEvent.run p' = pure (e, { p' with current := none }) ∧ e.kind = k ∧
      Parser.Emits { p' with current := none } ks := by
  obtain ⟨e, p', hpeek, hc, hk, hy⟩ := hy
  have hpeek' : peekEvent.run p' = pure (some e, p') := by
    unfold peekEvent
    simp only [StateT.run_bind, StateT.run_get, pure_bind, hc]
    rfl
  have htake : ∀ q, peekEvent.run q = pure (some e, p') →
      takeEvent.run q = pure (e, { p' with current := none }) := by
    intro q hq
    unfold takeEvent
    simp only [StateT.run_bind, hq, pure_bind, StateT.run_modify, StateT.run_pure]
  exact ⟨e, p', hpeek, hpeek', htake p hpeek, htake p' hpeek', hk, hy⟩

theorem Parser.Emits.peeked {p : Parser} {k : EventKind} {ks : List EventKind}
    (hy : p.Emits (k :: ks)) :
    ∃ (e : Event) (p' : Parser), peekEvent.run p = pure (some e, p') ∧ e.kind = k ∧
      p'.Emits (k :: ks) := by
  obtain ⟨e, p', hpeek, hc, hk, hy⟩ := hy
  have hpeek' : peekEvent.run p' = pure (some e, p') := by
    unfold peekEvent
    simp only [StateT.run_bind, StateT.run_get, pure_bind, hc]
    rfl
  exact ⟨e, p', hpeek, hk, e, p', hpeek', hc, hk, hy⟩

theorem parse_at {α : Type} {m : ParseM α} {p p' : Parser} {a : α} (h : m.run p = pure (a, p'))
    (ns : Array Node) (as : List (String × Nat)) :
    (parse m).run ⟨p, ns, as⟩ = pure (a, ⟨p', ns, as⟩) := by
  unfold parse
  simp only [StateT.run] at h ⊢
  rw [h]
  rfl

theorem atCollectionEnd_run {p : Parser} {k : EventKind} {ks : List EventKind}
    (hy : p.Emits (k :: ks)) (ns : Array Node) (as : List (String × Nat)) :
    ∃ p' : Parser, atCollectionEnd.run ⟨p, ns, as⟩ =
        pure (k matches .sequenceEnd | .mappingEnd, ⟨p', ns, as⟩) ∧ p'.Emits (k :: ks) := by
  obtain ⟨e, p', hpeek, hk, hy'⟩ := hy.peeked
  refine ⟨p', ?_, hy'⟩
  unfold atCollectionEnd
  simp only [StateT.run_bind, parse_at hpeek, pure_bind]
  obtain ⟨kind, a, b⟩ := e
  subst hk
  cases kind <;> rfl

theorem atStreamEnd_run {p : Parser} {k : EventKind} {ks : List EventKind}
    (hy : p.Emits (k :: ks)) (ns : Array Node) (as : List (String × Nat)) :
    ∃ p' : Parser, atStreamEnd.run ⟨p, ns, as⟩ =
        pure (k matches .streamEnd, ⟨p', ns, as⟩) ∧ p'.Emits (k :: ks) := by
  obtain ⟨e, p', hpeek, hk, hy'⟩ := hy.peeked
  refine ⟨p', ?_, hy'⟩
  unfold atStreamEnd
  simp only [StateT.run_bind, parse_at hpeek, pure_bind]
  obtain ⟨kind, a, b⟩ := e
  subst hk
  cases kind <;> rfl

/-! ## The composed nodes -/

def StrAt (ns : Array Node) (i : Nat) (text : String) : Prop :=
  ∃ m, ns[i]? = some ⟨strTag, .scalar text, m⟩

def Keeps (ns' ns : Array Node) : Prop :=
  ∀ (i : Nat) (n : Node), ns[i]? = some n → ns'[i]? = some n

theorem Keeps.refl (ns : Array Node) : Keeps ns ns := fun _ _ h => h

theorem Keeps.trans {ns ns' ns'' : Array Node} (h₁ : Keeps ns'' ns') (h₂ : Keeps ns' ns) :
    Keeps ns'' ns :=
  fun i n h => h₁ i n (h₂ i n h)

theorem Keeps.push (ns : Array Node) (n : Node) : Keeps (ns.push n) ns := by
  intro i x h
  have hi : i ≠ ns.size := by
    rintro rfl
    simp at h
  rw [Array.getElem?_push, if_neg hi]
  exact h

theorem StrAt.of_keeps {ns ns' : Array Node} {i : Nat} {text : String} (h : StrAt ns i text)
    (hk : Keeps ns' ns) : StrAt ns' i text := by
  obtain ⟨m, hm⟩ := h
  exact ⟨m, hk i _ hm⟩

theorem strAt_push (ns : Array Node) (text : String) (m : Mark) :
    StrAt (ns.push ⟨strTag, .scalar text, m⟩) ns.size text :=
  ⟨m, Array.getElem?_push_size⟩

theorem composeNode_scalar {p : Parser} {v : String} {ks : List EventKind}
    (hy : p.Emits (.scalar none none (false, true) v :: ks)) (f : Nat) (ns : Array Node) :
    ∃ (p' : Parser) (m : Mark), (composeNode (f + 1)).run ⟨p, ns, []⟩ =
        pure (ns.size, ⟨p', ns.push ⟨strTag, .scalar v, m⟩, []⟩) ∧ p'.Emits ks := by
  obtain ⟨e, p₁, hpeek, -, -, htake, hk, hy⟩ := hy.front
  have ha : e.anchor = none := by simp [Event.anchor, hk]
  have hres : resolveScalar v (false, true) = strTag := rfl
  refine ⟨_, e.start, ?_, hy⟩
  rw [composeNode.eq_2]
  simp only [StateT.run_bind, parse_at hpeek, pure_bind, hk, ha, parse_at htake, addNode,
    StateT.run_get, StateT.run_set, addAnchor, StateT.run_pure, hres]

theorem composePairs_run {ks : List EventKind} : ∀ (qs : List (String × String)) (f : Nat)
    (acc : List (Nat × Nat)) (p : Parser) (ns : Array Node),
    p.Emits (qs.flatMap pairEvents ++ .mappingEnd :: ks) → qs.length < f →
    ∃ (p' : Parser) (ns' : Array Node) (prs : List (Nat × Nat)),
      (composePairs f acc).run ⟨p, ns, []⟩ = pure (acc.reverse ++ prs, ⟨p', ns', []⟩) ∧
      p'.Emits (.mappingEnd :: ks) ∧ Keeps ns' ns ∧ ns'.size = ns.size + 2 * qs.length ∧
      List.Forall₂ (fun kv q => StrAt ns' kv.1 q.1 ∧ StrAt ns' kv.2 q.2) prs qs
  | [], 0, _, _, _, _, hf => absurd hf (Nat.lt_irrefl 0)
  | _ :: _, 0, _, _, _, _, hf => absurd hf (Nat.not_lt_zero _)
  | _ :: _, 1, _, _, _, _, hf => absurd hf (by simp)
  | [], f + 1, acc, p, ns, hy, _ => by
    obtain ⟨p', hend, hy'⟩ := atCollectionEnd_run hy ns []
    refine ⟨p', ns, [], ?_, hy', Keeps.refl ns, rfl, List.Forall₂.nil⟩
    rw [composePairs.eq_2]
    simp only [StateT.run_bind, hend, pure_bind, if_true, StateT.run_pure, List.append_nil]
  | q :: qs, f + 2, acc, p, ns, hy, hf => by
    simp only [List.flatMap_cons, pairEvents, List.cons_append, List.nil_append] at hy
    obtain ⟨p₁, hend, hy₁⟩ := atCollectionEnd_run hy ns []
    obtain ⟨p₂, m₂, hk, hy₂⟩ := composeNode_scalar hy₁ f ns
    obtain ⟨p₃, m₃, hv, hy₃⟩ :=
      composeNode_scalar hy₂ f (ns.push ⟨strTag, .scalar q.1, m₂⟩)
    have hlen : qs.length < f + 1 := by
      simp only [List.length_cons] at hf
      omega
    obtain ⟨p', ns', prs, hrest, hy', hkeep, hsize, hall⟩ := composePairs_run qs (f + 1)
      ((ns.size, (ns.push ⟨strTag, .scalar q.1, m₂⟩).size) :: acc) p₃
      ((ns.push ⟨strTag, .scalar q.1, m₂⟩).push ⟨strTag, .scalar q.2, m₃⟩) hy₃ hlen
    have hkeep₂ :
        Keeps ((ns.push ⟨strTag, .scalar q.1, m₂⟩).push ⟨strTag, .scalar q.2, m₃⟩) ns :=
      (Keeps.push _ _).trans (Keeps.push _ _)
    refine ⟨p', ns', (ns.size, ns.size + 1) :: prs, ?_, hy', hkeep.trans hkeep₂, ?_,
      List.Forall₂.cons ⟨?_, ?_⟩ hall⟩
    · rw [composePairs.eq_2]
      simp only [StateT.run_bind, hend, pure_bind, Bool.false_eq_true, if_false, hk, hv, hrest]
      simp
    · simp [hsize]
      omega
    · exact ((strAt_push ns q.1 m₂).of_keeps (Keeps.push _ _)).of_keeps hkeep
    · simpa using (strAt_push _ q.2 m₃).of_keeps hkeep

/-- The nodes of a mapping of pairs: the mapping first, pairing for each pair of
texts a key and a value node that are string scalars holding them. -/
def MappingNodes (ns : Array Node) (qs : List (String × String)) : Prop :=
  ∃ (prs : List (Nat × Nat)) (m : Mark), ns[0]? = some ⟨mapTag, .mapping prs, m⟩ ∧
    ns.size = 1 + 2 * qs.length ∧
    List.Forall₂ (fun kv q => StrAt ns kv.1 q.1 ∧ StrAt ns kv.2 q.2) prs qs

theorem StrAt.ne_zero {ns : Array Node} {i : Nat} {text : String} {b : NodeBody} {m : Mark}
    (h : StrAt ns i text) (h₀ : ns[0]? = some ⟨mapTag, b, m⟩) : 0 ≠ i := by
  obtain ⟨m', hm⟩ := h
  rintro rfl
  rw [h₀] at hm
  have htag : mapTag ≠ strTag := by decide
  exact htag (congrArg Node.tag (Option.some.inj hm))

theorem StrAt.modify_zero {ns : Array Node} {i : Nat} {text : String} {b : NodeBody} {m : Mark}
    (h : StrAt ns i text) (h₀ : ns[0]? = some ⟨mapTag, b, m⟩) (f : Node → Node) :
    StrAt (ns.modify 0 f) i text := by
  have hi := h.ne_zero h₀
  obtain ⟨m', hm⟩ := h
  exact ⟨m', by rw [Array.getElem?_modify, if_neg hi, hm]⟩

theorem composeNode_mapping {p : Parser} {qs : List (String × String)} {ks : List EventKind}
    (hy : p.Emits (.mappingStart none none true :: qs.flatMap pairEvents ++ .mappingEnd :: ks))
    (f : Nat) (hf : qs.length < f) :
    ∃ (p' : Parser) (ns : Array Node),
      (composeNode (f + 1)).run ⟨p, #[], []⟩ = pure (0, ⟨p', ns, []⟩) ∧
      p'.Emits ks ∧ MappingNodes ns qs := by
  obtain ⟨e, p₁, hpeek, -, -, htake, hk, hy₁⟩ := hy.front
  have ha : e.anchor = none := by simp [Event.anchor, hk]
  obtain ⟨p₂, ns, prs, hpairs, hy₂, hkeep, hsize, hall⟩ :=
    composePairs_run qs f [] { p₁ with current := none } #[⟨mapTag, .mapping [], e.start⟩]
      hy₁ hf
  obtain ⟨e', p₃, -, -, htake', -, -, hy₃⟩ := hy₂.front
  rw [List.reverse_nil, List.nil_append] at hpairs
  have h₀ : ns[0]? = some ⟨mapTag, .mapping [], e.start⟩ := hkeep 0 _ rfl
  refine ⟨{ p₃ with current := none }, ns.modify 0 fun n => { n with body := .mapping prs }, ?_,
    hy₃,
    prs, e.start, ?_, ?_, ?_⟩
  · rw [composeNode.eq_2]
    simp only [StateT.run_bind, parse_at hpeek, pure_bind, hk, ha, parse_at htake, addNode,
      StateT.run_get, StateT.run_set, addAnchor, StateT.run_pure, Array.push_empty, hpairs,
      parse_at htake', setBody, StateT.run_modify, List.size_toArray, List.length_nil]
  · rw [Array.getElem?_modify, if_pos rfl, h₀]
    rfl
  · simp [hsize]
  · exact hall.imp fun kv q h => ⟨h.1.modify_zero h₀ _, h.2.modify_zero h₀ _⟩

theorem composeSingle_mapping {p : Parser} {qs : List (String × String)}
    (hy : p.Emits (mappingEvents qs)) (fuel : Nat) (hf : qs.length + 1 < fuel) :
    ∃ c : Composer, (composeSingle fuel).run ⟨p, #[], []⟩ = pure (some 0, c) ∧
      MappingNodes c.nodes qs := by
  obtain ⟨f, rfl⟩ : ∃ f, fuel = f + 1 := ⟨fuel - 1, by omega⟩
  obtain ⟨_, p₁, -, -, hstart, -, -, hy₁⟩ := hy.front
  obtain ⟨p₂, hmore, hy₂⟩ := atStreamEnd_run hy₁ #[] []
  obtain ⟨_, p₃, -, -, hdoc, -, -, hy₃⟩ := hy₂.front
  obtain ⟨p₄, ns, hnode, hy₄, hns⟩ := composeNode_mapping hy₃ f (by omega)
  obtain ⟨_, p₅, -, -, hdocEnd, -, -, hy₅⟩ := hy₄.front
  obtain ⟨p₆, hlast, hy₆⟩ := atStreamEnd_run hy₅ ns []
  obtain ⟨_, p₇, -, -, hend, -, -, -⟩ := hy₆.front
  refine ⟨⟨{ p₇ with current := none }, ns, []⟩, ?_, hns⟩
  unfold composeSingle
  simp only [StateT.run_bind, parse_at hstart, pure_bind, hmore, Bool.false_eq_true, ↓reduceIte,
    parse_at hdoc, hnode, parse_at hdocEnd, StateT.run_modify, hlast, Bool.not_true,
    parse_at hend, StateT.run_pure]

theorem length_le_renderPairs (ps : List (String × String)) :
    ps.length ≤ (renderPairs ps).length := by
  induction ps with
  | nil => simp
  | cons p ps ih =>
    simp only [renderPairs, String.length_ofList, List.flatMap_cons, List.length_append,
      List.length_cons] at ih ⊢
    have : 1 ≤ (pairLine p).length := by
      simp only [pairLine, List.length_append, List.length_cons]
      omega
    omega

theorem compose_rendered {ps : List (String × String)} (hne : ps ≠ [])
    (hp : ∀ p ∈ ps, OneLine p) :
    ∃ ns : Array Node, compose (renderPairs ps) = .ok (ns, some 0) ∧ MappingNodes ns ps := by
  have hlen := length_le_renderPairs ps
  obtain ⟨c, hrun, hns⟩ :=
    composeSingle_mapping (emits_rendered hne hp) (4 * ((renderPairs ps).length + 8)) (by omega)
  refine ⟨c.nodes, ?_, hns⟩
  unfold compose
  simp only [hrun]
  rfl

/-! ## Building the values -/

theorem nodeAt_run {ns : Array Node} {i : Nat} {n : Node} (h : ns[i]? = some n)
    (built : Array (Option Datum)) (q : List Nat) :
    (nodeAt i).run ⟨ns, built, q⟩ = pure (n, ⟨ns, built, q⟩) := by
  simp only [nodeAt, StateT.run_bind, StateT.run_get, pure_bind, Array.getD_eq_getD_getElem?, h,
    Option.getD_some, StateT.run_pure]

theorem pairsAt_run {ns : Array Node} {i : Nat} {tag : String} {prs : List (Nat × Nat)} {m : Mark}
    (h : ns[i]? = some ⟨tag, .mapping prs, m⟩) (built : Array (Option Datum)) (q : List Nat) :
    (pairsAt i).run ⟨ns, built, q⟩ = pure (prs, ⟨ns, built, q⟩) := by
  unfold pairsAt
  simp only [StateT.run_bind, nodeAt_run h, pure_bind]
  rfl

/-- What has been built so far agrees with the string nodes, and there is a
place for every node. -/
structure Agrees (ns : Array Node) (built : Array (Option Datum)) : Prop where
  size : built.size = ns.size
  strs : ∀ j t, StrAt ns j t → built.getD j none = none ∨ built.getD j none = some (.str t)

def Grows (built' built : Array (Option Datum)) : Prop :=
  ∀ i d, built.getD i none = some d → built'.getD i none = some d

theorem Grows.refl (built : Array (Option Datum)) : Grows built built := fun _ _ h => h

theorem Grows.trans {b₁ b₂ b₃ : Array (Option Datum)} (h₁ : Grows b₁ b₂)
    (h₂ : Grows b₂ b₃) :
    Grows b₁ b₃ := fun i d h => h₁ i d (h₂ i d h)

theorem StrAt.lt_size {ns : Array Node} {j : Nat} {t : String} (h : StrAt ns j t) :
    j < ns.size := by
  obtain ⟨m, hm⟩ := h
  exact (Array.getElem?_eq_some_iff.mp hm).1

theorem StrAt.unique {ns : Array Node} {j : Nat} {t t' : String} (h : StrAt ns j t)
    (h' : StrAt ns j t') : t = t' := by
  obtain ⟨m, hm⟩ := h
  obtain ⟨m', hm'⟩ := h'
  rw [hm] at hm'
  cases hm'
  rfl

theorem getD_set! {built : Array (Option Datum)} {j : Nat} (hj : j < built.size) (d : Option Datum)
    (i : Nat) : (built.set! j d).getD i none = if j = i then d else built.getD i none := by
  simp only [Array.getD_eq_getD_getElem?, Array.set!_eq_setIfInBounds, Array.getElem?_setIfInBounds]
  split <;> simp_all

theorem getD_replicate_none (n j : Nat) :
    (Array.replicate n (none : Option Datum)).getD j none = none := by
  rw [Array.getD_eq_getD_getElem?, Array.getElem?_replicate]
  split <;> rfl

theorem construct_built {ns : Array Node} {built : Array (Option Datum)} {j : Nat} {d : Datum}
    (hb : built.getD j none = some d) (q : List Nat) :
    (construct j).run ⟨ns, built, q⟩ = pure (d, ⟨ns, built, q⟩) := by
  unfold construct
  simp only [StateT.run_bind, StateT.run_get, pure_bind, hb]
  rfl

theorem construct_str_fresh {ns : Array Node} {j : Nat} {t : String} (hj : StrAt ns j t)
    {built : Array (Option Datum)} (hb : built.getD j none = none) (q : List Nat) :
    (construct j).run ⟨ns, built, q⟩ =
      pure (.str t, ⟨ns, built.set! j (some (.str t)), q⟩) := by
  obtain ⟨m, hm⟩ := hj
  unfold construct
  simp only [StateT.run_bind, StateT.run_get, pure_bind, hb, nodeAt_run hm]
  rfl

theorem construct_str {ns : Array Node} {built : Array (Option Datum)} {j : Nat} {t : String}
    (hj : StrAt ns j t) (ha : Agrees ns built) (q : List Nat) :
    ∃ built', (construct j).run ⟨ns, built, q⟩ = pure (.str t, ⟨ns, built', q⟩) ∧
      Agrees ns built' ∧ Grows built' built ∧ built'.getD j none = some (.str t) := by
  rcases ha.strs j t hj with hb | hb
  · have hlt : j < built.size := ha.size ▸ hj.lt_size
    refine ⟨_, construct_str_fresh hj hb q, ⟨?_, ?_⟩, ?_, ?_⟩
    · simp [ha.size]
    · intro i t' hi
      rw [getD_set! hlt]
      split
      · subst j
        rw [hj.unique hi]
        exact Or.inr rfl
      · exact ha.strs i t' hi
    · intro i d hd
      rw [getD_set! hlt]
      split
      · subst j
        rw [hb] at hd
        cases hd
      · exact hd
    · rw [getD_set! hlt, if_pos rfl]
  · exact ⟨built, construct_built hb q, ha, Grows.refl _, hb⟩

theorem construct_map_fresh {ns : Array Node} {i : Nat} {b : NodeBody} {m : Mark}
    (h : ns[i]? = some ⟨mapTag, b, m⟩) {built : Array (Option Datum)}
    (hb : built.getD i none = none) (q : List Nat) :
    (construct i).run ⟨ns, built, q⟩ =
      pure (.map i, ⟨ns, built.set! i (some (.map i)), q ++ [i]⟩) := by
  unfold construct
  simp only [StateT.run_bind, StateT.run_get, pure_bind, hb, nodeAt_run h]
  rfl

theorem buildPair_str {ns : Array Node} {built : Array (Option Datum)} {kv : Nat × Nat}
    {p : String × String} (hkv : StrAt ns kv.1 p.1 ∧ StrAt ns kv.2 p.2) (ha : Agrees ns built)
    (start : Mark) (q : List Nat) :
    ∃ built', (buildPair start kv).run ⟨ns, built, q⟩ =
        pure (PUnit.unit, ⟨ns, built', q⟩) ∧
      Agrees ns built' ∧ Grows built' built ∧
      built'.getD kv.1 none = some (.str p.1) ∧ built'.getD kv.2 none = some (.str p.2) := by
  obtain ⟨b₁, hk, ha₁, hg₁, hk₁⟩ := construct_str hkv.1 ha q
  obtain ⟨b₂, hv, ha₂, hg₂, hv₂⟩ := construct_str hkv.2 ha₁ q
  refine ⟨b₂, ?_, ha₂, hg₂.trans hg₁, hg₂ _ _ hk₁, hv₂⟩
  unfold buildPair
  simp only [StateT.run_bind, hk, pure_bind, Datum.hashable, Bool.not_true, Bool.false_eq_true,
    ↓reduceIte, hv, StateT.run_pure]

theorem buildPairs_str (ns : Array Node) (start : Mark) (q : List Nat) :
    ∀ {rs : List (Nat × Nat)} {qs : List (String × String)},
      List.Forall₂ (fun kv p => StrAt ns kv.1 p.1 ∧ StrAt ns kv.2 p.2) rs qs →
      ∀ built, Agrees ns built → ∃ built',
        (forM rs (buildPair start)).run ⟨ns, built, q⟩ =
          pure (PUnit.unit, ⟨ns, built', q⟩) ∧
        Agrees ns built' ∧ Grows built' built ∧
        List.Forall₂ (fun kv p => built'.getD kv.1 none = some (.str p.1) ∧
          built'.getD kv.2 none = some (.str p.2)) rs qs := by
  intro rs qs hrel
  induction hrel with
  | nil =>
    intro built ha
    exact ⟨built, rfl, ha, Grows.refl _, .nil⟩
  | @cons kv p rs qs hkv _ ih =>
    intro built ha
    obtain ⟨b₁, hpair, ha₁, hg₁, hk, hv⟩ := buildPair_str hkv ha start q
    obtain ⟨b₂, hrest, ha₂, hg₂, hall⟩ := ih b₁ ha₁
    refine ⟨b₂, ?_, ha₂, hg₂.trans hg₁, .cons ⟨hg₂ _ _ hk, hg₂ _ _ hv⟩ hall⟩
    simp only [List.forM_cons, StateT.run_bind, hpair, pure_bind, hrest]

theorem flattenFrom_plain {ns : Array Node} {i : Nat} {prs : List (Nat × Nat)} {m : Mark}
    (h : ns[i]? = some ⟨mapTag, .mapping prs, m⟩)
    (hkeys : ∀ kv ∈ prs, ∃ t, StrAt ns kv.1 t)
    (built : Array (Option Datum)) (q : List Nat) (merged : List (Nat × Nat)) :
    ∀ fuel index, prs.length - index < fuel →
      (flattenFrom fuel i index merged).run ⟨ns, built, q⟩ =
        pure (merged, ⟨ns, built, q⟩) := by
  intro fuel
  induction fuel with
  | zero =>
    intro index hf
    omega
  | succ f ih =>
    intro index hf
    rw [flattenFrom]
    simp only [StateT.run_bind, pairsAt_run h, pure_bind]
    cases hkv : prs[index]? with
    | none => rfl
    | some kv =>
      obtain ⟨t, m', hk⟩ := hkeys kv (List.mem_of_getElem? hkv)
      have hlt : index < prs.length := (List.getElem?_eq_some_iff.mp hkv).1
      have hmerge : (strTag == mergeTag) = false := by decide
      have hvalue : (strTag == valueTag) = false := by decide
      simp only [StateT.run_bind, nodeAt_run hk, pure_bind, hmerge, hvalue, Bool.false_eq_true,
        ↓reduceIte]
      exact ih (index + 1) (by omega)

theorem buildMapping_str {ns : Array Node} {i : Nat} {prs : List (Nat × Nat)} {m : Mark}
    {qs : List (String × String)} (h : ns[i]? = some ⟨mapTag, .mapping prs, m⟩)
    (hrel : List.Forall₂ (fun kv p => StrAt ns kv.1 p.1 ∧ StrAt ns kv.2 p.2) prs qs)
    {built : Array (Option Datum)} (ha : Agrees ns built) (q : List Nat) (fuel : Nat)
    (hf : prs.length + 1 < fuel) :
    ∃ built', (buildMapping i fuel).run ⟨ns, built, q⟩ =
        pure (PUnit.unit, ⟨ns, built', q⟩) ∧
      List.Forall₂ (fun kv p => built'.getD kv.1 none = some (.str p.1) ∧
        built'.getD kv.2 none = some (.str p.2)) prs qs := by
  obtain ⟨f, rfl⟩ : ∃ f, fuel = f + 1 := ⟨fuel - 1, by omega⟩
  have hkeys : ∀ kv ∈ prs, ∃ t, StrAt ns kv.1 t :=
    ((List.forall₂_and_left prs qs).mp (hrel.imp fun _ p h => ⟨⟨p.1, h.1⟩, h⟩)).1
  have hflat :
      (flatten (f + 1) i).run ⟨ns, built, q⟩ = pure (PUnit.unit, ⟨ns, built, q⟩) := by
    rw [flatten]
    simp only [StateT.run_bind, flattenFrom_plain h hkeys built q [] f 0 (by omega), pure_bind,
      List.isEmpty_nil, Bool.not_true, Bool.false_eq_true, ↓reduceIte]
    rfl
  obtain ⟨built', hloop, -, -, hall⟩ := buildPairs_str ns m q hrel built ha
  refine ⟨built', ?_, hall⟩
  unfold buildMapping
  simp only [StateT.run_bind, nodeAt_run h, pure_bind, hflat, pairsAt_run h, List.forM_eq_forM,
    hloop]

theorem buildContents_map {ns : Array Node} {built : Array (Option Datum)} {i : Nat}
    (hb : built.getD i none = some (.map i)) (q : List Nat) (fuel : Nat) :
    (buildContents i fuel).run ⟨ns, built, q⟩ =
      (buildMapping i fuel).run ⟨ns, built, q⟩ := by
  unfold buildContents
  simp only [StateT.run_bind, StateT.run_get, pure_bind, hb]

theorem drain_idle (ns : Array Node) (built : Array (Option Datum)) (fuel : Nat) {rounds : Nat}
    (hr : 0 < rounds) :
    (drain fuel rounds).run ⟨ns, built, []⟩ = pure (PUnit.unit, ⟨ns, built, []⟩) := by
  obtain ⟨r, rfl⟩ : ∃ r, rounds = r + 1 := ⟨rounds - 1, by omega⟩
  rw [drain]
  rfl

theorem agrees_root {ns : Array Node} {b : NodeBody} {m : Mark}
    (h₀ : ns[0]? = some ⟨mapTag, b, m⟩) :
    Agrees ns ((Array.replicate ns.size (none : Option Datum)).set! 0 (some (.map 0))) ∧
      ((Array.replicate ns.size (none : Option Datum)).set! 0 (some (.map 0))).getD 0 none =
        some (.map 0) := by
  have hlt : 0 < (Array.replicate ns.size (none : Option Datum)).size := by
    rw [Array.size_replicate]
    exact (Array.getElem?_eq_some_iff.mp h₀).1
  refine ⟨⟨by simp, ?_⟩, by rw [getD_set! hlt, if_pos rfl]⟩
  intro j t hj
  left
  rw [getD_set! hlt, if_neg (hj.ne_zero h₀)]
  exact getD_replicate_none _ _

/-- Building the nodes of a mapping of string pairs gives the map, with each key
and value built as its text. -/
theorem buildDocument_mapping {ns : Array Node} {qs : List (String × String)}
    (hns : MappingNodes ns qs) :
    ∃ (built : Array (Option Datum)) (prs : List (Nat × Nat)) (m : Mark),
      buildDocument ns (some 0) = .ok ⟨ns, built, some (.map 0)⟩ ∧
      ns[0]? = some ⟨mapTag, .mapping prs, m⟩ ∧
      List.Forall₂ (fun kv p => built.getD kv.1 none = some (.str p.1) ∧
        built.getD kv.2 none = some (.str p.2)) prs qs := by
  obtain ⟨prs, m, h₀, hsize, hrel⟩ := hns
  have hfresh : (Array.replicate ns.size (none : Option Datum)).getD 0 none = none :=
    getD_replicate_none _ _
  obtain ⟨ha, hroot⟩ := agrees_root h₀
  obtain ⟨built', hmap, hall⟩ :=
    buildMapping_str h₀ hrel ha [] (4 * (ns.size + 8)) (by have := hrel.length_eq; omega)
  refine ⟨built', prs, m, ?_, h₀, hall⟩
  unfold buildDocument
  -- the root is queued, the one round of the drain builds its pairs, and the queue is empty
  simp only [StateT.run_bind, construct_map_fresh h₀ hfresh, pure_bind, List.nil_append, drain,
    StateT.run_get, StateT.run_modify, buildContents_map hroot, hmap,
    drain_idle _ _ _ (by omega : 0 < ns.size), StateT.run_pure]
  rfl

/-! ## Looking up a key -/

/-- The value of the last pair with a key. -/
def lastValue (ps : List (String × String)) (key : String) : Option String :=
  ((ps.filter (·.1 == key)).getLast?).map Prod.snd

theorem last_value_of_pairs {built : Array (Option Datum)} {key : String} {P : Nat × Nat → Bool}
    {prs : List (Nat × Nat)} {qs : List (String × String)}
    (hrel : List.Forall₂ (fun kv p => built.getD kv.1 none = some (.str p.1) ∧
      built.getD kv.2 none = some (.str p.2)) prs qs)
    (hP : ∀ kv (p : String × String), built.getD kv.1 none = some (.str p.1) →
      P kv = (p.1 == key)) :
    ((prs.filter P).getLast?.bind fun kv => built.getD kv.2 none) =
      ((qs.filter (·.1 == key)).getLast?).map fun p => .str p.2 := by
  have hmap : (prs.filter P).map (fun kv => built.getD kv.2 none) =
      (qs.filter (·.1 == key)).map fun p => some (.str p.2) := by
    induction hrel with
    | nil => rfl
    | @cons kv p prs qs h _ ih =>
      rw [List.filter_cons, List.filter_cons, hP kv p h.1]
      split
      · rw [List.map_cons, List.map_cons, h.2, ih]
      · exact ih
  calc ((prs.filter P).getLast?.bind fun kv => built.getD kv.2 none)
      = ((prs.filter P).map fun kv => built.getD kv.2 none).getLast?.bind id := by
        rw [List.getLast?_map]
        cases (prs.filter P).getLast? <;> rfl
    _ = ((qs.filter (·.1 == key)).map fun p => some (Datum.str p.2)).getLast?.bind id := by
        rw [hmap]
    _ = ((qs.filter (·.1 == key)).getLast?).map fun p => .str p.2 := by
        rw [List.getLast?_map]
        cases (qs.filter (·.1 == key)).getLast? <;> rfl

/-- Looking up a key in a map whose pairs are built as texts finds the value of
the last pair with that key. -/
theorem field?_of_pairs {doc : Document} {i : Nat} {tag : String} {prs : List (Nat × Nat)}
    {m : Mark}
    {qs : List (String × String)} (hroot : doc.root = some (.map i))
    (hnode : doc.nodes[i]? = some ⟨tag, .mapping prs, m⟩)
    (hrel : List.Forall₂ (fun kv p => doc.built.getD kv.1 none = some (.str p.1) ∧
      doc.built.getD kv.2 none = some (.str p.2)) prs qs) (key : String) :
    doc.field? key = (lastValue qs key).map .str := by
  have hn : doc.nodes.getD i default = ⟨tag, .mapping prs, m⟩ := by
    rw [Array.getD_eq_getD_getElem?, hnode]
    rfl
  unfold Document.field?
  simp only [hroot, hn]
  rw [last_value_of_pairs hrel, lastValue, Option.map_map]
  · rfl
  · intro kv p hk
    simp only [hk]

/-! ## A rendered mapping -/

/-- A pair of texts that renders as one line of a block mapping: printable
characters and no line breaks, and a key short enough to be a simple key. -/
def Renderable (p : String × String) : Prop :=
  (∀ c ∈ p.1.toList ++ p.2.toList, isAcceptable c = true ∧ isBreak c = false) ∧
    (singleQuoted p.1.toList).length ≤ 1024

-- decided through a Boolean check of the characters, which the kernel evaluates quickly
instance (p : String × String) : Decidable (Renderable p) :=
  decidable_of_iff
    (((p.1.toList ++ p.2.toList).all fun c => isAcceptable c && !isBreak c) &&
      decide ((singleQuoted p.1.toList).length ≤ 1024) = true)
    (by simp only [Renderable, Bool.and_eq_true, List.all_eq_true, Bool.not_eq_true',
      decide_eq_true_eq])

theorem Renderable.oneLine {p : String × String} (h : Renderable p) : OneLine p := by
  have hline : ∀ c ∈ p.1.toList ++ p.2.toList, isBreakOrEnd c = false := by
    intro c hc
    obtain ⟨hacc, hbreak⟩ := h.1 c hc
    have hnul : c ≠ '\x00' := by
      rintro rfl
      exact absurd hacc (by decide)
    simp [isBreakOrEnd, hbreak, hnul]
  refine ⟨fun c hc => hline c (List.mem_append_left _ hc),
    fun c hc => hline c (List.mem_append_right _ hc), h.2⟩

theorem forall_mem_pairLine {P : Char → Prop} {p : String × String} (hq : P '\'') (hc : P ':')
    (hs : P ' ') (hn : P '\n') (h₁ : ∀ c ∈ p.1.toList, P c)
    (h₂ : ∀ c ∈ p.2.toList, P c) :
    ∀ c ∈ pairLine p, P c := by
  have hbody : ∀ cs, (∀ c ∈ cs, P c) → ∀ c ∈ quoteBody cs, P c := by
    intro cs h c hmem
    rcases mem_quoteBody hmem with rfl | hmem
    · exact hq
    · exact h c hmem
  simp only [pairLine, singleQuoted, List.cons_append, List.forall_mem_cons, List.forall_mem_append]
  simp only [hq, hc, hs, hn, List.not_mem_nil, IsEmpty.forall_iff, implies_true, and_true, true_and]
  exact ⟨hbody _ h₁, hbody _ h₂⟩

theorem acceptable_renderPairs {ps : List (String × String)} (hp : ∀ p ∈ ps, Renderable p) :
    ∀ c ∈ (renderPairs ps).toList, isAcceptable c = true := by
  intro c hc
  rw [renderPairs, String.toList_ofList, List.mem_flatMap] at hc
  obtain ⟨p, hmem, hline⟩ := hc
  have hpair := (hp p hmem).1
  apply forall_mem_pairLine (by decide) (by decide) (by decide) (by decide) _ _ c hline
  · exact fun c h => (hpair c (List.mem_append_left _ h)).1
  · exact fun c h => (hpair c (List.mem_append_right _ h)).1

/-- A rendered mapping of pairs reads back as a map in which each key finds the
value of its last pair. -/
theorem load_rendered {ps : List (String × String)} (hne : ps ≠ [])
    (hp : ∀ p ∈ ps, Renderable p) :
    ∃ doc : Document, load (renderPairs ps) = .ok doc ∧ doc.root = some (.map 0) ∧
      ∀ key, doc.field? key = (lastValue ps key).map .str := by
  have hacc : (renderPairs ps).toList.findIdx? (fun c => !isAcceptable c) = none := by
    rw [List.findIdx?_eq_none_iff]
    intro c hc
    rw [acceptable_renderPairs hp c hc]
    rfl
  obtain ⟨ns, hcomp, hns⟩ := compose_rendered hne fun p hmem => (hp p hmem).oneLine
  obtain ⟨built, prs, m, hbuild, h₀, hall⟩ := buildDocument_mapping hns
  refine ⟨⟨ns, built, some (.map 0)⟩, ?_, rfl, fun key => field?_of_pairs rfl h₀ hall key⟩
  unfold load
  simp only [hacc, hcomp]
  exact hbuild

end Yaml
end SpireEnroll
