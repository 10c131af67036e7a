import SpireEnroll.Proofs.YamlTokens

/-!
# The events of a block mapping of quoted pairs

The parser asks the scanner for tokens through `check`, `peekTok` and `takeTok`,
each of which settles the scanner first. When the scanner hands out a known list
of tokens (`Scanner.Yields`), each phase of the parser is a fixed computation:
here one lemma per phase the mapping's document passes through, and from them the
events of the whole document (`Parser.Emits`).
-/

namespace SpireEnroll
namespace Yaml

open Scanner

/-! ## Asking the scanner -/

theorem run_scan {α : Type} {m : ScanM α} {p : Parser} {a : α} {s : Scanner}
    (h : m.run p.scanner = pure (a, s)) : (scan m).run p = pure (a, { p with scanner := s }) := by
  unfold scan
  simp only [StateT.run] at h ⊢
  rw [h]
  rfl

theorem checkToken_run {s s' : Scanner} {t : Token} {rest : List Token}
    (hs : settle.run s = pure ((), s')) (ht : s'.tokens = t :: rest) (cls : List TokenClass) :
    (checkToken cls).run s = pure (cls.contains t.cls, s') := by
  unfold checkToken peekToken
  simp only [StateT.run_bind, pure_bind, StateT.run_get]
  rw [hs]
  simp only [pure_bind, ht, StateT.run_pure, List.head?_cons]

theorem peekToken_run {s s' : Scanner} {t : Token} {rest : List Token}
    (hs : settle.run s = pure ((), s')) (ht : s'.tokens = t :: rest) :
    peekToken.run s = pure (some t, s') := by
  unfold peekToken
  simp only [StateT.run_bind, pure_bind, StateT.run_get]
  rw [hs]
  simp only [pure_bind, ht, StateT.run_pure, List.head?_cons]

theorem takeToken_run {s s' : Scanner} {t : Token} {rest : List Token}
    (hs : settle.run s = pure ((), s')) (ht : s'.tokens = t :: rest) :
    takeToken.run s = pure (some t, { s' with tokens := rest, tokensTaken := s'.tokensTaken + 1 }) := by
  unfold takeToken
  simp only [StateT.run_bind, pure_bind, StateT.run_get]
  rw [hs]
  simp only [pure_bind, ht]
  rfl

theorem Scanner.Yields.of_front {s₁ : Scanner} {t : Token} {rest : List Token} {k : TokenKind}
    {ks : List TokenKind} (hs₁ : settle.run s₁ = pure ((), s₁)) (ht : s₁.tokens = t :: rest)
    (hk : t.kind = k) (hy : Yields { s₁ with tokens := rest, tokensTaken := s₁.tokensTaken + 1 } ks) :
    s₁.Yields (k :: ks) :=
  ⟨s₁, t, rest, hs₁, hs₁, ht, hk, hy⟩

/-! ## The parser's requests

The parser's state is written as a constructor application, so that the lemmas
below rewrite a request whatever the parser's other fields hold. -/

theorem check_at {s s' : Scanner} {t : Token} {rest : List Token}
    (hs : settle.run s = pure ((), s')) (ht : s'.tokens = t :: rest) (cls : List TokenClass)
    (c h st m ph) :
    (check cls).run ⟨s, c, h, st, m, ph⟩ = pure (cls.contains t.cls, ⟨s', c, h, st, m, ph⟩) :=
  run_scan (checkToken_run hs ht cls)

theorem peekTok_at {s s' : Scanner} {t : Token} {rest : List Token}
    (hs : settle.run s = pure ((), s')) (ht : s'.tokens = t :: rest) (c h st m ph) :
    peekTok.run ⟨s, c, h, st, m, ph⟩ = pure (t, ⟨s', c, h, st, m, ph⟩) := by
  unfold peekTok
  simp only [StateT.run_bind]
  rw [run_scan (p := ⟨s, c, h, st, m, ph⟩) (peekToken_run hs ht)]
  rfl

theorem takeTok_at {s s' : Scanner} {t : Token} {rest : List Token}
    (hs : settle.run s = pure ((), s')) (ht : s'.tokens = t :: rest) (c h st m ph) :
    takeTok.run ⟨s, c, h, st, m, ph⟩ =
      pure (t, ⟨{ s' with tokens := rest, tokensTaken := s'.tokensTaken + 1 }, c, h, st, m, ph⟩) := by
  unfold takeTok
  simp only [StateT.run_bind]
  rw [run_scan (p := ⟨s, c, h, st, m, ph⟩) (takeToken_run hs ht)]
  rfl

/-! ## Nodes -/

theorem parseNode_scalar {s s₁ : Scanner} {t : Token} {rest : List Token} {v : String}
    (hs : settle.run s = pure ((), s₁)) (hs₁ : settle.run s₁ = pure ((), s₁))
    (ht : s₁.tokens = t :: rest) (hk : t.kind = .scalar v false) (block indentless : Bool)
    (c h st m ph) :
    (parseNode block indentless).run ⟨s, c, h, st, m, ph⟩ =
      pure (⟨.scalar none none (false, true) v, t.start, t.stop⟩,
        ⟨{ s₁ with tokens := rest, tokensTaken := s₁.tokensTaken + 1 }, c, h, st.tail, m, st.head?⟩) := by
  have hc : t.cls = .scalar := by rw [Token.cls, hk]; rfl
  unfold parseNode
  simp +decide only [StateT.run_bind, check_at hs ht, check_at hs₁ ht, hc, pure_bind,
    List.contains_cons, List.contains_nil, Bool.or_false, ↓reduceIte, StateT.run_get,
    peekTok_at hs₁ ht, StateT.run_pure, takeTok_at hs₁ ht, Bool.and_eq_true, beq_iff_eq, and_false,
    hk, popPhase, StateT.run_modify]

theorem parseNode_mapping {s s₁ : Scanner} {t : Token} {rest : List Token}
    (hs : settle.run s = pure ((), s₁)) (hs₁ : settle.run s₁ = pure ((), s₁))
    (ht : s₁.tokens = t :: rest) (hk : t.kind = .blockMappingStart) (indentless : Bool)
    (c h st m ph) :
    (parseNode true indentless).run ⟨s, c, h, st, m, ph⟩ =
      pure (⟨.mappingStart none none true, t.start, t.start⟩,
        ⟨s₁, c, h, st, m, some .blockMappingFirstKey⟩) := by
  have hc : t.cls = .blockMappingStart := by rw [Token.cls, hk]; rfl
  unfold parseNode
  simp +decide only [StateT.run_bind, check_at hs ht, check_at hs₁ ht, hc, pure_bind,
    List.contains_cons, List.contains_nil, Bool.or_false, ↓reduceIte, StateT.run_get,
    peekTok_at hs₁ ht, StateT.run_pure, Bool.and_eq_true, beq_iff_eq, and_false, setPhase,
    StateT.run_modify]
  rfl

/-! ## The phases of the mapping's document -/

theorem parsePhase_streamStart {s : Scanner} {ks : List TokenKind}
    (hy : s.Yields (.streamStart :: ks)) (c h st m ph) :
    ∃ (e : Event) (s' : Scanner), (parsePhase .streamStart).run ⟨s, c, h, st, m, ph⟩ =
        pure (e, ⟨s', c, h, st, m, some .implicitDocumentStart⟩) ∧
      e.kind = .streamStart ∧ s'.Yields ks := by
  obtain ⟨s₁, t₁, r₁, hs₁, -, ht₁, -, hy₁⟩ := hy
  refine ⟨⟨.streamStart, t₁.start, t₁.stop⟩, _, ?_, rfl, hy₁⟩
  simp only [parsePhase, StateT.run_bind, takeTok_at hs₁ ht₁, pure_bind, setPhase,
    StateT.run_modify, StateT.run_pure]

theorem parsePhase_implicitDocumentStart {s : Scanner} {ks : List TokenKind}
    (hy : s.Yields (.blockMappingStart :: ks)) (c h st m ph) :
    ∃ (e : Event) (s' : Scanner), (parsePhase .implicitDocumentStart).run ⟨s, c, h, st, m, ph⟩ =
        pure (e, ⟨s', c, defaultTagHandles, .documentEnd :: st, m, some .blockNode⟩) ∧
      e.kind = .documentStart false ∧ s'.Yields (.blockMappingStart :: ks) := by
  obtain ⟨s₁, t₁, r₁, hs₁, hs₁', ht₁, hk₁, hy₁⟩ := hy
  have hc : t₁.cls = .blockMappingStart := by rw [Token.cls, hk₁]; rfl
  refine ⟨⟨.documentStart false, t₁.start, t₁.start⟩, s₁, ?_, rfl, Yields.of_front hs₁' ht₁ hk₁ hy₁⟩
  simp +decide only [parsePhase, StateT.run_bind, check_at hs₁ ht₁, hc, pure_bind, List.contains_cons,
    List.contains_nil, Bool.or_false, ↓reduceIte, StateT.run_modify, peekTok_at hs₁' ht₁, pushPhase,
    setPhase, StateT.run_pure]

theorem parsePhase_blockNode {s : Scanner} {ks : List TokenKind}
    (hy : s.Yields (.blockMappingStart :: ks)) (c h st m ph) :
    ∃ (e : Event) (s' : Scanner), (parsePhase .blockNode).run ⟨s, c, h, st, m, ph⟩ =
        pure (e, ⟨s', c, h, st, m, some .blockMappingFirstKey⟩) ∧
      e.kind = .mappingStart none none true ∧ s'.Yields (.blockMappingStart :: ks) := by
  obtain ⟨s₁, t₁, r₁, hs₁, hs₁', ht₁, hk₁, hy₁⟩ := hy
  have hc : t₁.cls = .blockMappingStart := by rw [Token.cls, hk₁]; rfl
  refine ⟨⟨.mappingStart none none true, t₁.start, t₁.start⟩, s₁, ?_, rfl,
    Yields.of_front hs₁' ht₁ hk₁ hy₁⟩
  exact parseNode_mapping hs₁ hs₁' ht₁ hk₁ false c h st m ph

theorem parseBlockMappingKey_key {s : Scanner} {k : String} {ks : List TokenKind}
    (hy : s.Yields (.key :: .scalar k false :: ks)) (c h st m ph) :
    ∃ (e : Event) (s' : Scanner), parseBlockMappingKey.run ⟨s, c, h, st, m, ph⟩ =
        pure (e, ⟨s', c, h, st, m, some .blockMappingValue⟩) ∧
      e.kind = .scalar none none (false, true) k ∧ s'.Yields ks := by
  obtain ⟨s₁, t₁, r₁, hs₁, hs₁', ht₁, hk₁, hy₁⟩ := hy
  obtain ⟨s₂, t₂, r₂, hs₂, hs₂', ht₂, hk₂, hy₂⟩ := hy₁
  have hc₁ : t₁.cls = .key := by rw [Token.cls, hk₁]; rfl
  have hc₂ : t₂.cls = .scalar := by rw [Token.cls, hk₂]; rfl
  refine ⟨⟨.scalar none none (false, true) k, t₂.start, t₂.stop⟩,
    { s₂ with tokens := r₂, tokensTaken := s₂.tokensTaken + 1 }, ?_, rfl, hy₂⟩
  unfold parseBlockMappingKey
  simp +decide only [StateT.run_bind, check_at hs₁ ht₁, hc₁, pure_bind, List.contains_cons,
    List.contains_nil, Bool.or_false, ↓reduceIte, takeTok_at hs₁' ht₁, check_at hs₂ ht₂, hc₂,
    pushPhase, StateT.run_modify, parseNode_scalar hs₂' hs₂' ht₂ hk₂, List.tail_cons, List.head?_cons]

theorem parseBlockMappingKey_end {s : Scanner} {ks : List TokenKind}
    (hy : s.Yields (.blockEnd :: ks)) (c h st m ph) :
    ∃ (e : Event) (s' : Scanner), parseBlockMappingKey.run ⟨s, c, h, st, m, ph⟩ =
        pure (e, ⟨s', c, h, st.tail, m.tail, st.head?⟩) ∧
      e.kind = .mappingEnd ∧ s'.Yields ks := by
  obtain ⟨s₁, t₁, r₁, hs₁, hs₁', ht₁, hk₁, hy₁⟩ := hy
  have hc₁ : t₁.cls = .blockEnd := by rw [Token.cls, hk₁]; rfl
  refine ⟨⟨.mappingEnd, t₁.start, t₁.stop⟩, _, ?_, rfl, hy₁⟩
  unfold parseBlockMappingKey
  simp +decide only [StateT.run_bind, check_at hs₁ ht₁, check_at hs₁' ht₁, hc₁, pure_bind,
    List.contains_cons, List.contains_nil, Bool.or_false, ↓reduceIte, takeTok_at hs₁' ht₁,
    popPhase, popMark, StateT.run_modify, StateT.run_pure]

theorem parseBlockMappingValue_value {s : Scanner} {v : String} {ks : List TokenKind}
    (hy : s.Yields (.value :: .scalar v false :: ks)) (c h st m ph) :
    ∃ (e : Event) (s' : Scanner), parseBlockMappingValue.run ⟨s, c, h, st, m, ph⟩ =
        pure (e, ⟨s', c, h, st, m, some .blockMappingKey⟩) ∧
      e.kind = .scalar none none (false, true) v ∧ s'.Yields ks := by
  obtain ⟨s₁, t₁, r₁, hs₁, hs₁', ht₁, hk₁, hy₁⟩ := hy
  obtain ⟨s₂, t₂, r₂, hs₂, hs₂', ht₂, hk₂, hy₂⟩ := hy₁
  have hc₁ : t₁.cls = .value := by rw [Token.cls, hk₁]; rfl
  have hc₂ : t₂.cls = .scalar := by rw [Token.cls, hk₂]; rfl
  refine ⟨⟨.scalar none none (false, true) v, t₂.start, t₂.stop⟩,
    { s₂ with tokens := r₂, tokensTaken := s₂.tokensTaken + 1 }, ?_, rfl, hy₂⟩
  unfold parseBlockMappingValue
  simp +decide only [StateT.run_bind, check_at hs₁ ht₁, hc₁, pure_bind, List.contains_cons,
    List.contains_nil, Bool.or_false, ↓reduceIte, takeTok_at hs₁' ht₁, check_at hs₂ ht₂, hc₂,
    pushPhase, StateT.run_modify, parseNode_scalar hs₂' hs₂' ht₂ hk₂, List.tail_cons, List.head?_cons]

theorem parsePhase_blockMappingFirstKey {s : Scanner} {k : String} {ks : List TokenKind}
    (hy : s.Yields (.blockMappingStart :: .key :: .scalar k false :: ks)) (c h st m ph) :
    ∃ (e : Event) (s' : Scanner) (m' : List Mark),
      (parsePhase .blockMappingFirstKey).run ⟨s, c, h, st, m, ph⟩ =
        pure (e, ⟨s', c, h, st, m', some .blockMappingValue⟩) ∧
      e.kind = .scalar none none (false, true) k ∧ s'.Yields ks := by
  obtain ⟨s₁, t₁, r₁, hs₁, -, ht₁, -, hy₁⟩ := hy
  obtain ⟨e, s', he, hk, hy'⟩ := parseBlockMappingKey_key hy₁ c h st (t₁.start :: m) ph
  refine ⟨e, s', t₁.start :: m, ?_, hk, hy'⟩
  simp only [parsePhase, StateT.run_bind, takeTok_at hs₁ ht₁, pure_bind, pushMark,
    StateT.run_modify, he]

theorem parsePhase_documentEnd {s : Scanner} {ks : List TokenKind}
    (hy : s.Yields (.streamEnd :: ks)) (c h st m ph) :
    ∃ (e : Event) (s' : Scanner), (parsePhase .documentEnd).run ⟨s, c, h, st, m, ph⟩ =
        pure (e, ⟨s', c, h, st, m, some .documentStart⟩) ∧
      e.kind = .documentEnd false ∧ s'.Yields (.streamEnd :: ks) := by
  obtain ⟨s₁, t₁, r₁, hs₁, hs₁', ht₁, hk₁, hy₁⟩ := hy
  have hc₁ : t₁.cls = .streamEnd := by rw [Token.cls, hk₁]; rfl
  refine ⟨⟨.documentEnd false, t₁.start, t₁.start⟩, s₁, ?_, rfl, Yields.of_front hs₁' ht₁ hk₁ hy₁⟩
  simp +decide only [parsePhase, StateT.run_bind, peekTok_at hs₁ ht₁, check_at hs₁' ht₁, hc₁,
    pure_bind, List.contains_cons, List.contains_nil, Bool.or_false, ↓reduceIte, setPhase,
    StateT.run_modify, StateT.run_pure]

theorem skipEnds_none {s s₁ : Scanner} {t : Token} {rest : List Token}
    (hs : settle.run s = pure ((), s₁)) (ht : s₁.tokens = t :: rest) (hc : t.cls = .streamEnd)
    (n : Nat) (c h st m ph) :
    (parseDocumentStart.skipEnds (n + 1)).run ⟨s, c, h, st, m, ph⟩ = pure ((), ⟨s₁, c, h, st, m, ph⟩) := by
  rw [parseDocumentStart.skipEnds.eq_2]
  simp +decide only [StateT.run_bind, check_at hs ht, hc, pure_bind, List.contains_cons,
    List.contains_nil, Bool.or_false, ↓reduceIte]
  rfl

theorem parsePhase_documentStart {s : Scanner} {ks : List TokenKind}
    (hy : s.Yields (.streamEnd :: ks)) (c h st m ph) :
    ∃ (e : Event) (s' : Scanner), (parsePhase .documentStart).run ⟨s, c, h, st, m, ph⟩ =
        pure (e, ⟨s', c, h, st, m, none⟩) ∧ e.kind = .streamEnd := by
  obtain ⟨s₁, t₁, r₁, hs₁, hs₁', ht₁, hk₁, -⟩ := hy
  have hc₁ : t₁.cls = .streamEnd := by rw [Token.cls, hk₁]; rfl
  refine ⟨⟨.streamEnd, t₁.start, t₁.stop⟩, { s₁ with tokens := r₁, tokensTaken := s₁.tokensTaken + 1 },
    ?_, rfl⟩
  unfold parsePhase parseDocumentStart
  simp only [StateT.run_bind, StateT.run_get, pure_bind]
  rw [Scanner.fuel, skipEnds_none hs₁ ht₁ hc₁]
  simp +decide only [pure_bind, check_at hs₁' ht₁, hc₁, List.contains_cons, List.contains_nil,
    Bool.or_false, ↓reduceIte, StateT.run_bind, takeTok_at hs₁' ht₁,
    StateT.run_modify, StateT.run_pure]

/-! ## The events handed out -/

namespace Parser

/-- The events a parser hands out, one after another, as the composer asks for
them: each is found once, kept as the current event until it is taken. -/
def Emits : Parser → List EventKind → Prop
  | _, [] => True
  | p, k :: ks => ∃ e p', peekEvent.run p = pure (some e, p') ∧ p'.current = some e ∧ e.kind = k ∧
      Emits { p' with current := none } ks

theorem Emits.step {s s' : Scanner} {h h' : List (String × String)} {st st' : List Phase}
    {m m' : List Mark} {ph : Phase} {ph' : Option Phase} {e : Event} {k : EventKind}
    {ks : List EventKind}
    (hrun : (parsePhase ph).run ⟨s, none, h, st, m, some ph⟩ = pure (e, ⟨s', none, h', st', m', ph'⟩))
    (hk : e.kind = k) (hy : Emits ⟨s', none, h', st', m', ph'⟩ ks) :
    Emits ⟨s, none, h, st, m, some ph⟩ (k :: ks) := by
  refine ⟨e, ⟨s', some e, h', st', m', ph'⟩, ?_, rfl, hk, hy⟩
  unfold peekEvent
  simp only [StateT.run_bind, StateT.run_get, pure_bind, hrun, StateT.run_modify, StateT.run_pure]

end Parser

def pairEvents (p : String × String) : List EventKind :=
  [.scalar none none (false, true) p.1, .scalar none none (false, true) p.2]

def mappingEvents (ps : List (String × String)) : List EventKind :=
  .streamStart :: .documentStart false :: .mappingStart none none true ::
    ps.flatMap pairEvents ++ [.mappingEnd, .documentEnd false, .streamEnd]

theorem Parser.emits_pairs (h : List (String × String)) : ∀ (qs : List (String × String))
    (s : Scanner) (m : List Mark), s.Yields (qs.flatMap pairTokens ++ [.blockEnd, .streamEnd]) →
    Parser.Emits ⟨s, none, h, [.documentEnd], m, some .blockMappingKey⟩
      (qs.flatMap pairEvents ++ [.mappingEnd, .documentEnd false, .streamEnd])
  | [], s, m, hy => by
    obtain ⟨e₁, s₁, h₁, hk₁, hy₁⟩ := parseBlockMappingKey_end hy none h [.documentEnd] m
      (some .blockMappingKey)
    obtain ⟨e₂, s₂, h₂, hk₂, hy₂⟩ := parsePhase_documentEnd hy₁ none h [] m.tail (some .documentEnd)
    obtain ⟨e₃, s₃, h₃, hk₃⟩ := parsePhase_documentStart hy₂ none h [] m.tail (some .documentStart)
    exact Emits.step h₁ hk₁ (Emits.step h₂ hk₂ (Emits.step h₃ hk₃ trivial))
  | q :: qs, s, m, hy => by
    obtain ⟨e₁, s₁, h₁, hk₁, hy₁⟩ := parseBlockMappingKey_key hy none h [.documentEnd] m
      (some .blockMappingKey)
    obtain ⟨e₂, s₂, h₂, hk₂, hy₂⟩ := parseBlockMappingValue_value hy₁ none h [.documentEnd] m
      (some .blockMappingValue)
    exact Emits.step h₁ hk₁ (Emits.step h₂ hk₂ (emits_pairs h qs s₂ m hy₂))

theorem Parser.emits_mapping {s : Scanner} {q : String × String} {qs : List (String × String)}
    (hy : s.Yields (mappingTokens (q :: qs))) (h : List (String × String)) (m : List Mark) :
    Parser.Emits ⟨s, none, h, [], m, some .streamStart⟩ (mappingEvents (q :: qs)) := by
  obtain ⟨e₁, s₁, h₁, hk₁, hy₁⟩ := parsePhase_streamStart hy none h [] m (some .streamStart)
  obtain ⟨e₂, s₂, h₂, hk₂, hy₂⟩ := parsePhase_implicitDocumentStart hy₁ none h [] m
    (some .implicitDocumentStart)
  obtain ⟨e₃, s₃, h₃, hk₃, hy₃⟩ := parsePhase_blockNode hy₂ none defaultTagHandles [.documentEnd] m
    (some .blockNode)
  obtain ⟨e₄, s₄, m₄, h₄, hk₄, hy₄⟩ := parsePhase_blockMappingFirstKey hy₃ none defaultTagHandles
    [.documentEnd] m (some .blockMappingFirstKey)
  obtain ⟨e₅, s₅, h₅, hk₅, hy₅⟩ := parseBlockMappingValue_value hy₄ none defaultTagHandles
    [.documentEnd] m₄ (some .blockMappingValue)
  exact Emits.step h₁ hk₁ (Emits.step h₂ hk₂ (Emits.step h₃ hk₃ (Emits.step h₄ hk₄
    (Emits.step h₅ hk₅ (emits_pairs defaultTagHandles qs s₅ m₄ hy₅)))))

theorem emits_rendered {ps : List (String × String)} (hne : ps ≠ []) (hp : ∀ p ∈ ps, OneLine p) :
    (Parser.init (renderPairs ps)).Emits (mappingEvents ps) := by
  obtain ⟨q, qs, rfl⟩ := List.exists_cons_of_ne_nil hne
  exact Parser.emits_mapping (yields_rendered hne hp) [] []

end Yaml
end SpireEnroll
