import SpireEnroll.Proofs.YamlReading

/-!
# The tokens of a block mapping of quoted pairs

The scanner hands out a token only once it cannot change any more. A quoted key
is first only a possible simple key; the `: ` after it settles it, and the scanner
then puts a key token (and, for the first key, the start of the block mapping) in
front of it. So the parser, asking for the next token, makes the scanner fetch
twice for a key and once for a value, and at the end of the text once more for
the mapping's end and the stream's end.

Each fetch is described here by the state it leaves, and `settle` by the tokens
queued when it returns. Between two lines the scanner is `InMapping`: outside any
flow collection, inside the mapping's indentation, with no possible simple key.
-/

namespace SpireEnroll
namespace Yaml

open Scanner

/-! ## Blanks, comments and line breaks -/

def startsToken (e : Char) : Bool :=
  !(e == ' ' || e == '#' || isBreak e || e == '﻿')

theorem Reads.of_eq {s t : Scanner} {cs : List Char} (hb : t.buf = s.buf) (hp : t.ptr = s.ptr)
    (h : s.Reads cs) : t.Reads cs := by
  unfold Reads
  rw [hb, hp]
  exact h

theorem peekAt_zero_headD {s : Scanner} {cs : List Char} (h : s.Reads cs) :
    s.peekAt 0 = cs.headD '\x00' := by
  rw [peekAt_of_reads h]
  cases cs <;> rfl

theorem skipSpaces_none {s : Scanner} {cs : List Char} (h : s.Reads cs)
    (he : cs.headD '\x00' ≠ ' ') : skipSpaces.run s = pure ((), s) := by
  have hn : s.span (· == ' ') 0 = 0 := by
    rw [span_zero h rfl]
    cases cs with
    | nil => rfl
    | cons e cs =>
      simp only [List.headD_cons] at he
      simp [he]
  show (forward (s.span (· == ' ') 0)).run s = _
  rw [hn]
  rfl

theorem skipSpaces_one {s : Scanner} {cs : List Char} (h : s.Reads (' ' :: cs))
    (he : cs.headD '\x00' ≠ ' ') : skipSpaces.run s = pure ((), s.advance) := by
  have hn : s.span (· == ' ') 0 = 1 := by
    rw [span_zero h rfl]
    cases cs with
    | nil => rfl
    | cons e cs =>
      simp only [List.headD_cons] at he
      simp [he]
  show (forward (s.span (· == ' ') 0)).run s = _
  rw [hn]
  rfl

theorem skipComment_none {s : Scanner} (h : s.peekAt 0 ≠ '#') : skipComment.run s = pure ((), s) := by
  unfold skipComment
  simp only [StateT.run_bind, run_peek, pure_bind, beq_iff_eq, h, if_false]
  rfl

theorem scanLineBreak_none {s : Scanner} (h : isBreak (s.peekAt 0) = false) :
    scanLineBreak.run s = pure ("", s) := by
  simp only [isBreak, Bool.or_eq_false_iff, beq_eq_false_iff_ne] at h
  obtain ⟨⟨⟨⟨hr, hn⟩, h85⟩, h28⟩, h29⟩ := h
  unfold scanLineBreak
  simp only [StateT.run_bind, run_peek, pure_bind]
  rw [if_neg (by simp [hr, hn, h85]), if_neg (by simp [h28, h29])]
  rfl

theorem scanLineBreak_newline {s : Scanner} {cs : List Char} (h : s.Reads ('\n' :: cs)) :
    scanLineBreak.run s = pure ("\n", s.advance) := by
  unfold scanLineBreak
  simp only [StateT.run_bind, run_peek, pure_bind, peekAt_zero h]
  rfl

theorem startsToken_facts {e : Char} (he : startsToken e = true) :
    e ≠ ' ' ∧ e ≠ '#' ∧ isBreak e = false ∧ e ≠ '﻿' := by
  simp only [startsToken, Bool.not_eq_true', Bool.or_eq_false_iff, beq_eq_false_iff_ne] at he
  exact ⟨he.1.1.1, he.1.1.2, he.1.2, he.2⟩

theorem go_here {s : Scanner} {cs : List Char} (h : s.Reads cs)
    (he : startsToken (cs.headD '\x00') = true) (n : Nat) :
    (scanToNextToken.go (n + 1)).run s = pure ((), s) := by
  have h0 := peekAt_zero_headD h
  obtain ⟨hsp, hhash, hbreak, -⟩ := startsToken_facts he
  rw [scanToNextToken.go.eq_2, run_bind_of_ok (skipSpaces_none h hsp),
    run_bind_of_ok (skipComment_none (h0 ▸ hhash)), run_bind_of_ok (scanLineBreak_none (h0 ▸ hbreak))]
  rfl

theorem go_newline {s : Scanner} {cs : List Char} (h : s.Reads ('\n' :: cs))
    (hf : s.flowLevel = 0) (n : Nat) :
    (scanToNextToken.go (n + 1)).run s =
      (scanToNextToken.go n).run { s.advance with allowSimpleKey := true } := by
  have hbr : ("\n" != "") = true := by decide
  rw [scanToNextToken.go.eq_2, run_bind_of_ok (skipSpaces_none h (by simp)),
    run_bind_of_ok (skipComment_none (by rw [peekAt_zero h]; decide)),
    run_bind_of_ok (scanLineBreak_newline h)]
  simp only [hbr, if_true, StateT.run_bind, StateT.run_get, pure_bind, advance_flowLevel, hf,
    beq_self_eq_true, StateT.run_modify]

theorem scanToNextToken_eq {s : Scanner} (hbom : s.peekAt 0 ≠ '﻿') :
    scanToNextToken.run s = (scanToNextToken.go s.fuel).run s := by
  have hb : (s.ptr == 0 && s.peekAt 0 == '﻿') = false := by simp [hbom]
  unfold scanToNextToken
  simp only [StateT.run_bind, StateT.run_get, pure_bind, hb, Bool.false_eq_true, if_false]

theorem scanToNextToken_here {s : Scanner} {cs : List Char} (h : s.Reads cs)
    (he : startsToken (cs.headD '\x00') = true) : scanToNextToken.run s = pure ((), s) := by
  have hbom : s.peekAt 0 ≠ '﻿' := by
    rw [peekAt_zero_headD h]
    exact (startsToken_facts he).2.2.2
  rw [scanToNextToken_eq hbom]
  exact go_here h he s.buf.size

theorem scanToNextToken_space {s : Scanner} {cs : List Char} (h : s.Reads (' ' :: cs))
    (he : startsToken (cs.headD '\x00') = true) : scanToNextToken.run s = pure ((), s.advance) := by
  have h1 := Reads.advance h
  have hbom : s.peekAt 0 ≠ '﻿' := by rw [peekAt_zero h]; decide
  obtain ⟨hsp, hhash, hbreak, -⟩ := startsToken_facts he
  rw [scanToNextToken_eq hbom, Scanner.fuel, scanToNextToken.go.eq_2,
    run_bind_of_ok (skipSpaces_one h hsp),
    run_bind_of_ok (skipComment_none (peekAt_zero_headD h1 ▸ hhash)),
    run_bind_of_ok (scanLineBreak_none (peekAt_zero_headD h1 ▸ hbreak))]
  rfl

theorem scanToNextToken_newline {s : Scanner} {cs : List Char} (h : s.Reads ('\n' :: cs))
    (hf : s.flowLevel = 0) (he : startsToken (cs.headD '\x00') = true) :
    scanToNextToken.run s = pure ((), { s.advance with allowSimpleKey := true }) := by
  have h1 : ({ s.advance with allowSimpleKey := true } : Scanner).Reads cs := Reads.advance h
  have hbom : s.peekAt 0 ≠ '﻿' := by rw [peekAt_zero h]; decide
  have hsize := size_of_reads h
  obtain ⟨n, hn⟩ : ∃ n, s.fuel = n + 2 := ⟨s.buf.size - 1, by simp [Scanner.fuel]; omega⟩
  rw [scanToNextToken_eq hbom, hn, go_newline h hf]
  exact go_here h1 he n

/-! ## Possible simple keys and indentation -/

theorem staleSimpleKeys_none {s : Scanner} (hk : s.simpleKeys = []) :
    staleSimpleKeys.run s = pure ((), s) := by
  unfold staleSimpleKeys
  simp only [StateT.run_bind, StateT.run_get, pure_bind, hk, List.find?_nil, List.filter_nil]
  rw [← hk]
  rfl

theorem staleSimpleKeys_fresh {s : Scanner} {l : Nat} {k : SimpleKey}
    (hk : s.simpleKeys = [(l, k)]) (hs : k.stale s = false) :
    staleSimpleKeys.run s = pure ((), s) := by
  unfold staleSimpleKeys
  simp only [StateT.run_bind, StateT.run_get, pure_bind, hk, List.find?_cons, hs,
    Bool.false_and, List.find?_nil, List.filter_cons, Bool.not_false, if_true, List.filter_nil]
  rw [← hk]
  rfl

theorem unwindIndent_within {s : Scanner} {col : Int} (h : s.indent ≤ col) :
    (unwindIndent col).run s = pure ((), s) := by
  unfold unwindIndent
  simp only [StateT.run_bind, StateT.run_get, pure_bind]
  split
  · simp only [StateT.run_bind, StateT.run_get, pure_bind]
    cases s.indents with
    | nil => rfl
    | cons i rest =>
      rw [unwindIndent.go.eq_2]
      simp only [StateT.run_bind, StateT.run_get, pure_bind, gt_iff_lt]
      rw [if_neg (Int.not_lt.mpr h)]
      rfl
  · rfl

theorem removeSimpleKey_none {s : Scanner} (hk : s.simpleKeys = []) :
    removeSimpleKey.run s = pure ((), s) := by
  unfold removeSimpleKey
  simp only [StateT.run_bind, StateT.run_get, pure_bind, hk, List.lookup_nil]
  rfl

theorem saveSimpleKey_off {s : Scanner} (ha : s.allowSimpleKey = false) :
    saveSimpleKey.run s = pure ((), s) := by
  unfold saveSimpleKey
  simp only [StateT.run_bind, StateT.run_get, pure_bind, ha, Bool.false_eq_true, if_false]
  rfl

theorem saveSimpleKey_on {s : Scanner} (ha : s.allowSimpleKey = true) (hk : s.simpleKeys = []) :
    saveSimpleKey.run s = pure ((), { s with simpleKeys :=
      [(s.flowLevel, ⟨s.tokensTaken + s.tokens.length,
        s.flowLevel == 0 && s.indent == (s.column : Int), s.mark⟩)] }) := by
  unfold saveSimpleKey
  simp only [StateT.run_bind, StateT.run_get, pure_bind]
  rw [if_pos ha, run_bind_of_ok (removeSimpleKey_none hk)]
  simp only [StateT.run_bind, StateT.run_get, pure_bind, hk, List.nil_append]
  rfl

theorem fetchQuoted_single {s s₁ : Scanner} {x : List Char} {c : Char} {cs : List Char}
    (hsave : saveSimpleKey.run s = pure ((), s₁)) (h : s₁.Reads (singleQuoted x ++ c :: cs))
    (hc : c ≠ '\'') (hx : ∀ y ∈ x, isBreakOrEnd y = false) :
    (fetchQuoted false).run s =
      pure ((), { ({ s₁ with allowSimpleKey := false } : Scanner).advanceBy (singleQuoted x).length with
        tokens := s₁.tokens ++ [⟨.scalar (String.ofList x) false, s₁.mark,
          (({ s₁ with allowSimpleKey := false } : Scanner).advanceBy (singleQuoted x).length).mark⟩] }) := by
  have h' : ({ s₁ with allowSimpleKey := false } : Scanner).Reads (singleQuoted x ++ c :: cs) := h
  unfold fetchQuoted
  rw [run_bind_of_ok hsave]
  simp only [StateT.run_bind, StateT.run_modify, pure_bind]
  rw [scanQuoted_single h' hc hx]
  simp only [pure_bind, addToken, StateT.run_modify, advanceBy_tokens]
  rfl

theorem addPunctuation_run (kind : TokenKind) (s : Scanner) :
    (addPunctuation kind 1).run s =
      pure ((), { s.advance with tokens := s.tokens ++ [Token.mk kind s.mark s.advance.mark] }) := by
  unfold addPunctuation
  simp only [StateT.run_bind, run_getMark, run_forward, pure_bind, addToken, StateT.run_modify]
  rw [advanceBy_succ, advanceBy_zero, advance_tokens]

/-! ## Values and the stream's end -/

theorem fetchValue_entry {s : Scanner} {k : SimpleKey} (hk : s.simpleKeys = [(0, k)])
    (hf : s.flowLevel = 0) (hn : k.tokenNumber = s.tokensTaken) (hi : ¬s.indent < k.mark.column) :
    fetchValue.run s = pure ((),
      let t : Scanner := { s with
        tokens := Token.mk .key k.mark k.mark :: s.tokens, simpleKeys := [], allowSimpleKey := false }
      { t.advance with tokens := t.tokens ++ [Token.mk .value t.mark t.advance.mark] }) := by
  have hl : s.simpleKeys.lookup s.flowLevel = some k := by
    rw [hk, hf]
    rfl
  have hfilter : s.simpleKeys.filter (·.1 != s.flowLevel) = [] := by
    rw [hk, hf]
    rfl
  unfold fetchValue
  simp only [StateT.run_bind, StateT.run_get, pure_bind]
  rw [hl]
  simp only [hfilter, hn, Nat.sub_self, StateT.run_bind, StateT.run_set, pure_bind, insertToken,
    StateT.run_modify, List.take_zero, List.drop_zero, List.nil_append]
  rw [if_pos (by rw [hf]; rfl)]
  simp only [addIndent, StateT.run_bind, StateT.run_get, pure_bind, hi, ↓reduceIte, StateT.run_pure,
    Bool.false_eq_true, StateT.run_modify, addPunctuation_run]

theorem fetchValue_opening {s : Scanner} {k : SimpleKey} (hk : s.simpleKeys = [(0, k)])
    (hf : s.flowLevel = 0) (hn : k.tokenNumber = s.tokensTaken) (hi : s.indent < k.mark.column) :
    fetchValue.run s = pure ((),
      let t : Scanner := { s with
        tokens := Token.mk .blockMappingStart k.mark k.mark :: Token.mk .key k.mark k.mark :: s.tokens,
        simpleKeys := [], allowSimpleKey := false, indent := k.mark.column,
        indents := s.indent :: s.indents }
      { t.advance with tokens := t.tokens ++ [Token.mk .value t.mark t.advance.mark] }) := by
  have hl : s.simpleKeys.lookup s.flowLevel = some k := by
    rw [hk, hf]
    rfl
  have hfilter : s.simpleKeys.filter (·.1 != s.flowLevel) = [] := by
    rw [hk, hf]
    rfl
  unfold fetchValue
  simp only [StateT.run_bind, StateT.run_get, pure_bind]
  rw [hl]
  simp only [hfilter, hn, Nat.sub_self, StateT.run_bind, StateT.run_set, pure_bind, insertToken,
    StateT.run_modify, List.take_zero, List.drop_zero, List.nil_append]
  rw [if_pos (by rw [hf]; rfl)]
  simp only [addIndent, StateT.run_bind, StateT.run_get, pure_bind, hi, ↓reduceIte, StateT.run_pure,
    StateT.run_set, StateT.run_modify, addPunctuation_run]

theorem unwindIndent_last {s : Scanner} {col i : Int} (hf : s.flowLevel = 0) (hi : s.indents = [i])
    (hd : col < s.indent) :
    (unwindIndent col).run s = pure ((), { s with
      indent := i, indents := [], tokens := s.tokens ++ [Token.mk .blockEnd s.mark s.mark] }) := by
  unfold unwindIndent
  simp only [StateT.run_bind, StateT.run_get, pure_bind]
  rw [if_pos (by rw [hf]; rfl)]
  simp only [StateT.run_bind, StateT.run_get, pure_bind]
  rw [hi, unwindIndent.go.eq_2]
  simp only [StateT.run_bind, StateT.run_get, pure_bind, gt_iff_lt]
  rw [if_pos hd]
  simp only [StateT.run_bind, StateT.run_set, pure_bind, addToken, StateT.run_modify, hi]
  rfl

theorem fetchStreamEnd_closing {s : Scanner} (hf : s.flowLevel = 0) (hi : s.indents = [-1])
    (hd : -1 < s.indent) (hk : s.simpleKeys = []) :
    fetchStreamEnd.run s = pure ((), { s with
      indent := -1, indents := [], allowSimpleKey := false, simpleKeys := [], done := true,
      tokens := s.tokens ++ [Token.mk .blockEnd s.mark s.mark, Token.mk .streamEnd s.mark s.mark] }) := by
  unfold fetchStreamEnd
  rw [run_bind_of_ok (unwindIndent_last hf hi hd), run_bind_of_ok (removeSimpleKey_none _)]
  · simp only [StateT.run_bind, StateT.run_modify, run_getMark, pure_bind, addToken,
      List.append_assoc, List.singleton_append]
    rfl
  · exact hk

/-! ## When the scanner looks further -/

theorem needMoreTokens_done {s : Scanner} (hd : s.done = true) :
    needMoreTokens.run s = pure (false, s) := by
  unfold needMoreTokens
  simp only [StateT.run_bind, StateT.run_get, pure_bind, hd, if_true]
  rfl

theorem needMoreTokens_empty {s : Scanner} (hd : s.done = false) (ht : s.tokens = []) :
    needMoreTokens.run s = pure (true, s) := by
  unfold needMoreTokens
  simp only [StateT.run_bind, StateT.run_get, pure_bind, hd, ht, Bool.false_eq_true, if_false,
    List.isEmpty_nil, if_true]
  rfl

theorem needMoreTokens_queued {s : Scanner} (hd : s.done = false) (ht : s.tokens ≠ [])
    (hk : s.simpleKeys = []) : needMoreTokens.run s = pure (false, s) := by
  have he : s.tokens.isEmpty = false := List.isEmpty_eq_false_iff.mpr ht
  unfold needMoreTokens
  simp only [StateT.run_bind, StateT.run_get, pure_bind, hd, he, Bool.false_eq_true, if_false]
  rw [staleSimpleKeys_none hk]
  simp only [pure_bind, StateT.run_pure, Scanner.nextSimpleKey, hk, List.foldl_nil]
  rfl

theorem needMoreTokens_pending {s : Scanner} {l : Nat} {k : SimpleKey} (hd : s.done = false)
    (ht : s.tokens ≠ []) (hk : s.simpleKeys = [(l, k)]) (hs : k.stale s = false)
    (hn : k.tokenNumber = s.tokensTaken) : needMoreTokens.run s = pure (true, s) := by
  have he : s.tokens.isEmpty = false := List.isEmpty_eq_false_iff.mpr ht
  unfold needMoreTokens
  simp only [StateT.run_bind, StateT.run_get, pure_bind, hd, he, Bool.false_eq_true, if_false]
  rw [staleSimpleKeys_fresh hk hs]
  simp only [pure_bind, StateT.run_pure, Scanner.nextSimpleKey, hk, List.foldl_cons, List.foldl_nil,
    hn, beq_self_eq_true]

theorem settle_run (s : Scanner) : settle.run s = (settle.go (s.fuel + 1)).run s := rfl

theorem settle_go_stop {s : Scanner} (h : needMoreTokens.run s = pure (false, s)) (n : Nat) :
    (settle.go (n + 1)).run s = pure ((), s) := by
  rw [settle.go.eq_2, run_bind_of_ok h]
  rfl

theorem settle_go_fetch {s s' : Scanner} (h : needMoreTokens.run s = pure (true, s))
    (hf : fetchMoreTokens.run s = pure ((), s')) (n : Nat) :
    (settle.go (n + 1)).run s = (settle.go n).run s' := by
  rw [settle.go.eq_2, run_bind_of_ok h]
  exact run_bind_of_ok hf

theorem settle_of_stop {s : Scanner} (h : needMoreTokens.run s = pure (false, s)) :
    settle.run s = pure ((), s) := by
  rw [settle_run]
  exact settle_go_stop h _

/-! ## Fetching by the character ahead -/

theorem fetchMoreTokens_quote {s s₁ : Scanner} (h1 : scanToNextToken.run s = pure ((), s₁))
    (h2 : staleSimpleKeys.run s₁ = pure ((), s₁)) (h3 : s₁.indent ≤ s₁.column)
    (hc : s₁.peekAt 0 = '\'') : fetchMoreTokens.run s = (fetchQuoted false).run s₁ := by
  unfold fetchMoreTokens
  rw [run_bind_of_ok h1, run_bind_of_ok h2]
  simp only [StateT.run_bind, StateT.run_get, pure_bind]
  rw [unwindIndent_within h3]
  simp only [pure_bind, hc]
  simp

theorem fetchMoreTokens_value {s s₁ : Scanner} (h1 : scanToNextToken.run s = pure ((), s₁))
    (h2 : staleSimpleKeys.run s₁ = pure ((), s₁)) (h3 : s₁.indent ≤ s₁.column)
    (hc : s₁.peekAt 0 = ':') (hb : isBlankOrEnd (s₁.peekAt 1) = true) :
    fetchMoreTokens.run s = fetchValue.run s₁ := by
  unfold fetchMoreTokens
  rw [run_bind_of_ok h1, run_bind_of_ok h2]
  simp only [StateT.run_bind, StateT.run_get, pure_bind]
  rw [unwindIndent_within h3]
  simp only [pure_bind, hc, hb]
  simp

theorem fetchMoreTokens_end {s s₁ : Scanner} (h1 : scanToNextToken.run s = pure ((), s₁))
    (h2 : staleSimpleKeys.run s₁ = pure ((), s₁)) (h3 : s₁.indent ≤ s₁.column)
    (hc : s₁.peekAt 0 = '\x00') : fetchMoreTokens.run s = fetchStreamEnd.run s₁ := by
  unfold fetchMoreTokens
  rw [run_bind_of_ok h1, run_bind_of_ok h2]
  simp only [StateT.run_bind, StateT.run_get, pure_bind]
  rw [unwindIndent_within h3]
  simp only [pure_bind, hc]
  simp

/-! ## The tokens handed out -/

namespace Scanner

def Yields : Scanner → List TokenKind → Prop
  | _, [] => True
  | s, k :: ks => ∃ s' t rest, settle.run s = pure ((), s') ∧ settle.run s' = pure ((), s') ∧
      s'.tokens = t :: rest ∧ t.kind = k ∧
      Yields { s' with tokens := rest, tokensTaken := s'.tokensTaken + 1 } ks

theorem Yields.of_settle {s s' : Scanner} {ks : List TokenKind} (h : settle.run s = pure ((), s'))
    (h' : settle.run s' = pure ((), s')) (hy : s'.Yields ks) : s.Yields ks := by
  cases ks with
  | nil => trivial
  | cons k ks =>
    obtain ⟨s'', t, rest, hs, -, ht, hk, hy⟩ := hy
    obtain rfl : s' = s'' := by
      rw [h'] at hs
      cases hs
      rfl
    exact ⟨s', t, rest, h, h', ht, hk, hy⟩

theorem yields_queued {ks : List TokenKind} :
    ∀ (ts : List Token) (s : Scanner), s.tokens = ts → s.done = false → s.simpleKeys = [] →
      Yields { s with tokens := [], tokensTaken := s.tokensTaken + ts.length } ks →
      s.Yields (ts.map Token.kind ++ ks)
  | [], s, ht, _, _, hy => by
    cases s
    dsimp only at ht
    subst ht
    simpa using hy
  | t :: rest, s, ht, hd, hk, hy => by
    have hsettle : settle.run s = pure ((), s) :=
      settle_of_stop (needMoreTokens_queued hd (by rw [ht]; exact List.cons_ne_nil t rest) hk)
    have htaken : s.tokensTaken + 1 + rest.length = s.tokensTaken + (t :: rest).length := by
      simp only [List.length_cons]
      omega
    have hrest : Yields { s with tokens := rest, tokensTaken := s.tokensTaken + 1 }
        (rest.map Token.kind ++ ks) :=
      yields_queued rest _ rfl hd hk (by simpa only [htaken] using hy)
    exact ⟨s, t, rest, hsettle, hsettle, ht, rfl, hrest⟩

theorem yields_done : ∀ (ts : List Token) (s : Scanner), s.tokens = ts → s.done = true →
    s.Yields (ts.map Token.kind)
  | [], _, _, _ => trivial
  | t :: rest, s, ht, hd => by
    have hsettle : settle.run s = pure ((), s) := settle_of_stop (needMoreTokens_done hd)
    exact ⟨s, t, rest, hsettle, hsettle, ht, rfl, yields_done rest _ rfl hd⟩

/-- The scanner inside the block mapping, between two tokens: nothing is queued,
no simple key is allowed or pending, and the mapping, at column 0, is the only
open block collection. -/
structure InMapping (s : Scanner) : Prop where
  flow : s.flowLevel = 0
  indent : s.indent = 0
  indents : s.indents = [-1]
  keys : s.simpleKeys = []
  running : s.done = false
  empty : s.tokens = []
  closed : s.allowSimpleKey = false

theorem InMapping.yields_value {s : Scanner} (hs : s.InMapping) {v more : List Char}
    (h : s.Reads (' ' :: singleQuoted v ++ '\n' :: more)) (hv : ∀ c ∈ v, isBreakOrEnd c = false) :
    ∃ s' : Scanner, s'.InMapping ∧ s'.Reads ('\n' :: more) ∧
      ∀ ks, s'.Yields ks → s.Yields (.scalar (String.ofList v) false :: ks) := by
  have hr : s.advance.Reads (singleQuoted v ++ '\n' :: more) := Reads.advance h
  have hc : s.advance.peekAt 0 = '\'' := by
    rw [peekAt_of_reads hr]
    rfl
  obtain ⟨w, hw, hfetch⟩ : ∃ w, _ = w ∧ fetchMoreTokens.run s = pure ((), w) :=
    ⟨_, rfl, (fetchMoreTokens_quote (scanToNextToken_space h (by rfl))
      (staleSimpleKeys_none (by simp [hs.keys])) (by simp [hs.indent]) hc).trans
      (fetchQuoted_single (saveSimpleKey_off (by simp [hs.closed])) hr (by decide) hv)⟩
  have hwt' := congrArg Scanner.tokens hw
  simp only [advance_tokens, hs.empty, List.nil_append] at hwt'
  obtain ⟨t, hwt, ht⟩ : ∃ t : Token, w.tokens = [t] ∧ t.kind = .scalar (String.ofList v) false :=
    ⟨_, hwt'.symm, rfl⟩
  have hwd : w.done = false := by simp [← hw, hs.running]
  have hwk : w.simpleKeys = [] := by simp [← hw, hs.keys]
  have hready : settle.run w = pure ((), w) :=
    settle_of_stop (needMoreTokens_queued hwd (by simp [hwt]) hwk)
  have hsettle : settle.run s = pure ((), w) := by
    rw [settle_run, Scanner.fuel, settle_go_fetch (needMoreTokens_empty hs.running hs.empty) hfetch]
    exact settle_go_stop (needMoreTokens_queued hwd (by simp [hwt]) hwk) _
  refine ⟨{ w with tokens := [], tokensTaken := w.tokensTaken + 1 },
    ⟨?_, ?_, ?_, hwk, hwd, rfl, ?_⟩, ?_, fun ks hy => ?_⟩
  · simp [← hw, hs.flow]
  · simp [← hw, hs.indent]
  · simp [← hw, hs.indents]
  · simp [← hw]
  · exact Reads.of_eq (by simp [← hw]) (by simp [← hw]) (Reads.advanceBy hr)
  · apply Yields.of_settle hsettle hready
    have hq := yields_queued [t] w hwt hwd hwk hy
    simpa [ht] using hq

theorem singleQuoted_no_break {k : List Char} (hk : ∀ c ∈ k, isBreakOrEnd c = false) :
    ∀ c ∈ singleQuoted k, isBreak c = false := by
  have hbody : ∀ c ∈ quoteBody k, isBreak c = false := by
    intro c hc
    rcases mem_quoteBody hc with rfl | hc
    · rfl
    · have := hk c hc
      simp only [isBreakOrEnd, Bool.or_eq_false_iff] at this
      exact this.2
  intro c hc
  simp only [singleQuoted, List.mem_cons, List.mem_append, List.not_mem_nil, or_false] at hc
  rcases hc with (rfl | hc) | rfl
  · rfl
  · exact hbody c hc
  · rfl

theorem settle_quoted_key {s u : Scanner} {k rest : List Char}
    (hneed : needMoreTokens.run s = pure (true, s)) (h1 : scanToNextToken.run s = pure ((), u))
    (hu : u.Reads (singleQuoted k ++ ':' :: ' ' :: rest))
    (hk : ∀ c ∈ k, isBreakOrEnd c = false) (hlen : (singleQuoted k).length ≤ 1024)
    (ha : u.allowSimpleKey = true) (hkeys : u.simpleKeys = []) (hf : u.flowLevel = 0)
    (hd : u.done = false) (ht : u.tokens = []) (hi : u.indent ≤ 0) :
    ∃ (w : Scanner) (K : SimpleKey) (t : Token),
      (∀ n s₃, fetchValue.run w = pure ((), s₃) → (settle.go (n + 2)).run s = (settle.go n).run s₃) ∧
      w.simpleKeys = [(0, K)] ∧ K.tokenNumber = w.tokensTaken ∧ K.mark.column = u.column ∧
      w.tokens = [t] ∧ t.kind = .scalar (String.ofList k) false ∧ w.Reads (':' :: ' ' :: rest) ∧
      w.flowLevel = 0 ∧ w.indent = u.indent ∧ w.indents = u.indents ∧ w.done = false := by
  have hc : u.peekAt 0 = '\'' := by
    rw [peekAt_of_reads hu]
    rfl
  have h3 : u.indent ≤ u.column := by omega
  obtain ⟨w, hw, hfetch⟩ : ∃ w, _ = w ∧ fetchMoreTokens.run s = pure ((), w) :=
    ⟨_, rfl, (fetchMoreTokens_quote h1 (staleSimpleKeys_none hkeys) h3 hc).trans
      (fetchQuoted_single (saveSimpleKey_on ha hkeys) hu (by decide) hk)⟩
  have hwt' := congrArg Scanner.tokens hw
  simp only [ht, List.nil_append] at hwt'
  obtain ⟨t, hwt, htk⟩ : ∃ t : Token, w.tokens = [t] ∧ t.kind = .scalar (String.ofList k) false :=
    ⟨_, hwt'.symm, rfl⟩
  have hwk : w.simpleKeys = [(0, ⟨u.tokensTaken + u.tokens.length,
      u.flowLevel == 0 && u.indent == (u.column : Int), u.mark⟩)] := by
    simp [← hw, hf]
  have hwd : w.done = false := by simp [← hw, hd]
  have hwr : w.Reads (':' :: ' ' :: rest) :=
    Reads.of_eq (by simp [← hw]) (by simp [← hw]) (Reads.advanceBy hu)
  have hline : w.line = u.line := by
    rw [← hw]
    exact advanceBy_line (s := { u with simpleKeys := _, allowSimpleKey := false }) hu
      (singleQuoted_no_break hk)
  have hptr : w.ptr = u.ptr + (singleQuoted k).length := by simp [← hw]
  have hstale : SimpleKey.stale w ⟨u.tokensTaken + u.tokens.length,
      u.flowLevel == 0 && u.indent == (u.column : Int), u.mark⟩ = false := by
    simp only [SimpleKey.stale, Scanner.mark, hline, hptr, bne_self_eq_false, Bool.false_or,
      decide_eq_false_iff_not, Nat.not_lt]
    omega
  have hnum : u.tokensTaken + u.tokens.length = w.tokensTaken := by simp [← hw, ht]
  have hneed₂ : needMoreTokens.run w = pure (true, w) :=
    needMoreTokens_pending hwd (by simp [hwt]) hwk hstale hnum
  have hvalue : fetchMoreTokens.run w = fetchValue.run w := by
    apply fetchMoreTokens_value (scanToNextToken_here hwr (by rfl)) (staleSimpleKeys_fresh hwk hstale)
    · have hwi : w.indent = u.indent := by simp [← hw]
      omega
    · rw [peekAt_of_reads hwr]
      rfl
    · rw [peekAt_of_reads hwr]
      rfl
  refine ⟨w, _, t, fun n s₃ h₃ => ?_, hwk, hnum, rfl, hwt, htk, hwr, by simp [← hw, hf],
    by simp [← hw], by simp [← hw], hwd⟩
  rw [settle_go_fetch hneed hfetch, settle_go_fetch hneed₂ (hvalue.trans h₃)]

theorem InMapping.yields_key {s : Scanner} (hs : s.InMapping) {k rest : List Char}
    (h : s.Reads ('\n' :: singleQuoted k ++ ':' :: ' ' :: rest))
    (hk : ∀ c ∈ k, isBreakOrEnd c = false) (hlen : (singleQuoted k).length ≤ 1024) :
    ∃ s' : Scanner, s'.InMapping ∧ s'.Reads (' ' :: rest) ∧
      ∀ ks, s'.Yields ks → s.Yields (.key :: .scalar (String.ofList k) false :: .value :: ks) := by
  have hu : ({ s.advance with allowSimpleKey := true } : Scanner).Reads
      (singleQuoted k ++ ':' :: ' ' :: rest) := Reads.advance h
  have hcol : s.advance.column = 0 := by rw [advance_newline h]
  obtain ⟨w, K, t, hgo, hwk, hnum, hkc, hwt, htk, hwr, hwf, hwi, hwis, hwd⟩ :=
    settle_quoted_key (needMoreTokens_empty hs.running hs.empty)
      (scanToNextToken_newline h hs.flow (by rfl)) hu hk hlen rfl (by simp [hs.keys])
      (by simp [hs.flow]) (by simp [hs.running]) (by simp [hs.empty]) (by simp [hs.indent])
  have hentry : ¬w.indent < K.mark.column := by
    rw [hwi, hkc]
    simp [hs.indent, hcol]
  obtain ⟨x, hx, hfv⟩ : ∃ x, _ = x ∧ fetchValue.run w = pure ((), x) :=
    ⟨_, rfl, fetchValue_entry hwk hwf hnum hentry⟩
  have hxt' := congrArg Scanner.tokens hx
  simp only [hwt, List.cons_append, List.nil_append] at hxt'
  obtain ⟨a, b, hxt, ha, hb⟩ : ∃ a b : Token, x.tokens = [a, t, b] ∧ a.kind = .key ∧ b.kind = .value :=
    ⟨_, _, hxt'.symm, rfl, rfl⟩
  have hxd : x.done = false := by simp [← hx, hwd]
  have hxk : x.simpleKeys = [] := by simp [← hx]
  have hready : settle.run x = pure ((), x) :=
    settle_of_stop (needMoreTokens_queued hxd (by simp [hxt]) hxk)
  have hsize := size_of_reads h
  have hsettle : settle.run s = pure ((), x) := by
    obtain ⟨n, hn⟩ : ∃ n, s.fuel + 1 = n + 1 + 2 := ⟨s.buf.size - 1, by simp [Scanner.fuel]; omega⟩
    rw [settle_run, hn, hgo _ x hfv]
    exact settle_go_stop (needMoreTokens_queued hxd (by simp [hxt]) hxk) n
  refine ⟨{ x with tokens := [], tokensTaken := x.tokensTaken + 3 },
    ⟨?_, ?_, ?_, hxk, hxd, rfl, ?_⟩, ?_, fun ks hy => ?_⟩
  · simp [← hx, hwf]
  · simp [← hx, hwi, hs.indent]
  · simp [← hx, hwis, hs.indents]
  · simp [← hx]
  · exact Reads.of_eq (by simp [← hx]) (by simp [← hx]) (Reads.advance hwr)
  · apply Yields.of_settle hsettle hready
    have hq := yields_queued [a, t, b] x hxt hxd hxk hy
    simpa [ha, htk, hb] using hq

theorem yields_first_key {s : Scanner} {k rest : List Char}
    (h : s.Reads (singleQuoted k ++ ':' :: ' ' :: rest))
    (hk : ∀ c ∈ k, isBreakOrEnd c = false) (hlen : (singleQuoted k).length ≤ 1024)
    (hf : s.flowLevel = 0) (hi : s.indent = -1) (his : s.indents = []) (hkeys : s.simpleKeys = [])
    (hd : s.done = false) (ht : s.tokens = []) (ha : s.allowSimpleKey = true) (hcol : s.column = 0) :
    ∃ s' : Scanner, s'.InMapping ∧ s'.Reads (' ' :: rest) ∧
      ∀ ks, s'.Yields ks →
        s.Yields (.blockMappingStart :: .key :: .scalar (String.ofList k) false :: .value :: ks) := by
  obtain ⟨w, K, t, hgo, hwk, hnum, hkc, hwt, htk, hwr, hwf, hwi, hwis, hwd⟩ :=
    settle_quoted_key (needMoreTokens_empty hd ht) (scanToNextToken_here h (by rfl)) h hk hlen ha hkeys
      hf hd ht (by simp [hi])
  have hopen : w.indent < K.mark.column := by
    rw [hwi, hkc, hi]
    omega
  obtain ⟨x, hx, hfv⟩ : ∃ x, _ = x ∧ fetchValue.run w = pure ((), x) :=
    ⟨_, rfl, fetchValue_opening hwk hwf hnum hopen⟩
  have hxt' := congrArg Scanner.tokens hx
  simp only [hwt, List.cons_append, List.nil_append] at hxt'
  obtain ⟨a, a', b, hxt, ha, ha', hb⟩ : ∃ a a' b : Token, x.tokens = [a, a', t, b] ∧
      a.kind = .blockMappingStart ∧ a'.kind = .key ∧ b.kind = .value :=
    ⟨_, _, _, hxt'.symm, rfl, rfl, rfl⟩
  have hxd : x.done = false := by simp [← hx, hwd]
  have hxk : x.simpleKeys = [] := by simp [← hx]
  have hready : settle.run x = pure ((), x) :=
    settle_of_stop (needMoreTokens_queued hxd (by simp [hxt]) hxk)
  have hsize := size_of_reads h
  have hsettle : settle.run s = pure ((), x) := by
    obtain ⟨n, hn⟩ : ∃ n, s.fuel + 1 = n + 1 + 2 := ⟨s.buf.size - 1, by simp [Scanner.fuel]; omega⟩
    rw [settle_run, hn, hgo _ x hfv]
    exact settle_go_stop (needMoreTokens_queued hxd (by simp [hxt]) hxk) n
  refine ⟨{ x with tokens := [], tokensTaken := x.tokensTaken + 4 },
    ⟨?_, ?_, ?_, hxk, hxd, rfl, ?_⟩, ?_, fun ks hy => ?_⟩
  · simp [← hx, hwf]
  · simp [← hx, hkc, hcol]
  · simp [← hx, hwi, hwis, hi, his]
  · simp [← hx]
  · exact Reads.of_eq (by simp [← hx]) (by simp [← hx]) (Reads.advance hwr)
  · apply Yields.of_settle hsettle hready
    have hq := yields_queued [a, a', t, b] x hxt hxd hxk hy
    simpa [ha, ha', htk, hb] using hq

theorem InMapping.yields_end {s : Scanner} (hs : s.InMapping) (h : s.Reads ['\n']) :
    s.Yields [.blockEnd, .streamEnd] := by
  have hu : ({ s.advance with allowSimpleKey := true } : Scanner).Reads [] := Reads.advance h
  obtain ⟨x, hx, hfetch⟩ : ∃ x, _ = x ∧ fetchMoreTokens.run s = pure ((), x) :=
    ⟨_, rfl, (fetchMoreTokens_end (scanToNextToken_newline h hs.flow (by rfl))
      (staleSimpleKeys_none (by simp [hs.keys])) (by simp [hs.indent]) (peekAt_end hu 0)).trans
      (fetchStreamEnd_closing (by simp [hs.flow]) (by simp [hs.indents]) (by simp [hs.indent])
        (by simp [hs.keys]))⟩
  have hxt' := congrArg Scanner.tokens hx
  simp only [advance_tokens, hs.empty, List.nil_append] at hxt'
  obtain ⟨a, b, hxt, ha, hb⟩ : ∃ a b : Token, x.tokens = [a, b] ∧ a.kind = .blockEnd ∧
      b.kind = .streamEnd :=
    ⟨_, _, hxt'.symm, rfl, rfl⟩
  have hxd : x.done = true := by simp [← hx]
  have hready : settle.run x = pure ((), x) := settle_of_stop (needMoreTokens_done hxd)
  have hsettle : settle.run s = pure ((), x) := by
    rw [settle_run, Scanner.fuel, settle_go_fetch (needMoreTokens_empty hs.running hs.empty) hfetch]
    exact settle_go_stop (needMoreTokens_done hxd) _
  have hq := yields_done [a, b] x hxt hxd
  rw [List.map_cons, List.map_cons, List.map_nil, ha, hb] at hq
  exact Yields.of_settle hsettle hready hq

end Scanner

/-! ## The tokens of a rendered mapping -/

def OneLine (p : String × String) : Prop :=
  (∀ c ∈ p.1.toList, isBreakOrEnd c = false) ∧ (∀ c ∈ p.2.toList, isBreakOrEnd c = false) ∧
    (singleQuoted p.1.toList).length ≤ 1024

def pairTokens (p : String × String) : List TokenKind :=
  [.key, .scalar p.1 false, .value, .scalar p.2 false]

def mappingTokens (ps : List (String × String)) : List TokenKind :=
  .streamStart :: .blockMappingStart :: ps.flatMap pairTokens ++ [.blockEnd, .streamEnd]

theorem pairLine_eq (p : String × String) (more : List Char) :
    pairLine p ++ more =
      singleQuoted p.1.toList ++ ':' :: ' ' :: (singleQuoted p.2.toList ++ '\n' :: more) := by
  simp [pairLine]

theorem Scanner.InMapping.yields_lines : ∀ (ps : List (String × String)) (s : Scanner), s.InMapping →
    s.Reads ('\n' :: ps.flatMap pairLine) → (∀ p ∈ ps, OneLine p) →
    s.Yields (ps.flatMap pairTokens ++ [.blockEnd, .streamEnd])
  | [], s, hs, h, _ => hs.yields_end h
  | p :: ps, s, hs, h, hp => by
    obtain ⟨hk, hv, hlen⟩ := hp p List.mem_cons_self
    rw [List.flatMap_cons, pairLine_eq] at h
    obtain ⟨s₁, hs₁, h₁, hy₁⟩ := hs.yields_key h hk hlen
    obtain ⟨s₂, hs₂, h₂, hy₂⟩ := hs₁.yields_value h₁ hv
    have hrest := yields_lines ps s₂ hs₂ h₂ fun q hq => hp q (List.mem_cons_of_mem p hq)
    have hy := hy₁ _ (hy₂ _ hrest)
    simpa [pairTokens, String.ofList_toList] using hy

theorem init_reads {text : String} {cs : List Char} (h : text.toList = cs) :
    (Scanner.init text).Reads cs := by
  show (text.toList ++ ['\x00']).toArray.toList.drop 0 = _
  simp [h]

theorem yields_rendered {ps : List (String × String)} (hne : ps ≠ []) (hp : ∀ p ∈ ps, OneLine p) :
    (Scanner.init (renderPairs ps)).Yields (mappingTokens ps) := by
  obtain ⟨q, qs, rfl⟩ := List.exists_cons_of_ne_nil hne
  obtain ⟨hk, hv, hlen⟩ := hp q List.mem_cons_self
  have hr : (Scanner.init (renderPairs (q :: qs))).Reads (singleQuoted q.1.toList ++ ':' :: ' ' ::
      (singleQuoted q.2.toList ++ '\n' :: qs.flatMap pairLine)) := by
    apply init_reads
    rw [renderPairs, String.toList_ofList, List.flatMap_cons, pairLine_eq]
  have h : ({ Scanner.init (renderPairs (q :: qs)) with tokens := [], tokensTaken := 1 } : Scanner).Reads
      (singleQuoted q.1.toList ++ ':' :: ' ' :: (singleQuoted q.2.toList ++ '\n' :: qs.flatMap pairLine)) :=
    Reads.of_eq rfl rfl hr
  obtain ⟨s₁, hs₁, h₁, hy₁⟩ := yields_first_key h hk hlen rfl rfl rfl rfl rfl rfl rfl rfl
  obtain ⟨s₂, hs₂, h₂, hy₂⟩ := hs₁.yields_value h₁ hv
  have hrest := InMapping.yields_lines qs s₂ hs₂ h₂ fun p hp' => hp p (List.mem_cons_of_mem q hp')
  have hy := hy₁ _ (hy₂ _ hrest)
  have hq := yields_queued [⟨.streamStart, ⟨0, 0, 0⟩, ⟨0, 0, 0⟩⟩] (Scanner.init (renderPairs (q :: qs)))
    rfl rfl rfl hy
  simpa [mappingTokens, pairTokens, String.ofList_toList] using hq

end Yaml
end SpireEnroll
