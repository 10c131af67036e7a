import SpireEnroll.Cluster.Context

/-!
# Reading quoted text with the YAML scanner

A block mapping whose keys and values are all written in single quotes is the
simplest document a writer of cluster configurations produces: each line is
`'key': 'value'`, a quote inside either side written twice. This module states
that writing and follows the scanner over it.

The scanner is seen through what it still has to read: `Scanner.Reads s cs` says
that after its position come the characters `cs` and then the end marker. Every
reading step then becomes a statement about lists: a span is a `takeWhile`, the
characters ahead a `take`, and stepping over characters a `drop`. The main result
is `scanQuoted_single`: a single-quoted scalar is read back as the text that was
quoted, and the scanner stops right after its closing quote.
-/

namespace SpireEnroll
namespace Yaml

/-! ## Writing quoted pairs -/

def quoteBody (cs : List Char) : List Char :=
  cs.flatMap fun c => if c = '\'' then ['\'', '\''] else [c]

def singleQuoted (cs : List Char) : List Char :=
  '\'' :: quoteBody cs ++ ['\'']

def pairLine (p : String × String) : List Char :=
  singleQuoted p.1.toList ++ ':' :: ' ' :: singleQuoted p.2.toList ++ ['\n']

/-- A block mapping with one line per pair, both sides single-quoted. -/
def renderPairs (ps : List (String × String)) : String :=
  String.ofList (ps.flatMap pairLine)

@[simp] theorem quoteBody_nil : quoteBody [] = [] := rfl

theorem quoteBody_cons (c : Char) (cs : List Char) :
    quoteBody (c :: cs) = (if c = '\'' then ['\'', '\''] else [c]) ++ quoteBody cs := rfl

theorem quoteBody_append (xs ys : List Char) :
    quoteBody (xs ++ ys) = quoteBody xs ++ quoteBody ys := by
  simp [quoteBody]

theorem quoteBody_of_ne {cs : List Char} (h : ∀ c ∈ cs, c ≠ '\'') : quoteBody cs = cs := by
  induction cs with
  | nil => rfl
  | cons c cs ih =>
    rw [quoteBody_cons, if_neg (h c List.mem_cons_self),
      ih fun x hx => h x (List.mem_cons_of_mem _ hx)]
    rfl

theorem length_le_quoteBody (cs : List Char) : cs.length ≤ (quoteBody cs).length := by
  induction cs with
  | nil => exact Nat.le_refl 0
  | cons c cs ih =>
    rw [quoteBody_cons, List.length_append, List.length_cons]
    split <;> simp <;> omega

theorem mem_quoteBody {c : Char} {cs : List Char} (h : c ∈ quoteBody cs) :
    c = '\'' ∨ c ∈ cs := by
  induction cs with
  | nil => simp at h
  | cons d cs ih =>
    rw [quoteBody_cons, List.mem_append] at h
    rcases h with h | h
    · split at h <;> simp_all
    · rcases ih h with h | h
      · exact Or.inl h
      · exact Or.inr (List.mem_cons_of_mem _ h)

/-! ## Running the loader's computations -/

section Run

variable {σ α β : Type}

theorem run_bind_of_ok {m : StateT σ (Except YamlError) α}
    {f : α → StateT σ (Except YamlError) β} {s s' : σ} {a : α}
    (h : m.run s = pure (a, s')) : (m >>= f).run s = (f a).run s' := by
  rw [StateT.run_bind, h]
  rfl

end Run

theorem run_forward (n : Nat) (s : Scanner) : (forward n).run s = pure ((), s.advanceBy n) := rfl

theorem run_peek (i : Nat) (s : Scanner) : (peek i).run s = pure (s.peekAt i, s) := rfl

theorem run_getMark (s : Scanner) : getMark.run s = pure (s.mark, s) := rfl

namespace Scanner

/-! ## What the scanner reads -/

def Reads (s : Scanner) (cs : List Char) : Prop :=
  s.buf.toList.drop s.ptr = cs ++ ['\x00']

theorem size_of_reads {s : Scanner} {cs : List Char} (h : s.Reads cs) :
    s.buf.size = s.ptr + cs.length + 1 := by
  have hlen := congrArg List.length h
  simp only [List.length_drop, Array.length_toList, List.length_append, List.length_singleton] at hlen
  omega

theorem peekAt_of_reads {s : Scanner} {cs : List Char} (h : s.Reads cs) (i : Nat) :
    s.peekAt i = (cs ++ ['\x00']).getD i '\x00' := by
  have h' : s.buf.toList.drop s.ptr = cs ++ ['\x00'] := h
  rw [peekAt, charAt, Array.getD_eq_getD_getElem?, List.getD_eq_getElem?_getD, ← h',
    List.getElem?_drop, Array.getElem?_toList]

theorem peekAt_zero {s : Scanner} {c : Char} {cs : List Char} (h : s.Reads (c :: cs)) :
    s.peekAt 0 = c := by
  rw [peekAt_of_reads h]
  rfl

theorem peekAt_one {s : Scanner} {c d : Char} {cs : List Char} (h : s.Reads (c :: d :: cs)) :
    s.peekAt 1 = d := by
  rw [peekAt_of_reads h]
  rfl

theorem peekAt_end {s : Scanner} (h : s.Reads []) (i : Nat) : s.peekAt i = '\x00' := by
  rw [peekAt_of_reads h]
  cases i <;> rfl

/-! ## Stepping over characters -/

theorem advance_eq (s : Scanner) :
    s.advance = { s with ptr := s.ptr + 1, line := s.advance.line, column := s.advance.column } := by
  unfold advance
  dsimp only
  split
  · rfl
  · split <;> rfl

@[simp] theorem advance_buf (s : Scanner) : s.advance.buf = s.buf := by rw [advance_eq]
@[simp] theorem advance_ptr (s : Scanner) : s.advance.ptr = s.ptr + 1 := by rw [advance_eq]
@[simp] theorem advance_done (s : Scanner) : s.advance.done = s.done := by rw [advance_eq]
@[simp] theorem advance_flowLevel (s : Scanner) : s.advance.flowLevel = s.flowLevel := by
  rw [advance_eq]
@[simp] theorem advance_tokens (s : Scanner) : s.advance.tokens = s.tokens := by rw [advance_eq]
@[simp] theorem advance_tokensTaken (s : Scanner) : s.advance.tokensTaken = s.tokensTaken := by
  rw [advance_eq]
@[simp] theorem advance_indent (s : Scanner) : s.advance.indent = s.indent := by rw [advance_eq]
@[simp] theorem advance_indents (s : Scanner) : s.advance.indents = s.indents := by rw [advance_eq]
@[simp] theorem advance_allowSimpleKey (s : Scanner) :
    s.advance.allowSimpleKey = s.allowSimpleKey := by
  rw [advance_eq]
@[simp] theorem advance_simpleKeys (s : Scanner) : s.advance.simpleKeys = s.simpleKeys := by
  rw [advance_eq]

theorem advanceBy_eq (s : Scanner) (n : Nat) :
    s.advanceBy n =
      { s with ptr := s.ptr + n, line := (s.advanceBy n).line, column := (s.advanceBy n).column } := by
  induction n generalizing s with
  | zero => rfl
  | succ n ih =>
    show s.advance.advanceBy n = _
    rw [ih s.advance]
    simp only [advance_buf, advance_ptr, advance_done, advance_flowLevel, advance_tokens,
      advance_tokensTaken, advance_indent, advance_indents, advance_allowSimpleKey,
      advance_simpleKeys, Nat.add_right_comm s.ptr 1 n]
    rfl

@[simp] theorem advanceBy_buf (s : Scanner) (n : Nat) : (s.advanceBy n).buf = s.buf := by
  rw [advanceBy_eq]
@[simp] theorem advanceBy_ptr (s : Scanner) (n : Nat) : (s.advanceBy n).ptr = s.ptr + n := by
  rw [advanceBy_eq]
@[simp] theorem advanceBy_done (s : Scanner) (n : Nat) : (s.advanceBy n).done = s.done := by
  rw [advanceBy_eq]
@[simp] theorem advanceBy_flowLevel (s : Scanner) (n : Nat) :
    (s.advanceBy n).flowLevel = s.flowLevel := by
  rw [advanceBy_eq]
@[simp] theorem advanceBy_tokens (s : Scanner) (n : Nat) : (s.advanceBy n).tokens = s.tokens := by
  rw [advanceBy_eq]
@[simp] theorem advanceBy_tokensTaken (s : Scanner) (n : Nat) :
    (s.advanceBy n).tokensTaken = s.tokensTaken := by
  rw [advanceBy_eq]
@[simp] theorem advanceBy_indent (s : Scanner) (n : Nat) : (s.advanceBy n).indent = s.indent := by
  rw [advanceBy_eq]
@[simp] theorem advanceBy_indents (s : Scanner) (n : Nat) :
    (s.advanceBy n).indents = s.indents := by
  rw [advanceBy_eq]
@[simp] theorem advanceBy_allowSimpleKey (s : Scanner) (n : Nat) :
    (s.advanceBy n).allowSimpleKey = s.allowSimpleKey := by
  rw [advanceBy_eq]
@[simp] theorem advanceBy_simpleKeys (s : Scanner) (n : Nat) :
    (s.advanceBy n).simpleKeys = s.simpleKeys := by
  rw [advanceBy_eq]

@[simp] theorem advanceBy_zero (s : Scanner) : s.advanceBy 0 = s := rfl

theorem advanceBy_succ (s : Scanner) (n : Nat) : s.advanceBy (n + 1) = s.advance.advanceBy n := rfl

theorem advanceBy_add (s : Scanner) (m n : Nat) :
    s.advanceBy (m + n) = (s.advanceBy m).advanceBy n := by
  induction m generalizing s with
  | zero => rw [Nat.zero_add]; rfl
  | succ m ih => rw [Nat.add_right_comm, advanceBy_succ, advanceBy_succ, ih]

theorem Reads.advance {s : Scanner} {c : Char} {cs : List Char} (h : s.Reads (c :: cs)) :
    s.advance.Reads cs := by
  have h' : s.buf.toList.drop s.ptr = (c :: cs) ++ ['\x00'] := h
  show s.advance.buf.toList.drop s.advance.ptr = cs ++ ['\x00']
  rw [advance_buf, advance_ptr, ← List.drop_drop, h']
  rfl

theorem Reads.advanceBy {s : Scanner} {xs ys : List Char} (h : s.Reads (xs ++ ys)) :
    (s.advanceBy xs.length).Reads ys := by
  induction xs generalizing s with
  | nil => exact h
  | cons x xs ih => exact ih (Reads.advance h)

theorem advance_line {s : Scanner} {c : Char} {cs : List Char} (h : s.Reads (c :: cs))
    (hc : isBreak c = false) : s.advance.line = s.line := by
  unfold advance
  dsimp only
  rw [peekAt_zero h]
  simp only [isBreak, Bool.or_eq_false_iff, beq_eq_false_iff_ne] at hc
  obtain ⟨⟨⟨⟨hr, hn⟩, h85⟩, h28⟩, h29⟩ := hc
  rw [if_neg (by simp [hr, hn, h85, h28, h29])]
  split <;> rfl

theorem advanceBy_line {s : Scanner} {xs ys : List Char} (h : s.Reads (xs ++ ys))
    (hx : ∀ x ∈ xs, isBreak x = false) : (s.advanceBy xs.length).line = s.line := by
  induction xs generalizing s with
  | nil => rfl
  | cons x xs ih =>
    rw [List.length_cons, advanceBy_succ,
      ih (Reads.advance h) fun y hy => hx y (List.mem_cons_of_mem _ hy),
      advance_line h (hx x List.mem_cons_self)]

theorem advance_newline {s : Scanner} {cs : List Char} (h : s.Reads ('\n' :: cs)) :
    s.advance = { s with ptr := s.ptr + 1, line := s.line + 1, column := 0 } := by
  unfold advance
  dsimp only
  rw [peekAt_zero h]
  rfl

/-! ## Spans and the characters ahead -/

theorem span_of_reads {s : Scanner} {cs : List Char} {p : Char → Bool} (h : s.Reads cs)
    (hend : p '\x00' = false) :
    ∀ i, i ≤ cs.length → s.span p i = i + ((cs.drop i).takeWhile p).length := by
  have hsize := size_of_reads h
  intro i
  induction i using Scanner.span.induct s p with
  | case1 i hlt hp ih =>
    intro hi
    rw [Scanner.span, dif_pos hlt, if_pos hp]
    have hi' : i < cs.length := by
      rcases Nat.lt_or_eq_of_le hi with hi' | rfl
      · exact hi'
      · rw [peekAt_of_reads h, List.getD_eq_getElem?_getD, List.getElem?_append_right (Nat.le_refl _),
          Nat.sub_self] at hp
        simp [hend] at hp
    rw [ih hi', List.drop_eq_getElem_cons hi', List.takeWhile_cons]
    have hpi : p cs[i] = true := by
      rw [peekAt_of_reads h, List.getD_eq_getElem?_getD, List.getElem?_append_left hi'] at hp
      simpa [List.getElem?_eq_getElem hi'] using hp
    rw [if_pos hpi, List.length_cons]
    omega
  | case2 i hlt hp =>
    intro hi
    rw [Scanner.span, dif_pos hlt, if_neg hp]
    rcases Nat.lt_or_eq_of_le hi with hi' | rfl
    · rw [List.drop_eq_getElem_cons hi', List.takeWhile_cons]
      have hpi : ¬p cs[i] = true := by
        rw [peekAt_of_reads h, List.getD_eq_getElem?_getD, List.getElem?_append_left hi'] at hp
        simpa [List.getElem?_eq_getElem hi'] using hp
      rw [if_neg hpi]
      rfl
    · rw [List.drop_length]
      rfl
  | case3 i hge =>
    intro hi
    omega

theorem span_zero {s : Scanner} {cs : List Char} {p : Char → Bool} (h : s.Reads cs)
    (hend : p '\x00' = false) : s.span p 0 = (cs.takeWhile p).length := by
  rw [span_of_reads h hend 0 (Nat.zero_le _), Nat.zero_add, List.drop_zero]

theorem ahead_of_reads {s : Scanner} {cs : List Char} (h : s.Reads cs) {n : Nat}
    (hn : n ≤ cs.length) : s.ahead n = String.ofList (cs.take n) := by
  have h' : s.buf.toList.drop s.ptr = cs ++ ['\x00'] := h
  rw [ahead, Array.toList_extract, List.extract_eq_take_drop, h', Nat.add_sub_cancel_left,
    List.take_append_of_le_length hn]

end Scanner

/-! ## Single-quoted scalars -/

open Scanner

def quotedRun (c : Char) : Bool :=
  !(c == '\'' || c == '"' || c == '\\' || isBlankOrEnd c)

def quotedBlank (c : Char) : Bool :=
  c == ' ' || c == '\t'

theorem quotedRun_eq :
    (fun c => !(c == '\'' || c == '"' || c == '\\' || isBlankOrEnd c)) = quotedRun := rfl

theorem quotedBlank_eq : (fun c => c == ' ' || c == '\t') = quotedBlank := rfl

theorem isBlankOrEnd_of_quotedBlank {c : Char} (h : quotedBlank c = true) :
    isBlankOrEnd c = true := by
  simp only [quotedBlank, Bool.or_eq_true, beq_iff_eq] at h
  rcases h with rfl | rfl <;> rfl

theorem quotedText_congr {double : Bool} {start : Mark} {f : Nat} {acc acc' : String}
    {s t : Scanner} (hs : s.advanceBy (s.span quotedRun 0) = t.advanceBy (t.span quotedRun 0))
    (ha : acc ++ s.ahead (s.span quotedRun 0) = acc' ++ t.ahead (t.span quotedRun 0)) :
    (quotedText double start (f + 1) acc).run s = (quotedText double start (f + 1) acc').run t := by
  rw [quotedText.eq_2, quotedText.eq_2]
  simp only [StateT.run_bind, StateT.run_get, pure_bind, run_forward, quotedRun_eq]
  rw [hs, ha]

theorem quotedText_plain {start : Mark} {f : Nat} {acc : String} {s : Scanner} {d : Char}
    {cs : List Char} (h : s.Reads (d :: cs)) (hd : quotedRun d = true) :
    (quotedText false start (f + 1) acc).run s =
      (quotedText false start (f + 1) (acc.push d)).run s.advance := by
  have hlen := (List.takeWhile_sublist quotedRun (l := cs)).length_le
  apply quotedText_congr
  · rw [span_zero h rfl, span_zero (Reads.advance h) rfl, List.takeWhile_cons, if_pos hd,
      List.length_cons, advanceBy_succ]
  · rw [span_zero h rfl, span_zero (Reads.advance h) rfl, List.takeWhile_cons, if_pos hd,
      List.length_cons, ahead_of_reads h (by simp; omega), ahead_of_reads (Reads.advance h) hlen,
      List.take_succ_cons, String.ofList_cons, String.push_eq_append, String.append_assoc]

theorem quotedText_stop {start : Mark} {f : Nat} {acc : String} {s : Scanner} {c : Char}
    {cs : List Char} (h : s.Reads (c :: cs))
    (hc : isBlankOrEnd c = true ∨ c = '\'' ∧ cs.head? ≠ some '\'') :
    (quotedText false start (f + 1) acc).run s = pure (acc, s) := by
  have hn : s.span quotedRun 0 = 0 := by
    rw [span_zero h rfl, List.takeWhile_cons]
    rcases hc with hc | ⟨rfl, -⟩
    · simp [quotedRun, hc]
    · rfl
  have hahead : s.ahead 0 = "" := by
    rw [ahead_of_reads h (Nat.zero_le _)]
    rfl
  have hnext : s.peekAt 1 = cs.head?.getD '\x00' := by
    rw [peekAt_of_reads h]
    cases cs <;> rfl
  -- neither a doubled quote, nor a character taken alone, nor an escape
  have hdoubled : (!false && c == '\'' && s.peekAt 1 == '\'') = false := by
    rw [hnext]
    rcases hc with hc | ⟨rfl, hne⟩
    · have hq : c ≠ '\'' := by rintro rfl; exact absurd hc (by decide)
      simp [hq]
    · cases cs with
      | nil => decide
      | cons d cs => simpa using hne
  have halone : (false && c == '\'' || !false && (c == '"' || c == '\\')) = false := by
    rcases hc with hc | ⟨rfl, -⟩
    · have h1 : c ≠ '"' := by rintro rfl; exact absurd hc (by decide)
      have h2 : c ≠ '\\' := by rintro rfl; exact absurd hc (by decide)
      simp [h1, h2]
    · decide
  rw [quotedText.eq_2]
  simp only [StateT.run_bind, StateT.run_get, pure_bind, run_forward, run_peek, quotedRun_eq, hn,
    advanceBy_zero, peekAt_zero h]
  rw [hdoubled, halone]
  simp only [Bool.false_eq_true, if_false, Bool.false_and, hahead, String.append_empty]
  rfl

theorem quotedText_quote {start : Mark} {f : Nat} {acc : String} {s : Scanner} {cs : List Char}
    (h : s.Reads ('\'' :: '\'' :: cs)) :
    (quotedText false start (f + 1) acc).run s =
      (quotedText false start f (acc ++ "'")).run (s.advanceBy 2) := by
  have hn : s.span quotedRun 0 = 0 := by
    rw [span_zero h rfl]
    rfl
  have hahead : s.ahead 0 = "" := by
    rw [ahead_of_reads h (Nat.zero_le _)]
    rfl
  rw [quotedText.eq_2]
  simp only [StateT.run_bind, StateT.run_get, pure_bind, run_forward, run_peek, quotedRun_eq, hn,
    advanceBy_zero, peekAt_zero h, peekAt_one h, hahead, String.append_empty]
  rfl

theorem quotedText_mark {start : Mark} {f : Nat} {acc : String} {s : Scanner} {d : Char}
    {cs : List Char} (h : s.Reads (d :: cs)) (hd : d = '"' ∨ d = '\\') :
    (quotedText false start (f + 1) acc).run s =
      (quotedText false start f (acc.push d)).run s.advance := by
  have hn : s.span quotedRun 0 = 0 := by
    rw [span_zero h rfl]
    rcases hd with rfl | rfl <;> rfl
  have hahead : s.ahead 0 = "" := by
    rw [ahead_of_reads h (Nat.zero_le _)]
    rfl
  have hq : (!false && d == '\'' && s.peekAt 1 == '\'') = false := by
    rcases hd with rfl | rfl <;> rfl
  have halone : (false && d == '\'' || !false && (d == '"' || d == '\\')) = true := by
    rcases hd with rfl | rfl <;> rfl
  rw [quotedText.eq_2]
  simp only [StateT.run_bind, StateT.run_get, pure_bind, run_forward, run_peek, quotedRun_eq, hn,
    advanceBy_zero, peekAt_zero h]
  rw [hq, halone]
  simp only [Bool.false_eq_true, if_false, if_true, StateT.run_bind, run_forward, pure_bind, hahead,
    String.append_empty]
  rfl

theorem quotedText_word {start : Mark} {c : Char} {cs : List Char}
    (hc : isBlankOrEnd c = true ∨ c = '\'' ∧ cs.head? ≠ some '\'') {w : List Char}
    (hw : ∀ y ∈ w, isBlankOrEnd y = false) :
    ∀ {s : Scanner} {acc : String} {fuel : Nat}, s.Reads (quoteBody w ++ c :: cs) →
      w.length < fuel →
      (quotedText false start fuel acc).run s =
        pure (acc ++ String.ofList w, s.advanceBy (quoteBody w).length) := by
  induction w with
  | nil =>
    intro s acc fuel h hfuel
    cases fuel with
    | zero => exact absurd hfuel (Nat.lt_irrefl 0)
    | succ f =>
      rw [quotedText_stop h hc]
      simp only [String.ofList_nil, String.append_empty, quoteBody_nil, List.length_nil,
        advanceBy_zero]
  | cons d w ih =>
    intro s acc fuel h hfuel
    cases fuel with
    | zero => exact absurd hfuel (Nat.not_lt_zero _)
    | succ f =>
      have hw' : ∀ y ∈ w, isBlankOrEnd y = false := fun y hy => hw y (List.mem_cons_of_mem _ hy)
      have hlen : w.length < f := by simp at hfuel; omega
      by_cases hq : d = '\''
      · subst hq
        rw [quoteBody_cons, if_pos rfl] at h ⊢
        have h2 : s.Reads ('\'' :: '\'' :: (quoteBody w ++ c :: cs)) := h
        have h3 : (s.advanceBy 2).Reads (quoteBody w ++ c :: cs) :=
          @Reads.advanceBy s ['\'', '\''] _ h2
        rw [quotedText_quote h2, ih hw' h3 hlen,
          List.length_append, advanceBy_add, String.ofList_cons, String.append_assoc]
        rfl
      · rw [quoteBody_cons, if_neg hq] at h ⊢
        have h1 : s.Reads (d :: (quoteBody w ++ c :: cs)) := h
        have hstep : (quotedText false start (f + 1) acc).run s =
            (quotedText false start f (acc.push d)).run s.advance ∨
            (quotedText false start (f + 1) acc).run s =
            (quotedText false start (f + 1) (acc.push d)).run s.advance := by
          by_cases hm : d = '"' ∨ d = '\\'
          · exact .inl (quotedText_mark h1 hm)
          · refine .inr (quotedText_plain h1 ?_)
            have hb := hw d List.mem_cons_self
            simp only [not_or] at hm
            simp [quotedRun, hq, hm.1, hm.2, hb]
        have hrest : ∀ fuel', w.length < fuel' →
            (quotedText false start fuel' (acc.push d)).run s.advance =
              pure (acc ++ String.ofList (d :: w), s.advanceBy ([d] ++ quoteBody w).length) := by
          intro fuel' hfuel'
          rw [ih hw' (Reads.advance h1) hfuel', String.ofList_cons, String.push_eq_append,
            String.append_assoc, List.length_append, List.length_singleton, Nat.add_comm,
            advanceBy_succ]
        rcases hstep with hstep | hstep
        · rw [hstep, hrest f hlen]
        · rw [hstep, hrest (f + 1) (Nat.lt_succ_of_lt hlen)]

theorem quotedSpaces_run {start : Mark} {fuel : Nat} {s : Scanner} {b : List Char} {e : Char}
    {cs : List Char} (h : s.Reads (b ++ e :: cs)) (hb : ∀ y ∈ b, quotedBlank y = true)
    (he : quotedBlank e = false) (hend : isBreakOrEnd e = false) :
    (quotedSpaces start fuel).run s = pure (String.ofList b, s.advanceBy b.length) := by
  have hn : s.span quotedBlank 0 = b.length := by
    rw [span_zero h rfl, List.takeWhile_append_of_pos hb, List.takeWhile_cons, if_neg (by simp [he]),
      List.append_nil]
  have hahead : s.ahead b.length = String.ofList b := by
    rw [ahead_of_reads h (by simp), List.take_left']
    rfl
  have hnext : (s.advanceBy b.length).peekAt 0 = e := peekAt_zero (Reads.advanceBy h)
  have h0 : (e == '\x00') = false := by
    simp only [isBreakOrEnd, Bool.or_eq_false_iff] at hend
    exact hend.1
  have hbreak : isBreak e = false := by
    simp only [isBreakOrEnd, Bool.or_eq_false_iff] at hend
    exact hend.2
  rw [quotedSpaces]
  simp only [StateT.run_bind, StateT.run_get, pure_bind, run_forward, run_peek, quotedBlank_eq, hn,
    hahead, hnext, h0, hbreak, Bool.false_eq_true, if_false]
  rfl

theorem blank_word_split (x : List Char) : ∃ b w rest,
    x = b ++ w ++ rest ∧ (∀ y ∈ b, quotedBlank y = true) ∧ (∀ y ∈ w, quotedBlank y = false) ∧
      (∀ d ∈ rest.head?, quotedBlank d = true) ∧ (∀ d ∈ (w ++ rest).head?, quotedBlank d = false) ∧
      (∀ d ∈ x.head?, quotedBlank d = true → b ≠ []) := by
  refine ⟨x.takeWhile quotedBlank, (x.dropWhile quotedBlank).takeWhile (fun c => !quotedBlank c),
    (x.dropWhile quotedBlank).dropWhile (fun c => !quotedBlank c), ?_, ?_, ?_, ?_, ?_, ?_⟩
  · rw [List.append_assoc, List.takeWhile_append_dropWhile, List.takeWhile_append_dropWhile]
  · exact fun y hy => List.all_eq_true.mp List.all_takeWhile y hy
  · intro y hy
    simpa using List.all_eq_true.mp List.all_takeWhile y hy
  · intro d hd
    have hnot := List.head?_dropWhile_not (fun c => !quotedBlank c) (x.dropWhile quotedBlank)
    rw [Option.mem_def] at hd
    rw [hd] at hnot
    simpa using hnot
  · intro d hd
    have hnot := List.head?_dropWhile_not quotedBlank x
    rw [List.takeWhile_append_dropWhile, Option.mem_def] at hd
    rw [hd] at hnot
    exact hnot
  · intro d hd hbd
    cases x with
    | nil => cases hd
    | cons y x =>
      rw [Option.mem_def, List.head?_cons, Option.some.injEq] at hd
      subst hd
      rw [List.takeWhile_cons_of_pos hbd]
      exact List.cons_ne_nil _ _

theorem after_blanks {r : List Char} (hr : ∀ d ∈ r.head?, quotedBlank d = false)
    (hend : ∀ y ∈ r, isBreakOrEnd y = false) (tail : List Char) :
    ∃ e rest, quoteBody r ++ '\'' :: tail = e :: rest ∧ quotedBlank e = false ∧
      isBreakOrEnd e = false := by
  cases r with
  | nil => exact ⟨'\'', tail, rfl, rfl, rfl⟩
  | cons d r =>
    rw [quoteBody_cons]
    by_cases hq : d = '\''
    · rw [if_pos hq]
      exact ⟨'\'', _, rfl, rfl, rfl⟩
    · rw [if_neg hq]
      exact ⟨d, _, rfl, hr d rfl, hend d List.mem_cons_self⟩

theorem after_word {rest : List Char} (hrest : ∀ d ∈ rest.head?, quotedBlank d = true) {c : Char}
    (hc : c ≠ '\'') (cs : List Char) :
    ∃ e tail, quoteBody rest ++ '\'' :: c :: cs = e :: tail ∧
      (isBlankOrEnd e = true ∨ e = '\'' ∧ tail.head? ≠ some '\'') := by
  cases rest with
  | nil => exact ⟨'\'', c :: cs, rfl, .inr ⟨rfl, by simpa using hc⟩⟩
  | cons z rest =>
    have hz := hrest z rfl
    have hzq : z ≠ '\'' := by rintro rfl; exact absurd hz (by decide)
    rw [quoteBody_cons, if_neg hzq]
    exact ⟨z, _, rfl, .inl (isBlankOrEnd_of_quotedBlank hz)⟩

theorem quotedRest_run {start : Mark} {c : Char} {cs : List Char} (hc : c ≠ '\'') :
    ∀ (n : Nat) {x : List Char}, x.length < n → (∀ y ∈ x, isBreakOrEnd y = false) →
      (∀ d ∈ x.head?, quotedBlank d = true) →
      ∀ {s : Scanner} {acc : String} {fuel : Nat}, s.Reads (quoteBody x ++ '\'' :: c :: cs) →
        x.length < fuel →
        (quotedRest false '\'' start fuel acc).run s =
          pure (acc ++ String.ofList x, s.advanceBy (quoteBody x).length) := by
  intro n
  -- induction on a bound of the length: each round reads at least one blank
  induction n with
  | zero => intro x hx; exact absurd hx (Nat.not_lt_zero _)
  | succ n ih =>
    intro x hx hend hhead s acc fuel h hfuel
    cases fuel with
    | zero => exact absurd hfuel (Nat.not_lt_zero _)
    | succ f =>
      obtain ⟨b, w, rest, hsplit, hb, hw, hrest, hwr, hbne⟩ := blank_word_split x
      cases x with
      | nil =>
        rw [quoteBody_nil, List.nil_append] at h
        rw [quotedRest.eq_2]
        simp only [StateT.run_bind, run_peek, pure_bind, peekAt_zero h, bne_self_eq_false,
          Bool.false_eq_true, if_false, String.ofList_nil, String.append_empty, quoteBody_nil,
          List.length_nil, advanceBy_zero]
        rfl
      | cons y x' =>
        have hb1 : b ≠ [] := hbne y rfl (hhead y rfl)
        have hmem : ∀ z, z ∈ w ++ rest → z ∈ y :: x' := by
          intro z hz
          rw [hsplit, List.append_assoc]
          exact List.mem_append_right b hz
        have hend' : ∀ z ∈ w ++ rest, isBreakOrEnd z = false := fun z hz => hend z (hmem z hz)
        have hbody : quoteBody (y :: x') = b ++ quoteBody w ++ quoteBody rest := by
          rw [hsplit, quoteBody_append, quoteBody_append,
            quoteBody_of_ne fun z hz hq => by rw [hq] at hz; exact absurd (hb _ hz) (by decide)]
        obtain ⟨e, tail, he, heb, hee⟩ := after_blanks hwr hend' (c :: cs)
        obtain ⟨y', b', rfl⟩ := List.exists_cons_of_ne_nil hb1
        rw [hbody] at h
        have h1 : s.Reads ((y' :: b') ++ e :: tail) := by
          rw [← he, quoteBody_append]
          simpa only [List.append_assoc] using h
        have hy' : (y' != '\'') = true := by
          have hyb := hb y' List.mem_cons_self
          have : y' ≠ '\'' := by rintro rfl; exact absurd hyb (by decide)
          simpa using this
        obtain ⟨e', tail', he', hstop⟩ := after_word hrest hc cs
        have h2 : (s.advanceBy (y' :: b').length).Reads (quoteBody w ++ e' :: tail') := by
          rw [← he']
          apply Reads.advanceBy
          simpa only [List.append_assoc] using h
        have h3 : ((s.advanceBy (y' :: b').length).advanceBy (quoteBody w).length).Reads
            (quoteBody rest ++ '\'' :: c :: cs) := by
          rw [he']
          exact Reads.advanceBy h2
        have hlen := congrArg List.length hsplit
        simp only [List.length_append, List.length_cons] at hlen hfuel hx
        have hword : ∀ z ∈ w, isBlankOrEnd z = false := by
          intro z hz
          have hzb := hw z hz
          have hze := hend' z (List.mem_append_left rest hz)
          simp only [isBlankOrEnd, hze, Bool.or_false]
          simpa [quotedBlank] using hzb
        rw [quotedRest.eq_2]
        simp only [StateT.run_bind, run_peek, pure_bind, peekAt_zero h1, hy', if_true]
        rw [quotedSpaces_run h1 hb heb hee]
        simp only [pure_bind]
        rw [quotedText_word hstop hword h2 (by omega)]
        simp only [pure_bind]
        rw [ih (by omega) (fun z hz => hend' z (List.mem_append_right w hz)) hrest h3 (by omega),
          hbody, hsplit]
        simp only [String.empty_append, String.ofList_append, String.append_assoc,
          List.length_append, advanceBy_add]

/-- A single-quoted scalar is read back as the text that was quoted, and the
scanner stops right after its closing quote. -/
theorem scanQuoted_single {s : Scanner} {x : List Char} {c : Char} {cs : List Char}
    (h : s.Reads (singleQuoted x ++ c :: cs)) (hc : c ≠ '\'')
    (hx : ∀ y ∈ x, isBreakOrEnd y = false) :
    (scanQuoted false).run s =
      pure (⟨.scalar (String.ofList x) false, s.mark, (s.advanceBy (singleQuoted x).length).mark⟩,
        s.advanceBy (singleQuoted x).length) := by
  -- the first word is read by the first round, the rest by the rounds after it
  obtain ⟨w, rest, hsplit, hw, hrest⟩ : ∃ w rest, x = w ++ rest ∧
      (∀ y ∈ w, quotedBlank y = false) ∧ (∀ d ∈ rest.head?, quotedBlank d = true) := by
    refine ⟨x.takeWhile (fun c => !quotedBlank c), x.dropWhile (fun c => !quotedBlank c),
      List.takeWhile_append_dropWhile.symm, fun y hy => ?_, fun d hd => ?_⟩
    · simpa using List.all_eq_true.mp List.all_takeWhile y hy
    · have hnot := List.head?_dropWhile_not (fun c => !quotedBlank c) x
      rw [Option.mem_def] at hd
      rw [hd] at hnot
      simpa using hnot
  have hword : ∀ z ∈ w, isBlankOrEnd z = false := by
    intro z hz
    have hzb := hw z hz
    have hze := hx z (by rw [hsplit]; exact List.mem_append_left rest hz)
    simp only [isBlankOrEnd, hze, Bool.or_false]
    simpa [quotedBlank] using hzb
  have hsize := size_of_reads h
  have hlen : x.length + 2 ≤ (singleQuoted x).length := by
    have := length_le_quoteBody x
    simp only [singleQuoted, List.length_cons, List.length_append]
    omega
  have h0 : s.peekAt 0 = '\'' := by
    rw [peekAt_of_reads h]
    rfl
  have h1 : (s.advanceBy 1).Reads (quoteBody x ++ '\'' :: c :: cs) := by
    apply @Reads.advanceBy s ['\'']
    simpa [singleQuoted] using h
  obtain ⟨e', tail', he', hstop⟩ := after_word hrest hc cs
  have h2 : (s.advanceBy 1).Reads (quoteBody w ++ e' :: tail') := by
    rw [← he', ← List.append_assoc, ← quoteBody_append, ← hsplit]
    exact h1
  have h3 : ((s.advanceBy 1).advanceBy (quoteBody w).length).Reads
      (quoteBody rest ++ '\'' :: c :: cs) := by
    rw [he']
    exact Reads.advanceBy h2
  have h4 : (((s.advanceBy 1).advanceBy (quoteBody w).length).advanceBy
      (quoteBody rest).length).Reads ('\'' :: c :: cs) := Reads.advanceBy h3
  have hsplit' := congrArg List.length hsplit
  simp only [List.length_append] at hsplit' hsize
  rw [scanQuoted]
  simp only [StateT.run_bind, run_getMark, run_peek, pure_bind, run_forward, StateT.run_get,
    Scanner.fuel, advanceBy_buf, h0]
  rw [quotedText_word hstop hword h2 (by omega)]
  simp only [pure_bind]
  rw [quotedRest_run hc (rest.length + 1) (Nat.lt_succ_self _)
    (fun z hz => hx z (by rw [hsplit]; exact List.mem_append_right w hz)) hrest h3 (by omega)]
  simp only [pure_bind, String.empty_append, ← String.ofList_append, ← hsplit, ← advanceBy_add]
  have htotal : 1 + (quoteBody w).length + (quoteBody rest).length + 1 = (singleQuoted x).length := by
    simp only [singleQuoted, hsplit, quoteBody_append, List.length_cons, List.length_append,
      List.length_nil]
    omega
  rw [htotal]
  rfl

end Yaml
end SpireEnroll
