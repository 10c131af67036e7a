import Mathlib.Data.List.TakeWhile
import SpireEnroll.Settings

/-!
# Integer numerals

The grammar of an integer setting: blanks at either end, an optional sign, then
decimal digits of any script with single underscores between them, at most 4300
digits. The blanks are the ASCII blanks and the blanks beyond ASCII; the ASCII
information separators, which count as blanks when a text is trimmed, do not.

The reader first writes every character in ASCII (a blank beyond ASCII as a space,
a digit as its ASCII digit) and then reads the ASCII text. Both steps keep what the
grammar looks at, so the main statement, that the reader accepts exactly the
numerals of the grammar with the value their digits denote, splits into a statement
about ASCII texts and one about that rewriting.
-/

namespace SpireEnroll
namespace Numeral

/-! ## The grammar -/

def isIntBlank (c : Char) : Bool :=
  Text.isAsciiBlank c || (127 ≤ c.toNat && Text.isBlank c)

def stripBlanks (cs : List Char) : List Char :=
  ((cs.dropWhile isIntBlank).reverse.dropWhile isIntBlank).reverse

/-- Decimal digits of any script with single underscores between them. -/
inductive DigitRun : List Char → Prop
  | last {c : Char} : (Text.digitValue? c).isSome → DigitRun [c]
  | digit {c : Char} {cs : List Char} : (Text.digitValue? c).isSome → DigitRun cs →
      DigitRun (c :: cs)
  | underscore {c : Char} {cs : List Char} : (Text.digitValue? c).isSome → DigitRun cs →
      DigitRun (c :: '_' :: cs)

def runDigits (cs : List Char) : List Nat :=
  cs.filterMap Text.digitValue?

def digitsValue (ds : List Nat) : Nat :=
  ds.foldl (fun n d => n * 10 + d) 0

/-- A text that reads as the integer `n`: stripped of its blanks, an optional sign
and a run of at most 4300 digits whose value, signed, is `n`. -/
def IntegerText (cs : List Char) (n : Int) : Prop :=
  ∃ sign body, stripBlanks cs = sign ++ body ∧ DigitRun body ∧ (runDigits body).length ≤ 4300 ∧
    ((sign = [] ∨ sign = ['+']) ∧ n = digitsValue (runDigits body) ∨
      sign = ['-'] ∧ n = -(digitsValue (runDigits body) : Int))

/-! ## Digits and blanks -/

theorem digitValue?_ascii : ∀ k, k < 127 →
    Text.digitValue? (Char.ofNat k) = if 48 ≤ k ∧ k ≤ 57 then some (k - 48) else none := by
  decide

theorem digitValue?_digit : ∀ d, d < 10 → Text.digitValue? (Char.ofNat (48 + d)) = some d := by
  decide

theorem digitValue?_blank : ∀ k ∈ Text.blankPoints, Text.digitValue? (Char.ofNat k) = none := by
  decide

theorem asciiDigit_facts : ∀ d, d < 10 → (Char.ofNat (48 + d)).toNat < 127 ∧
    Text.isAsciiBlank (Char.ofNat (48 + d)) = false ∧ Char.ofNat (48 + d) ≠ '_' ∧
    Char.ofNat (48 + d) ≠ '+' ∧ Char.ofNat (48 + d) ≠ '-' := by
  decide

theorem digitValue?_lt {c : Char} {d : Nat} (h : Text.digitValue? c = some d) : d < 10 := by
  unfold Text.digitValue? at h
  cases hz : Text.digitZeros.toList.find? (fun z => decide (z ≤ c.toNat ∧ c.toNat < z + 10)) with
  | none => simp only [hz, reduceCtorEq] at h
  | some z =>
      simp only [hz, Option.some.injEq] at h
      have hp := List.find?_some hz
      simp only [decide_eq_true_eq] at hp
      omega

theorem lt_of_isAsciiBlank {c : Char} (h : Text.isAsciiBlank c = true) : c.toNat < 127 := by
  simp only [Text.isAsciiBlank, Bool.or_eq_true, decide_eq_true_eq] at h
  rcases h with ((((rfl | rfl) | rfl) | rfl) | rfl) | rfl <;> decide

theorem digitValue?_of_isBlank {c : Char} (h : Text.isBlank c = true) :
    Text.digitValue? c = none := by
  have hc : Char.ofNat c.toNat = c := Char.ofNat_toNat c
  rw [← hc]
  exact digitValue?_blank _ (by simpa [Text.isBlank] using h)

theorem isDigit_eq {c : Char} (h : c.toNat < 127) : isDigit c = (Text.digitValue? c).isSome := by
  have hc : Char.ofNat c.toNat = c := Char.ofNat_toNat c
  rw [← hc, digitValue?_ascii _ h, hc]
  by_cases hd : 48 ≤ c.toNat ∧ c.toNat ≤ 57
  · simp only [hd, and_self, if_true, Option.isSome_some, isDigit, Bool.and_eq_true,
      decide_eq_true_eq]
    exact ⟨hd.1, hd.2⟩
  · simp only [hd, if_false, Option.isSome_none, isDigit, Bool.and_eq_false_iff,
      decide_eq_false_iff_not]
    by_cases h48 : 48 ≤ c.toNat
    · exact Or.inr fun h57 => hd ⟨h48, h57⟩
    · exact Or.inl h48

theorem asciiDigit?_eq {c : Char} (h : c.toNat < 127) :
    Json.asciiDigit? c = Text.digitValue? c := by
  have hc : Char.ofNat c.toNat = c := Char.ofNat_toNat c
  rw [← hc, digitValue?_ascii _ h, hc]
  unfold Json.asciiDigit?
  by_cases hd : 48 ≤ c.toNat ∧ c.toNat ≤ 57
  · rw [if_pos (show '0' ≤ c ∧ c ≤ '9' from hd), if_pos hd]
    rfl
  · rw [if_neg (show ¬('0' ≤ c ∧ c ≤ '9') from hd), if_neg hd]

/-! ## The ASCII form -/

def asciiOf (c : Char) : Char :=
  (asciiForm c).getD '?'

theorem asciiOf_of_lt {c : Char} (h : c.toNat < 127) : asciiOf c = c := by
  simp [asciiOf, asciiForm, h]

theorem asciiOf_of_ge {c : Char} (h : ¬ c.toNat < 127) :
    (Text.isBlank c = true ∧ asciiOf c = ' ') ∨
      (Text.isBlank c = false ∧ ∃ d, Text.digitValue? c = some d ∧
        asciiOf c = Char.ofNat (48 + d)) ∨
      (Text.isBlank c = false ∧ Text.digitValue? c = none ∧ asciiOf c = '?') := by
  cases hb : Text.isBlank c with
  | true => exact .inl ⟨rfl, by simp [asciiOf, asciiForm, h, hb]⟩
  | false =>
    cases hd : Text.digitValue? c with
    | some d => exact .inr (.inl ⟨rfl, d, rfl, by simp [asciiOf, asciiForm, h, hb, hd]⟩)
    | none => exact .inr (.inr ⟨rfl, rfl, by simp [asciiOf, asciiForm, h, hb, hd]⟩)

theorem asciiOf_lt (c : Char) : (asciiOf c).toNat < 127 := by
  by_cases h : c.toNat < 127
  · rw [asciiOf_of_lt h]
    exact h
  · rcases asciiOf_of_ge h with ⟨-, hc⟩ | ⟨-, d, hd, hc⟩ | ⟨-, -, hc⟩ <;> rw [hc]
    · decide
    · exact (asciiDigit_facts d (digitValue?_lt hd)).1
    · decide

theorem isIntBlank_of_lt {c : Char} (h : c.toNat < 127) : isIntBlank c = Text.isAsciiBlank c := by
  simp [isIntBlank, Nat.not_le.mpr h]

theorem isIntBlank_asciiOf (c : Char) : isIntBlank (asciiOf c) = isIntBlank c := by
  by_cases h : c.toNat < 127
  · rw [asciiOf_of_lt h]
  · have hge : 127 ≤ c.toNat := Nat.not_lt.mp h
    have hnot : Text.isAsciiBlank c = false := by
      cases hab : Text.isAsciiBlank c with
      | false => rfl
      | true => exact absurd (lt_of_isAsciiBlank hab) h
    rw [isIntBlank_of_lt (asciiOf_lt c)]
    rcases asciiOf_of_ge h with ⟨hb, hc⟩ | ⟨hb, d, hd, hc⟩ | ⟨hb, -, hc⟩
    · simp [isIntBlank, hge, hb, hc, Text.isAsciiBlank]
    · simp [isIntBlank, hnot, hb, hc, (asciiDigit_facts d (digitValue?_lt hd)).2.1]
    · rw [hc]
      simp only [isIntBlank, hnot, hb, Bool.and_false, Bool.or_false]
      decide

theorem digitValue?_asciiOf (c : Char) : Text.digitValue? (asciiOf c) = Text.digitValue? c := by
  by_cases h : c.toNat < 127
  · rw [asciiOf_of_lt h]
  · rcases asciiOf_of_ge h with ⟨hb, hc⟩ | ⟨-, d, hd, hc⟩ | ⟨-, hd, hc⟩
    · rw [hc, digitValue?_of_isBlank hb]
      decide
    · rw [hc, hd, digitValue?_digit d (digitValue?_lt hd)]
    · rw [hc, hd]
      decide

theorem asciiOf_eq_mark {c x : Char} (hx : x = '_' ∨ x = '+' ∨ x = '-') :
    asciiOf c = x ↔ c = x := by
  by_cases h : c.toNat < 127
  · rw [asciiOf_of_lt h]
  · constructor
    · intro hc
      rcases asciiOf_of_ge h with ⟨-, ha⟩ | ⟨-, d, hd, ha⟩ | ⟨-, -, ha⟩
      · rcases hx with rfl | rfl | rfl <;> rw [ha] at hc <;> cases hc
      · obtain ⟨-, -, h1, h2, h3⟩ := asciiDigit_facts d (digitValue?_lt hd)
        rcases hx with rfl | rfl | rfl <;> rw [ha] at hc <;> contradiction
      · rcases hx with rfl | rfl | rfl <;> rw [ha] at hc <;> cases hc
    · rintro rfl
      rcases hx with rfl | rfl | rfl <;> simp at h

/-! ## The grammar through the ASCII form -/

theorem stripBlanks_map_asciiOf (cs : List Char) :
    stripBlanks (cs.map asciiOf) = (stripBlanks cs).map asciiOf := by
  have hp : isIntBlank ∘ asciiOf = isIntBlank := funext isIntBlank_asciiOf
  simp only [stripBlanks, List.dropWhile_map, hp, ← List.map_reverse]

theorem runDigits_map_asciiOf (cs : List Char) : runDigits (cs.map asciiOf) = runDigits cs := by
  have hd : Text.digitValue? ∘ asciiOf = Text.digitValue? := funext digitValue?_asciiOf
  simp only [runDigits, List.filterMap_map, hd]

theorem digitRun_map_asciiOf {cs : List Char} (h : DigitRun cs) : DigitRun (cs.map asciiOf) := by
  induction h with
  | last hc => exact .last (by rwa [digitValue?_asciiOf])
  | digit hc _ ih => exact .digit (by rwa [digitValue?_asciiOf]) ih
  | underscore hc _ ih =>
    have hu : asciiOf '_' = '_' := rfl
    simp only [List.map_cons, hu]
    exact .underscore (by rwa [digitValue?_asciiOf]) ih

theorem digitRun_of_map_asciiOf {l : List Char} (h : DigitRun l) :
    ∀ cs, l = cs.map asciiOf → DigitRun cs := by
  induction h with
  | last hc =>
    intro cs hcs
    obtain ⟨c, rfl, rfl⟩ := List.map_eq_singleton_iff.mp hcs.symm
    exact .last (by rwa [digitValue?_asciiOf] at hc)
  | digit hc _ ih =>
    intro cs hcs
    obtain ⟨c, cs', rfl, rfl, rfl⟩ := List.map_eq_cons_iff.mp hcs.symm
    exact .digit (by rwa [digitValue?_asciiOf] at hc) (ih cs' rfl)
  | underscore hc _ ih =>
    intro cs hcs
    obtain ⟨c, cs', rfl, rfl, hrest⟩ := List.map_eq_cons_iff.mp hcs.symm
    obtain ⟨u, cs'', rfl, hu, rfl⟩ := List.map_eq_cons_iff.mp hrest
    rw [(asciiOf_eq_mark (Or.inl rfl)).mp hu]
    exact .underscore (by rwa [digitValue?_asciiOf] at hc) (ih cs'' rfl)

theorem integerText_map_asciiOf (cs : List Char) (n : Int) :
    IntegerText (cs.map asciiOf) n ↔ IntegerText cs n := by
  constructor
  · rintro ⟨sign, body, hsplit, hrun, hlen, hval⟩
    rw [stripBlanks_map_asciiOf, List.map_eq_append_iff] at hsplit
    obtain ⟨sign', body', hcs, rfl, rfl⟩ := hsplit
    have hsign : ∀ x : Char, (x = '+' ∨ x = '-') → (sign'.map asciiOf = [x] ↔ sign' = [x]) := by
      intro x hx
      constructor
      · intro h
        obtain ⟨c, rfl, hc⟩ := List.map_eq_singleton_iff.mp h
        rw [(asciiOf_eq_mark (Or.inr hx)).mp hc]
      · rintro rfl
        simp only [List.map_cons, List.map_nil, List.cons.injEq, and_true]
        exact (asciiOf_eq_mark (Or.inr hx)).mpr rfl
    refine ⟨sign', body', hcs, digitRun_of_map_asciiOf hrun _ rfl, by
      rwa [runDigits_map_asciiOf] at hlen, ?_⟩
    rw [runDigits_map_asciiOf, List.map_eq_nil_iff, hsign '+' (Or.inl rfl),
      hsign '-' (Or.inr rfl)] at hval
    exact hval
  · rintro ⟨sign, body, hsplit, hrun, hlen, hval⟩
    refine ⟨sign.map asciiOf, body.map asciiOf, by rw [stripBlanks_map_asciiOf, hsplit,
      List.map_append], digitRun_map_asciiOf hrun, by rwa [runDigits_map_asciiOf], ?_⟩
    rw [runDigits_map_asciiOf]
    rcases hval with ⟨rfl | rfl, rfl⟩ | ⟨rfl, rfl⟩ <;> simp [asciiOf, asciiForm]

/-! ## Reading an ASCII text -/

def readAscii (cs : List Char) : Option Int := do
  if !underscoresBetweenDigits cs then none
  let (neg, body) := sign (trim cs)
  let ds := body.filter (· != '_')
  if ds.isEmpty || !ds.all isDigit || ds.length > 4300 then none
  let n : Int := Json.natOfDigits ds
  pure (if neg then -n else n)

theorem readInt?_eq (s : String) : readInt? s = (asciiText s).bind readAscii := rfl

theorem readAscii_eq_some_iff_checks (cs : List Char) (n : Int) :
    readAscii cs = some n ↔ underscoresBetweenDigits cs = true ∧
      ((sign (trim cs)).2.filter (· != '_')) ≠ [] ∧
      (∀ x ∈ (sign (trim cs)).2.filter (· != '_'), isDigit x = true) ∧
      ((sign (trim cs)).2.filter (· != '_')).length ≤ 4300 ∧
      n = if (sign (trim cs)).1 then -(Json.natOfDigits ((sign (trim cs)).2.filter (· != '_')) : Int)
        else Json.natOfDigits ((sign (trim cs)).2.filter (· != '_')) := by
  unfold readAscii
  cases hs : sign (trim cs) with
  | mk neg body =>
  cases hu : underscoresBetweenDigits cs
  · simp
  · simp only [Bool.not_true, Bool.false_eq_true, if_false]
    generalize body.filter (· != '_') = ds
    split
    next hbad =>
      simp only [Bool.or_eq_true, Bool.not_eq_true', List.isEmpty_iff, List.all_eq_false,
        decide_eq_true_eq] at hbad
      constructor
      · intro h
        cases h
      rintro ⟨-, hne, hall, hlen, -⟩
      rcases hbad with (hnil | ⟨x, hx, hnd⟩) | hlong
      · exact absurd hnil hne
      · exact absurd (hall x hx) hnd
      · omega
    next hok =>
      simp only [Bool.or_eq_true, Bool.not_eq_true', List.isEmpty_iff, List.all_eq_false,
        decide_eq_true_eq, not_or, not_exists, not_and, Decidable.not_not] at hok
      obtain ⟨⟨hne, hall⟩, hlen⟩ := hok
      rw [show ∀ v : Int, (pure v : Option Int) = some v from fun _ => rfl, Option.some.injEq,
        eq_comm]
      exact ⟨fun h => ⟨trivial, hne, hall, by omega, h⟩, fun h => h.2.2.2.2⟩

/-! ## Digit runs -/

theorem digitValue?_underscore : Text.digitValue? '_' = none := by decide

theorem digitValue?_sign : Text.digitValue? '+' = none ∧ Text.digitValue? '-' = none := by decide

theorem lt_of_isDigit {c : Char} (h : isDigit c = true) : c.toNat < 127 := by
  simp only [isDigit, Bool.and_eq_true, decide_eq_true_eq] at h
  have h9 : c.toNat ≤ 57 := h.2
  omega

theorem DigitRun.head {cs : List Char} (h : DigitRun cs) :
    ∃ c r, cs = c :: r ∧ (Text.digitValue? c).isSome := by
  cases h with
  | last hc => exact ⟨_, _, rfl, hc⟩
  | digit hc _ => exact ⟨_, _, rfl, hc⟩
  | underscore hc _ => exact ⟨_, _, rfl, hc⟩

theorem DigitRun.mem {cs : List Char} (h : DigitRun cs) {x : Char} (hx : x ∈ cs) :
    (Text.digitValue? x).isSome ∨ x = '_' := by
  induction h with
  | last hc =>
    rw [List.mem_singleton.mp hx]
    exact .inl hc
  | digit hc _ ih =>
    rcases List.mem_cons.mp hx with rfl | hx
    · exact .inl hc
    · exact ih hx
  | underscore hc _ ih =>
    rcases List.mem_cons.mp hx with rfl | hx
    · exact .inl hc
    rcases List.mem_cons.mp hx with rfl | hx
    · exact .inr rfl
    · exact ih hx

/-! ## Underscores between digits -/

def Plain (c : Char) : Prop := c ≠ '_' ∧ isDigit c = false

theorem plain_of_isAsciiBlank {c : Char} (h : Text.isAsciiBlank c = true) : Plain c := by
  simp only [Text.isAsciiBlank, Bool.or_eq_true, decide_eq_true_eq] at h
  rcases h with ((((rfl | rfl) | rfl) | rfl) | rfl) | rfl <;> exact ⟨by decide, by decide⟩

theorem Plain.bne {c : Char} (h : Plain c) : (c != '_') = true := bne_iff_ne.mpr h.1

theorem go_plain_list {p : Char} {cs : List Char} (hcs : ∀ x ∈ cs, Plain x) :
    underscoresBetweenDigits.go p cs = (p != '_') := by
  induction cs generalizing p with
  | nil => rfl
  | cons c cs ih =>
    have hc := hcs c List.mem_cons_self
    rw [underscoresBetweenDigits.go.eq_3 _ _ _ hc.1, ih fun x hx => hcs x (List.mem_cons_of_mem _ hx),
      hc.2]
    simp [hc.1]

theorem go_plain_prev {p q : Char} (hp : Plain p) (hq : Plain q) (cs : List Char) :
    underscoresBetweenDigits.go p cs = underscoresBetweenDigits.go q cs := by
  cases cs with
  | nil => simp [underscoresBetweenDigits.go, hp.bne, hq.bne]
  | cons c cs =>
    by_cases hc : c = '_'
    · subst hc
      simp [underscoresBetweenDigits.go, hp.2, hq.2]
    · simp [underscoresBetweenDigits.go.eq_3 _ _ _ hc, hp.bne, hq.bne]

theorem go_plain_append {p : Char} (hp : Plain p) {xs : List Char} (hxs : ∀ x ∈ xs, Plain x)
    (ys : List Char) :
    underscoresBetweenDigits.go p (xs ++ ys) = underscoresBetweenDigits.go p ys := by
  induction xs generalizing p with
  | nil => rfl
  | cons x xs ih =>
    have hx := hxs x List.mem_cons_self
    rw [List.cons_append, underscoresBetweenDigits.go.eq_3 _ _ _ hx.1,
      ih hx fun y hy => hxs y (List.mem_cons_of_mem _ hy), go_plain_prev hx hp]
    simp [hp.1]

theorem go_append_plain {p : Char} {ys : List Char} (hys : ∀ y ∈ ys, Plain y) (xs : List Char) :
    underscoresBetweenDigits.go p (xs ++ ys) = underscoresBetweenDigits.go p xs := by
  induction xs generalizing p with
  | nil => rw [List.nil_append, go_plain_list hys]; rfl
  | cons x xs ih =>
    by_cases hx : x = '_'
    · subst hx
      simp only [List.cons_append, underscoresBetweenDigits.go.eq_2, ih]
    · simp only [List.cons_append, underscoresBetweenDigits.go.eq_3 _ _ _ hx, ih]

theorem go_of_digitRun {body : List Char} (hb : DigitRun body)
    (hascii : ∀ x ∈ body, x.toNat < 127) (p : Char) :
    underscoresBetweenDigits.go p body = true := by
  induction hb generalizing p with
  | @last c hc =>
    have hd : isDigit c = true := (isDigit_eq (hascii c List.mem_cons_self)).trans hc
    have hu : c ≠ '_' := by rintro rfl; simp [digitValue?_underscore] at hc
    simp [underscoresBetweenDigits.go.eq_3 _ _ _ hu, hd, underscoresBetweenDigits.go, hu]
  | @digit c cs hc _ ih =>
    have hd : isDigit c = true := (isDigit_eq (hascii c List.mem_cons_self)).trans hc
    have hu : c ≠ '_' := by rintro rfl; simp [digitValue?_underscore] at hc
    rw [underscoresBetweenDigits.go.eq_3 _ _ _ hu, hd,
      ih (fun x hx => hascii x (List.mem_cons_of_mem _ hx))]
    simp
  | @underscore c cs hc _ ih =>
    have hd : isDigit c = true := (isDigit_eq (hascii c List.mem_cons_self)).trans hc
    have hu : c ≠ '_' := by rintro rfl; simp [digitValue?_underscore] at hc
    rw [underscoresBetweenDigits.go.eq_3 _ _ _ hu, underscoresBetweenDigits.go.eq_2, hd,
      ih (fun x hx => hascii x (List.mem_cons_of_mem _ (List.mem_cons_of_mem _ hx)))]
    simp

theorem digitRun_of_go {body : List Char} (hd : ∀ x ∈ body, x ≠ '_' → isDigit x = true)
    (hne : body ≠ []) {p : Char} (hgo : underscoresBetweenDigits.go p body = true) :
    DigitRun body ∨ ∃ r, body = '_' :: r ∧ DigitRun r := by
  induction body generalizing p with
  | nil => exact absurd rfl hne
  | cons c rest ih =>
    have hd' : ∀ x ∈ rest, x ≠ '_' → isDigit x = true :=
      fun x hx => hd x (List.mem_cons_of_mem _ hx)
    by_cases hc : c = '_'
    · subst hc
      rw [underscoresBetweenDigits.go.eq_2, Bool.and_eq_true] at hgo
      have hrest : rest ≠ [] := by
        rintro rfl
        simp [underscoresBetweenDigits.go] at hgo
      rcases ih hd' hrest hgo.2 with h | ⟨r, rfl, -⟩
      · exact .inr ⟨rest, rfl, h⟩
      · simp [underscoresBetweenDigits.go, isDigit] at hgo
    · have hcd : (Text.digitValue? c).isSome :=
        (isDigit_eq (lt_of_isDigit (hd c List.mem_cons_self hc))).symm.trans
          (hd c List.mem_cons_self hc)
      rw [underscoresBetweenDigits.go.eq_3 _ _ _ hc, Bool.and_eq_true] at hgo
      cases rest with
      | nil => exact .inl (.last hcd)
      | cons d r =>
        rcases ih hd' (List.cons_ne_nil d r) hgo.2 with h | ⟨r', hr', h⟩
        · exact .inl (.digit hcd h)
        · rw [hr']
          exact .inl (.underscore hcd h)

/-! ## Values -/

theorem runDigits_eq_map {body : List Char} (h : ∀ x ∈ body, x ≠ '_' → isDigit x = true) :
    runDigits body = (body.filter (· != '_')).map fun c => (Json.asciiDigit? c).getD 0 := by
  induction body with
  | nil => rfl
  | cons c rest ih =>
    have ih' := ih fun x hx => h x (List.mem_cons_of_mem _ hx)
    simp only [runDigits] at ih' ⊢
    by_cases hc : c = '_'
    · subst hc
      simp [digitValue?_underscore, ih']
    · have hcd := h c List.mem_cons_self hc
      obtain ⟨d, hv⟩ := Option.isSome_iff_exists.mp
        ((isDigit_eq (lt_of_isDigit hcd)).symm.trans hcd)
      simp [hv, hc, asciiDigit?_eq (lt_of_isDigit hcd), ih']

theorem natOfDigits_eq (ds : List Char) :
    Json.natOfDigits ds = digitsValue (ds.map fun c => (Json.asciiDigit? c).getD 0) := by
  simp [Json.natOfDigits, digitsValue, List.foldl_map]

theorem digitRun_iff_checks {body : List Char} (hascii : ∀ x ∈ body, x.toNat < 127) :
    (underscoresBetweenDigits.go ' ' body = true ∧ body.filter (· != '_') ≠ [] ∧
      ∀ x ∈ body.filter (· != '_'), isDigit x = true) ↔ DigitRun body := by
  constructor
  · rintro ⟨hgo, hne, hall⟩
    have hd : ∀ x ∈ body, x ≠ '_' → isDigit x = true :=
      fun x hx hxu => hall x (List.mem_filter.mpr ⟨hx, bne_iff_ne.mpr hxu⟩)
    have hbne : body ≠ [] := by
      rintro rfl
      exact hne rfl
    rcases digitRun_of_go hd hbne hgo with h | ⟨r, rfl, -⟩
    · exact h
    · simp [underscoresBetweenDigits.go, isDigit] at hgo
  · intro hb
    obtain ⟨c, r, rfl, hc⟩ := hb.head
    refine ⟨go_of_digitRun hb hascii ' ', ?_, ?_⟩
    · have hu : c ≠ '_' := by rintro rfl; simp [digitValue?_underscore] at hc
      simp [hu]
    · intro x hx
      obtain ⟨hxm, hxu⟩ := List.mem_filter.mp hx
      rcases hb.mem hxm with h | rfl
      · exact (isDigit_eq (hascii x hxm)).trans h
      · simp at hxu

theorem value_of_digitRun {body : List Char} (hb : DigitRun body)
    (hascii : ∀ x ∈ body, x.toNat < 127) :
    (runDigits body).length = (body.filter (· != '_')).length ∧
      digitsValue (runDigits body) = Json.natOfDigits (body.filter (· != '_')) := by
  have hd : ∀ x ∈ body, x ≠ '_' → isDigit x = true := by
    intro x hx hxu
    rcases hb.mem hx with h | h
    · exact (isDigit_eq (hascii x hx)).trans h
    · exact absurd h hxu
  rw [runDigits_eq_map hd, natOfDigits_eq, List.length_map]
  exact ⟨rfl, rfl⟩

/-! ## Blanks and the sign -/

theorem split_around {α : Type} (p : α → Bool) (cs : List α) :
    ∃ pre post, cs = pre ++ ((cs.dropWhile p).reverse.dropWhile p).reverse ++ post ∧
      (∀ x ∈ pre, p x = true) ∧ ∀ x ∈ post, p x = true := by
  refine ⟨cs.takeWhile p, ((cs.dropWhile p).reverse.takeWhile p).reverse, ?_,
    fun x hx => List.mem_takeWhile_imp hx,
    fun x hx => List.mem_takeWhile_imp (List.mem_reverse.mp hx)⟩
  rw [List.append_assoc, ← List.reverse_append, List.takeWhile_append_dropWhile,
    List.reverse_reverse, List.takeWhile_append_dropWhile]

theorem dropWhile_isIntBlank {cs : List Char} (h : ∀ x ∈ cs, x.toNat < 127) :
    cs.dropWhile isIntBlank = cs.dropWhile Text.isAsciiBlank := by
  induction cs with
  | nil => rfl
  | cons c cs ih =>
    rw [List.dropWhile_cons, List.dropWhile_cons, isIntBlank_of_lt (h c List.mem_cons_self),
      ih fun x hx => h x (List.mem_cons_of_mem _ hx)]

theorem stripBlanks_eq_trim {cs : List Char} (h : ∀ x ∈ cs, x.toNat < 127) :
    stripBlanks cs = trim cs := by
  have h' : ∀ x ∈ (cs.dropWhile Text.isAsciiBlank).reverse, x.toNat < 127 :=
    fun x hx => h x ((List.dropWhile_sublist _).subset (List.mem_reverse.mp hx))
  rw [stripBlanks, dropWhile_isIntBlank h, dropWhile_isIntBlank h', trim]

theorem sign_spec (cs : List Char) :
    ∃ s, cs = s ++ (sign cs).2 ∧ (s = [] ∨ s = ['+'] ∨ s = ['-']) ∧
      ((sign cs).1 = true ↔ s = ['-']) := by
  unfold sign
  split
  · exact ⟨['-'], rfl, by simp, by simp⟩
  · exact ⟨['+'], rfl, by simp, by simp⟩
  · exact ⟨[], rfl, by simp, by simp⟩

theorem plain_of_sign {s : List Char} (h : s = [] ∨ s = ['+'] ∨ s = ['-']) :
    ∀ x ∈ s, Plain x := by
  rcases h with rfl | rfl | rfl <;> simp <;> exact ⟨by decide, by decide⟩

theorem sign_of_digitRun {s body : List Char} (hs : s = [] ∨ s = ['+'] ∨ s = ['-'])
    (hb : DigitRun body) : sign (s ++ body) = (decide (s = ['-']), body) := by
  obtain ⟨c, r, rfl, hc⟩ := hb.head
  have hplus : c ≠ '+' := by rintro rfl; simp [digitValue?_sign.1] at hc
  have hminus : c ≠ '-' := by rintro rfl; simp [digitValue?_sign.2] at hc
  rcases hs with rfl | rfl | rfl <;> simp [sign, hplus, hminus]

theorem integerText_iff_sign (cs : List Char) (n : Int) :
    IntegerText cs n ↔ DigitRun (sign (stripBlanks cs)).2 ∧
      (runDigits (sign (stripBlanks cs)).2).length ≤ 4300 ∧
      n = if (sign (stripBlanks cs)).1 then -(digitsValue (runDigits (sign (stripBlanks cs)).2) : Int)
        else digitsValue (runDigits (sign (stripBlanks cs)).2) := by
  constructor
  · rintro ⟨s, body, hsplit, hrun, hlen, hval⟩
    have hs : s = [] ∨ s = ['+'] ∨ s = ['-'] := by
      rcases hval with ⟨h | h, -⟩ | ⟨h, -⟩ <;> simp [h]
    rw [hsplit, sign_of_digitRun hs hrun]
    refine ⟨hrun, hlen, ?_⟩
    rcases hval with ⟨rfl | rfl, rfl⟩ | ⟨rfl, rfl⟩ <;> simp
  · rintro ⟨hrun, hlen, hval⟩
    obtain ⟨s, hsplit, hs, hneg⟩ := sign_spec (stripBlanks cs)
    refine ⟨s, _, hsplit, hrun, hlen, ?_⟩
    cases hsg : (sign (stripBlanks cs)).1 with
    | false =>
      rw [hsg] at hval hneg
      rcases hs with h | h | h
      · exact .inl ⟨.inl h, by simpa using hval⟩
      · exact .inl ⟨.inr h, by simpa using hval⟩
      · exact absurd (hneg.mpr h) Bool.false_ne_true
    | true =>
      rw [hsg] at hval hneg
      exact .inr ⟨hneg.mp rfl, by simpa using hval⟩

theorem underscores_eq_go (cs : List Char) :
    underscoresBetweenDigits cs = underscoresBetweenDigits.go ' ' (sign (trim cs)).2 := by
  obtain ⟨pre, post, hsplit, hpre, hpost⟩ := split_around Text.isAsciiBlank cs
  obtain ⟨s, hs, hsign, -⟩ := sign_spec (trim cs)
  have hspace : Plain ' ' := ⟨by decide, by decide⟩
  calc underscoresBetweenDigits.go ' ' cs
      = underscoresBetweenDigits.go ' ' (pre ++ trim cs ++ post) := congrArg _ hsplit
    _ = underscoresBetweenDigits.go ' ' (trim cs) := by
      rw [List.append_assoc, go_plain_append hspace fun x hx => plain_of_isAsciiBlank (hpre x hx),
        go_append_plain fun x hx => plain_of_isAsciiBlank (hpost x hx)]
    _ = underscoresBetweenDigits.go ' ' (s ++ (sign (trim cs)).2) := congrArg _ hs
    _ = underscoresBetweenDigits.go ' ' (sign (trim cs)).2 :=
      go_plain_append hspace (plain_of_sign hsign) _

theorem readAscii_eq_some_iff {cs : List Char} (hcs : ∀ x ∈ cs, x.toNat < 127) (n : Int) :
    readAscii cs = some n ↔ IntegerText cs n := by
  have hbody : ∀ x ∈ (sign (trim cs)).2, x.toNat < 127 := by
    intro x hx
    obtain ⟨s, hs, -⟩ := sign_spec (trim cs)
    have hxt : x ∈ trim cs := by
      rw [hs]
      exact List.mem_append_right s hx
    exact hcs x ((List.dropWhile_sublist _).subset (List.mem_reverse.mp
      ((List.dropWhile_sublist _).subset (List.mem_reverse.mp hxt))))
  rw [readAscii_eq_some_iff_checks, integerText_iff_sign, stripBlanks_eq_trim hcs,
    underscores_eq_go]
  constructor
  · rintro ⟨hgo, hne, hall, hlen, hn⟩
    have hrun := (digitRun_iff_checks hbody).mp ⟨hgo, hne, hall⟩
    obtain ⟨hl, hv⟩ := value_of_digitRun hrun hbody
    refine ⟨hrun, ?_, ?_⟩
    · rw [hl]
      exact hlen
    · rw [hv]
      exact hn
  · rintro ⟨hrun, hlen, hn⟩
    obtain ⟨hgo, hne, hall⟩ := (digitRun_iff_checks hbody).mpr hrun
    obtain ⟨hl, hv⟩ := value_of_digitRun hrun hbody
    refine ⟨hgo, hne, hall, ?_, ?_⟩
    · rw [← hl]
      exact hlen
    · rw [← hv]
      exact hn

/-! ## The reader -/

theorem mapM_asciiForm (cs : List Char) :
    cs.mapM asciiForm =
      if cs.all fun c => (asciiForm c).isSome then some (cs.map asciiOf) else none := by
  induction cs with
  | nil => rfl
  | cons c cs ih =>
    rw [List.mapM_cons, ih]
    cases hc : asciiForm c with
    | none => simp [hc]
    | some a =>
      have ha : asciiOf c = a := by simp [asciiOf, hc]
      by_cases hall : cs.all fun c => (asciiForm c).isSome <;> simp [hc, hall, ha]

theorem asciiForm_isSome_of_isIntBlank {c : Char} (h : isIntBlank c = true) :
    (asciiForm c).isSome := by
  by_cases hlt : c.toNat < 127
  · simp [asciiForm, hlt]
  · have hb : Text.isBlank c = true := by
      simp only [isIntBlank, Bool.or_eq_true, Bool.and_eq_true] at h
      rcases h with h | ⟨-, h⟩
      · exact absurd (lt_of_isAsciiBlank h) hlt
      · exact h
    simp [asciiForm, hlt, hb]

theorem asciiForm_isSome_of_digit {c : Char} (h : (Text.digitValue? c).isSome) :
    (asciiForm c).isSome := by
  unfold asciiForm
  split
  · rfl
  · split
    · rfl
    · simpa using h

theorem IntegerText.forms {cs : List Char} {n : Int} (h : IntegerText cs n) :
    ∀ c ∈ cs, (asciiForm c).isSome := by
  obtain ⟨s, body, hsplit, hrun, -, hval⟩ := h
  have hs : s = [] ∨ s = ['+'] ∨ s = ['-'] := by
    rcases hval with ⟨h | h, -⟩ | ⟨h, -⟩ <;> simp [h]
  obtain ⟨pre, post, hcs, hpre, hpost⟩ := split_around isIntBlank cs
  change cs = pre ++ stripBlanks cs ++ post at hcs
  rw [hsplit] at hcs
  intro c hc
  rw [hcs] at hc
  simp only [List.mem_append, or_assoc] at hc
  rcases hc with hc | hc | hc | hc
  · exact asciiForm_isSome_of_isIntBlank (hpre c hc)
  · rcases hs with rfl | rfl | rfl <;> simp at hc <;> (subst hc; rfl)
  · rcases hrun.mem hc with h | rfl
    · exact asciiForm_isSome_of_digit h
    · rfl
  · exact asciiForm_isSome_of_isIntBlank (hpost c hc)

theorem readInt?_eq_some_iff (s : String) (n : Int) :
    readInt? s = some n ↔ IntegerText s.toList n := by
  rw [readInt?_eq, asciiText, mapM_asciiForm]
  split
  next =>
    have hascii : ∀ x ∈ s.toList.map asciiOf, x.toNat < 127 := by
      intro x hx
      obtain ⟨y, -, rfl⟩ := List.mem_map.mp hx
      exact asciiOf_lt y
    rw [Option.bind_some, readAscii_eq_some_iff hascii, integerText_map_asciiOf]
  next hall =>
    simp only [Option.bind_none, reduceCtorEq, false_iff]
    intro h
    exact hall (List.all_eq_true.mpr h.forms)

end Numeral

/-! ## Integer settings -/

namespace Settings

open Numeral

theorem envInt_eq_ok_iff {env : String → Option String} {var : String} {default n : Int} :
    envInt env var default = .ok n ↔
      ((env var = none ∨ env var = some "") ∧ n = default) ∨
        ∃ v, env var = some v ∧ v ≠ "" ∧ IntegerText v.toList n := by
  unfold envInt
  cases hv : env var with
  | none =>
    constructor
    · intro h
      cases h
      exact .inl ⟨.inl rfl, rfl⟩
    · rintro (⟨-, rfl⟩ | ⟨v, hv', -⟩)
      · rfl
      · cases hv'
  | some v =>
    dsimp only
    by_cases he : v = ""
    · subst he
      constructor
      · intro h
        cases h
        exact .inl ⟨.inr rfl, rfl⟩
      · rintro (⟨-, rfl⟩ | ⟨v, hv', hne, -⟩)
        · rfl
        · cases hv'
          exact absurd rfl hne
    · rw [if_neg (by simpa using he)]
      have hleft : ¬((some v = none ∨ some v = some "") ∧ n = default) := by
        rintro ⟨h | h, -⟩ <;> cases h
        exact he rfl
      have hright : (∃ v', some v = some v' ∧ v' ≠ "" ∧ IntegerText v'.toList n) ↔
          readInt? v = some n := by
        rw [readInt?_eq_some_iff]
        constructor
        · rintro ⟨v', ⟨⟩, -, h⟩
          exact h
        · intro h
          exact ⟨v, rfl, he, h⟩
      rw [or_iff_right hleft, hright]
      cases readInt? v <;> simp

theorem envInt_eq_error_iff {env : String → Option String} {var : String} {default : Int}
    {e : SettingsError} :
    envInt env var default = .error e ↔
      ∃ v, env var = some v ∧ v ≠ "" ∧ (∀ n, ¬ IntegerText v.toList n) ∧
        e = .notInteger var v := by
  unfold envInt
  cases hv : env var with
  | none =>
    constructor
    · intro h
      cases h
    · rintro ⟨v, hv', -⟩
      cases hv'
  | some v =>
    have hrefuse : (∀ n, ¬ IntegerText v.toList n) ↔ readInt? v = none := by
      simp only [← readInt?_eq_some_iff]
      cases readInt? v <;> simp
    dsimp only
    by_cases he : v = ""
    · subst he
      constructor
      · intro h
        cases h
      · rintro ⟨v, hv', hne, -⟩
        cases hv'
        exact absurd rfl hne
    · rw [if_neg (by simpa using he)]
      constructor
      · intro h
        cases hr : readInt? v with
        | some m =>
          rw [hr] at h
          cases h
        | none =>
          rw [hr] at h
          cases h
          exact ⟨v, rfl, he, hrefuse.mpr hr, rfl⟩
      · rintro ⟨v', hv', -, hnone, rfl⟩
        cases hv'
        rw [hrefuse.mp hnone]

/-- An integer setting: unset or empty gives the default, a numeral its value, and
any other text fails, naming the variable and showing the text as a literal. -/
theorem integer_setting_read (env : String → Option String) (var : String) (default : Int) :
    (∀ n, envInt env var default = .ok n ↔
      ((env var = none ∨ env var = some "") ∧ n = default) ∨
        ∃ v, env var = some v ∧ v ≠ "" ∧ IntegerText v.toList n) ∧
    (∀ e, envInt env var default = .error e ↔
      ∃ v, env var = some v ∧ v ≠ "" ∧ (∀ n, ¬ IntegerText v.toList n) ∧
        e = .notInteger var v ∧ e.kind = "ConfigurationError" ∧
        e.message = var ++ " must be an integer, got " ++ Text.literal v) := by
  refine ⟨fun n => envInt_eq_ok_iff, fun e => ?_⟩
  rw [envInt_eq_error_iff]
  constructor
  · rintro ⟨v, hv, he, hnone, rfl⟩
    exact ⟨v, hv, he, hnone, rfl, rfl, rfl⟩
  · rintro ⟨v, hv, he, hnone, rfl, -⟩
    exact ⟨v, hv, he, hnone, rfl⟩

/-- An information separator in front of a port: a blank to Python's string
methods, but not one that a numeral may carry. -/
theorem separator_padded_port_refused :
    Text.isBlank '\x1c' = true ∧
      ofEnv (fun name => if name = "SPIRE_API_PORT" then some "\x1c5" else none) =
        .error (.notInteger "SPIRE_API_PORT" "\x1c5") := by
  refine ⟨by decide, ?_⟩
  rfl

end Settings
end SpireEnroll
