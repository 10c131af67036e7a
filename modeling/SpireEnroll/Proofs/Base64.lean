import SpireEnroll.Proofs.Registry

/-!
# Base64: round trips and the canonical form of a credential

Writing then reading gives the bytes back, and the written text is canonical: the
bits of its padded last group that no byte takes are zero, and it is no longer than
its bytes need, `4 * ⌈n / 3⌉` characters for `n` bytes. Reading then writing gives
the text back exactly when the text is canonical: both directions are inductions
over groups of three bytes and four characters.

The admin credential is the Secret's value read as strict base64 and written again,
so it is the canonical form of that value. It equals the value exactly when the
value is canonical; a value read with unused bits set, or followed by `=` after a
whole group, comes back rewritten.
-/

namespace SpireEnroll
namespace Base64

/-! ## The alphabet -/

theorem sextetValue?_sextetChar : ∀ n, n < 64 → sextetValue? (sextetChar n) = some n := by
  decide

theorem sextetValue?_table : ∀ k, k < 128 →
    (sextetValue? (Char.ofNat k)).all (fun v => decide (v < 64 ∧ sextetChar v = Char.ofNat k)) := by
  decide

theorem toNat_lt_of_sextetValue? {c : Char} {v : Nat} (h : sextetValue? c = some v) :
    c.toNat < 128 := by
  unfold sextetValue? at h
  split at h
  next hr => exact Nat.lt_of_le_of_lt hr.2 (by decide)
  next =>
  split at h
  next hr => exact Nat.lt_of_le_of_lt hr.2 (by decide)
  next =>
  split at h
  next hr => exact Nat.lt_of_le_of_lt hr.2 (by decide)
  next =>
  split at h
  next hr => subst hr; decide
  next =>
  split at h
  next hr => subst hr; decide
  next => cases h

theorem sextetChar_of_sextetValue? {c : Char} {v : Nat} (h : sextetValue? c = some v) :
    v < 64 ∧ sextetChar v = c := by
  have hc : Char.ofNat c.toNat = c := Char.ofNat_toNat c
  have ht := sextetValue?_table c.toNat (toNat_lt_of_sextetValue? h)
  rw [hc, h] at ht
  simpa using ht

theorem sextetChar_ne_pad {n : Nat} (h : n < 64) : sextetChar n ≠ '=' := by
  intro hp
  have hv := sextetValue?_sextetChar n h
  rw [hp] at hv
  cases hv

theorem toUInt8_toNat {n : Nat} (h : n < 256) : n.toUInt8.toNat = n := by
  simp
  omega

/-! ## Whole groups -/

theorem decodeChars_group {a b c d : Char} (rest : List Char) (ha : a ≠ '=') (hd : d ≠ '=') :
    decodeChars (a :: b :: c :: d :: rest) = (do
      let va ← sextetValue? a
      let vb ← sextetValue? b
      let vc ← sextetValue? c
      let vd ← sextetValue? d
      let tail ← decodeChars rest
      pure ((va * 4 + vb / 16).toUInt8 :: ((vb % 16) * 16 + vc / 4).toUInt8 ::
        ((vc % 4) * 64 + vd).toUInt8 :: tail)) :=
  decodeChars.eq_5 a b c d rest ha (fun _ h _ => hd h) (fun h _ => hd h)

theorem spareBits_group {a b c d : Char} (rest : List Char) (hd : d ≠ '=') :
    spareBits (a :: b :: c :: d :: rest) = spareBits rest :=
  spareBits.eq_3 a b c d rest (fun _ h _ => hd h) (fun h _ => hd h)

theorem sextets_of_bytes {va vb vc vd : Nat} (ha : va < 64) (hb : vb < 64) (hc : vc < 64)
    (hd : vd < 64) :
    let n := (va * 4 + vb / 16).toUInt8.toNat * 65536 +
      ((vb % 16) * 16 + vc / 4).toUInt8.toNat * 256 + ((vc % 4) * 64 + vd).toUInt8.toNat
    n / 262144 = va ∧ n / 4096 % 64 = vb ∧ n / 64 % 64 = vc ∧ n % 64 = vd := by
  intro n
  have hx := toUInt8_toNat (show va * 4 + vb / 16 < 256 by omega)
  have hy := toUInt8_toNat (show (vb % 16) * 16 + vc / 4 < 256 by omega)
  have hz := toUInt8_toNat (show (vc % 4) * 64 + vd < 256 by omega)
  have hn : n = va * 262144 + vb * 4096 + vc * 64 + vd := by
    simp only [n, hx, hy, hz]
    omega
  rw [hn]
  omega

/-! ## Writing then reading -/

theorem decodeChars_encodeChars (bytes : List UInt8) :
    decodeChars (encodeChars bytes) = some bytes := by
  induction bytes using encodeChars.induct with
  | case1 a b c rest ih =>
    have ha := a.toNat_lt
    have hb := b.toNat_lt
    have hc := c.toNat_lt
    rw [encodeChars, decodeChars_group _ (sextetChar_ne_pad (by omega))
      (sextetChar_ne_pad (by omega)), ih, sextetValue?_sextetChar _ (by omega),
      sextetValue?_sextetChar _ (by omega), sextetValue?_sextetChar _ (by omega),
      sextetValue?_sextetChar _ (by omega)]
    simp only [Option.bind_eq_bind, Option.bind_some, Option.pure_def, Option.some.injEq,
      List.cons.injEq, and_true]
    refine ⟨?_, ?_, ?_⟩ <;> apply UInt8.toNat_inj.mp <;> simp <;> omega
  | case2 a b =>
    have ha := a.toNat_lt
    have hb := b.toNat_lt
    rw [encodeChars, decodeChars.eq_4 _ _ _ (sextetChar_ne_pad (by omega))
      (sextetChar_ne_pad (by omega)), sextetValue?_sextetChar _ (by omega),
      sextetValue?_sextetChar _ (by omega), sextetValue?_sextetChar _ (by omega)]
    simp only [Option.bind_eq_bind, Option.bind_some, Option.pure_def, Option.some.injEq,
      List.cons.injEq, and_true]
    refine ⟨?_, ?_⟩ <;> apply UInt8.toNat_inj.mp <;> simp <;> omega
  | case3 a =>
    have ha := a.toNat_lt
    rw [encodeChars, decodeChars.eq_3 _ _ (sextetChar_ne_pad (by omega)),
      sextetValue?_sextetChar _ (by omega), sextetValue?_sextetChar _ (by omega)]
    simp only [Option.bind_eq_bind, Option.bind_some, Option.pure_def, Option.some.injEq,
      List.cons.injEq, and_true]
    apply UInt8.toNat_inj.mp
    simp
    omega
  | case4 => rfl

theorem spareBits_encodeChars (bytes : List UInt8) : spareBits (encodeChars bytes) = 0 := by
  induction bytes using encodeChars.induct with
  | case1 a b c rest ih =>
    have hc := c.toNat_lt
    rw [encodeChars, spareBits_group _ (sextetChar_ne_pad (by omega)), ih]
  | case2 a b =>
    have ha := a.toNat_lt
    have hb := b.toNat_lt
    rw [encodeChars, spareBits.eq_2 _ _ _ (sextetChar_ne_pad (by omega)),
      sextetValue?_sextetChar _ (by omega)]
    simp
    omega
  | case3 a =>
    have ha := a.toNat_lt
    rw [encodeChars, spareBits.eq_1, sextetValue?_sextetChar _ (by omega)]
    simp
    omega
  | case4 => rfl

theorem length_encodeChars (bytes : List UInt8) :
    (encodeChars bytes).length = 4 * ((bytes.length + 2) / 3) := by
  induction bytes using encodeChars.induct with
  | case1 a b c rest ih =>
    simp only [encodeChars, List.length_cons, ih]
    omega
  | case2 a b => simp [encodeChars]
  | case3 a => simp [encodeChars]
  | case4 => rfl

theorem head?_encodeChars_ne_pad (bytes : List UInt8) : (encodeChars bytes).head? ≠ some '=' := by
  cases bytes with
  | nil => simp [encodeChars]
  | cons a rest =>
    have ha := a.toNat_lt
    have hne := sextetChar_ne_pad (show a.toNat * 65536 / 262144 < 64 by omega)
    rcases rest with _ | ⟨b, _ | ⟨c, rest⟩⟩
    · simpa [encodeChars] using hne
    · have hb := b.toNat_lt
      simpa [encodeChars] using
        sextetChar_ne_pad (show (a.toNat * 65536 + b.toNat * 256) / 262144 < 64 by omega)
    · have hb := b.toNat_lt
      have hc := c.toNat_lt
      simpa [encodeChars] using
        sextetChar_ne_pad (show (a.toNat * 65536 + b.toNat * 256 + c.toNat) / 262144 < 64 by omega)

/-! ## Reading then writing -/

theorem encodeChars_of_decodeChars {cs : List Char} {bytes : List UInt8}
    (h : decodeChars cs = some bytes) (hbits : spareBits cs = 0)
    (hlen : cs.length = 4 * ((bytes.length + 2) / 3)) : encodeChars bytes = cs := by
  induction cs using decodeChars.induct generalizing bytes with
  | case1 =>
    cases h
    rfl
  | case2 rest hall =>
    -- a run of padding reads as nothing, but is longer than nothing needs
    rw [decodeChars.eq_2, if_pos hall] at h
    cases h
    simp at hlen
  | case3 rest hall =>
    rw [decodeChars.eq_2, if_neg hall] at h
    cases h
  | case4 a b ha =>
    rw [decodeChars.eq_3 _ _ ha] at h
    simp only [Option.bind_eq_bind, Option.pure_def, Option.bind_eq_some_iff,
      Option.some.injEq] at h
    obtain ⟨va, hva, vb, hvb, rfl⟩ := h
    rw [spareBits.eq_1, hvb, Option.getD_some] at hbits
    obtain ⟨hva64, hca⟩ := sextetChar_of_sextetValue? hva
    obtain ⟨hvb64, hcb⟩ := sextetChar_of_sextetValue? hvb
    have hx := toUInt8_toNat (show va * 4 + vb / 16 < 256 by omega)
    have h1 : (va * 4 + vb / 16) * 65536 / 262144 = va := by omega
    have h2 : (va * 4 + vb / 16) * 65536 / 4096 % 64 = vb := by omega
    simp only [encodeChars, hx, h1, h2, hca, hcb]
  | case5 a b c ha hc =>
    rw [decodeChars.eq_4 _ _ _ ha hc] at h
    simp only [Option.bind_eq_bind, Option.pure_def, Option.bind_eq_some_iff,
      Option.some.injEq] at h
    obtain ⟨va, hva, vb, hvb, vc, hvc, rfl⟩ := h
    rw [spareBits.eq_2 _ _ _ hc, hvc, Option.getD_some] at hbits
    obtain ⟨hva64, hca⟩ := sextetChar_of_sextetValue? hva
    obtain ⟨hvb64, hcb⟩ := sextetChar_of_sextetValue? hvb
    obtain ⟨hvc64, hcc⟩ := sextetChar_of_sextetValue? hvc
    have hx := toUInt8_toNat (show va * 4 + vb / 16 < 256 by omega)
    have hy := toUInt8_toNat (show (vb % 16) * 16 + vc / 4 < 256 by omega)
    have hn : (va * 4 + vb / 16) * 65536 + ((vb % 16) * 16 + vc / 4) * 256 =
        va * 262144 + vb * 4096 + vc * 64 := by omega
    have h1 : (va * 262144 + vb * 4096 + vc * 64) / 262144 = va := by omega
    have h2 : (va * 262144 + vb * 4096 + vc * 64) / 4096 % 64 = vb := by omega
    have h3 : (va * 262144 + vb * 4096 + vc * 64) / 64 % 64 = vc := by omega
    simp only [encodeChars, hx, hy, hn, h1, h2, h3, hca, hcb, hcc]
  | case6 a b c d rest ha hcd hd ih =>
    rw [decodeChars.eq_5 _ _ _ _ _ ha hcd hd] at h
    simp only [Option.bind_eq_bind, Option.pure_def, Option.bind_eq_some_iff,
      Option.some.injEq] at h
    obtain ⟨va, hva, vb, hvb, vc, hvc, vd, hvd, tail, hrest, rfl⟩ := h
    rw [spareBits.eq_3 _ _ _ _ _ hcd hd] at hbits
    obtain ⟨hva64, hca⟩ := sextetChar_of_sextetValue? hva
    obtain ⟨hvb64, hcb⟩ := sextetChar_of_sextetValue? hvb
    obtain ⟨hvc64, hcc⟩ := sextetChar_of_sextetValue? hvc
    obtain ⟨hvd64, hcd'⟩ := sextetChar_of_sextetValue? hvd
    have htail : encodeChars tail = rest := by
      apply ih hrest hbits
      simp only [List.length_cons] at hlen
      omega
    obtain ⟨h1, h2, h3, h4⟩ := sextets_of_bytes hva64 hvb64 hvc64 hvd64
    simp only [encodeChars, h1, h2, h3, h4, hca, hcb, hcc, hcd', htail]
  | case7 t h1 h2 h3 h4 h5 =>
    rw [decodeChars.eq_6 t h1 h2 h3 h4 h5] at h
    cases h

/-! ## Texts -/

theorem decode?_eq_decodeChars {s : String} (h : s.toList.head? ≠ some '=') :
    decode? s = decodeChars s.toList := by
  unfold decode?
  split
  next cs hcs => simp [hcs] at h
  next => rfl

theorem decodeChars_of_decode? {s : String} {bytes : List UInt8}
    (h : decode? s = some bytes) : decodeChars s.toList = some bytes := by
  unfold decode? at h
  split at h
  next => cases h
  next => exact h

theorem decode?_encode (bytes : List UInt8) : decode? (encode bytes) = some bytes := by
  have hhead : (encode bytes).toList.head? ≠ some '=' := by
    simpa [encode] using head?_encodeChars_ne_pad bytes
  rw [decode?_eq_decodeChars hhead, encode, String.toList_ofList, decodeChars_encodeChars]

theorem spareBits_encode (bytes : List UInt8) : spareBits (encode bytes).toList = 0 := by
  rw [encode, String.toList_ofList, spareBits_encodeChars]

theorem length_encode (bytes : List UInt8) :
    (encode bytes).length = 4 * ((bytes.length + 2) / 3) := by
  rw [encode, String.length_ofList, length_encodeChars]

theorem encode_eq_iff {s : String} {bytes : List UInt8} (h : decode? s = some bytes) :
    encode bytes = s ↔ spareBits s.toList = 0 ∧ s.length = 4 * ((bytes.length + 2) / 3) := by
  constructor
  · rintro rfl
    exact ⟨spareBits_encode bytes, length_encode bytes⟩
  · rintro ⟨hbits, hlen⟩
    have hchars := encodeChars_of_decodeChars (decodeChars_of_decode? h) hbits
      (by rw [String.length_toList]; exact hlen)
    rw [encode, hchars, String.ofList_toList]

end Base64

/-! ## The admin credential -/

namespace Reconciler

variable {W : Type} (r : Reconciler W)

theorem adminCredential_of_text (t : Option Rat) (w : W) {secret : SecretRecord} {s : String}
    (hread : (r.outside.readSecret r.settings.credentialNamespace r.settings.credentialName t
      w).2 = .ok secret)
    (hkey : (secret.data.getD []).lookup r.settings.credentialKey = some (.str s)) :
    ((r.adminCredential t).exec w).1 =
      if s = "" then
        .error (.credentialMissing r.settings.credentialNamespace r.settings.credentialName
          r.settings.credentialKey)
      else
        match Base64.decode? s with
        | none => .error (.credentialNotBase64 r.settings.credentialNamespace
            r.settings.credentialName r.settings.credentialKey)
        | some [] => .error (.credentialEmpty r.settings.credentialNamespace
            r.settings.credentialName r.settings.credentialKey)
        | some bytes => .ok (Base64.encode bytes) := by
  unfold adminCredential
  simp only [Run.exec_bind, Run.exec_call, hread, hkey, Value.truthy]
  by_cases hs : s = ""
  · simp [hs]
  · have hne : s.isEmpty = false := by simpa using hs
    simp only [hne, Bool.not_false, Bool.not_true, Bool.false_eq_true, if_false, hs]
    split <;> simp_all

end Reconciler

/-- Strict base64 as the admin credential reads it. Writing bytes gives a canonical
text of `4 * ⌈n / 3⌉` characters that reads back as the bytes, and the only
canonical text that does. The credential under the Secret's key, a text `s`, is
returned exactly when `s` reads as some bytes, and it is then their writing; that
writing is `s` itself exactly when `s` is canonical, with no spare bits set and no
padding past what its bytes need. A text that reads as no bytes, or as none at all,
fails the lookup as a credential lookup. -/
theorem credential_is_canonical_writing :
    (∀ bytes : List UInt8, Base64.decode? (Base64.encode bytes) = some bytes ∧
      Base64.spareBits (Base64.encode bytes).toList = 0 ∧
      (Base64.encode bytes).length = 4 * ((bytes.length + 2) / 3) ∧
      ∀ s, Base64.decode? s = some bytes → Base64.spareBits s.toList = 0 →
        s.length = 4 * ((bytes.length + 2) / 3) → s = Base64.encode bytes) ∧
    ∀ {W : Type} (r : Reconciler W) (t : Option Rat) (w : W) (secret : SecretRecord) (s : String),
      (r.outside.readSecret r.settings.credentialNamespace r.settings.credentialName t w).2 =
        .ok secret →
      (secret.data.getD []).lookup r.settings.credentialKey = some (.str s) →
      (∀ text, ((r.adminCredential t).exec w).1 = .ok text ↔
        ∃ bytes, Base64.decode? s = some bytes ∧ bytes ≠ [] ∧ text = Base64.encode bytes) ∧
      (∀ bytes, Base64.decode? s = some bytes →
        (Base64.encode bytes = s ↔
          Base64.spareBits s.toList = 0 ∧ s.length = 4 * ((bytes.length + 2) / 3))) ∧
      ((∀ bytes, Base64.decode? s = some bytes → bytes = []) →
        ∃ e, ((r.adminCredential t).exec w).1 = .error e ∧ e.kind = .credentialLookup) := by
  refine ⟨fun bytes => ⟨Base64.decode?_encode bytes, Base64.spareBits_encode bytes,
    Base64.length_encode bytes, fun s hs hbits hlen => ((Base64.encode_eq_iff hs).2 ⟨hbits, hlen⟩).symm⟩,
    ?_⟩
  intro W r t w secret s hread hkey
  have hspec := r.adminCredential_of_text t w hread hkey
  refine ⟨?_, fun bytes hs => Base64.encode_eq_iff hs, ?_⟩
  · intro text
    rw [hspec]
    by_cases he : s = ""
    · -- the empty text reads as no bytes
      subst he
      simp [Base64.decode?, Base64.decodeChars]
    · simp only [he, if_false]
      cases hd : Base64.decode? s with
      | none => simp
      | some bytes =>
        cases bytes with
        | nil => simp
        | cons b bs => simp [eq_comm]
  · intro hnone
    rw [hspec]
    by_cases he : s = ""
    · exact ⟨_, if_pos he, rfl⟩
    · simp only [he, if_false]
      cases hd : Base64.decode? s with
      | none => exact ⟨_, rfl, rfl⟩
      | some bytes =>
        cases bytes with
        | nil => exact ⟨_, rfl, rfl⟩
        | cons b bs => exact absurd (hnone _ hd) (List.cons_ne_nil b bs)

def Outside.holdingCredential (text : String) : Outside Unit :=
  { Outside.answering with
    readSecret := fun ns name _ w => (w, .ok ⟨ns, name, some [("kubeconfig", .str text)]⟩) }

/-- The credential under a Secret holding `YWJj=`, a text that reads as three bytes:
returned as `YWJj` exactly when that is the writing of what the text reads as. -/
theorem padded_credential_reencoded :
    let r : Reconciler Unit :=
      ⟨{}, ⟨"http://spire.test:8081", 10, .standard⟩, Outside.holdingCredential "YWJj="⟩
    let secret : SecretRecord :=
      ⟨"kube-system", "admin-kubeconfig", some [("kubeconfig", .str "YWJj=")]⟩
    (r.outside.readSecret r.settings.credentialNamespace r.settings.credentialName none ()).2 =
        .ok secret ∧
      (secret.data.getD []).lookup r.settings.credentialKey = some (.str "YWJj=") ∧
      (((r.adminCredential none).exec ()).1 = .ok "YWJj" ↔
        ∃ bytes, Base64.decode? "YWJj=" = some bytes ∧ bytes ≠ [] ∧ "YWJj" = Base64.encode bytes) := by
  intro r secret
  have hread : (r.outside.readSecret r.settings.credentialNamespace r.settings.credentialName
      none ()).2 = .ok secret := rfl
  have hkey : (secret.data.getD []).lookup r.settings.credentialKey = some (.str "YWJj=") :=
    rfl
  exact ⟨hread, hkey, (credential_is_canonical_writing.2 r none () secret "YWJj=" hread hkey).1 "YWJj"⟩

/-- A credential read from `YWJj=`, whose last group has no spare bits, is not the
text itself: the padding after the whole group is dropped. -/
theorem padded_credential_not_kept :
    let r : Reconciler Unit :=
      ⟨{}, ⟨"http://spire.test:8081", 10, .standard⟩, Outside.holdingCredential "YWJj="⟩
    Base64.decode? "YWJj=" = some [97, 98, 99] ∧ Base64.spareBits "YWJj=".toList = 0 ∧
      ((r.adminCredential none).exec ()).1 = .ok "YWJj" ∧ "YWJj" ≠ "YWJj=" := by
  intro r
  refine ⟨by decide +kernel, by decide +kernel, ?_, by decide⟩
  rfl

end SpireEnroll
