import SpireEnroll.Identity

/-!
# Adding and removing a finalizer

An account's finalizers form a list that may hold repeats. The account's own
methods add a finalizer by appending it unless it is present, and remove one by
dropping every occurrence; each tells whether the account changed, and the
reconciler writes the account back exactly when it did (`pushFinalizer_eq`,
`purgeFinalizer_eq`). Whatever else is on the list, other controllers'
finalizers among them, keeps its number and its order: the tokens other than the
one added or removed are the same before and after (`Finalizers.others`).
-/

namespace SpireEnroll

namespace Finalizers

variable (f : String) (fs : List String)

/-- The tokens of a list other than `f`, in order. -/
def others (fs : List String) : List String :=
  fs.filter (· != f)

theorem add_eq_self_iff : add f fs = fs ↔ f ∈ fs := by
  unfold add
  by_cases h : f ∈ fs <;> simp [h]

theorem remove_eq_self_iff : remove f fs = fs ↔ f ∉ fs := by
  unfold remove
  rw [List.filter_eq_self]
  constructor
  · intro h hf
    have hne : (f != f) = true := h f hf
    simp at hne
  · intro h a ha
    have hne : a ≠ f := fun hf => h (hf ▸ ha)
    simpa using hne

theorem others_add : others f (add f fs) = others f fs := by
  unfold add
  split
  · rfl
  · simp [others, List.filter_append]

theorem others_remove : others f (remove f fs) = others f fs := by
  simp [others, remove, List.filter_filter]

theorem count_eq_of_others_eq {f g : String} {fs fs' : List String}
    (h : others f fs = others f fs') (hg : f ≠ g) : fs.count g = fs'.count g := by
  have hkeep : (g != f) = true := by simpa using Ne.symm hg
  calc fs.count g = (others f fs).count g := (List.count_filter (p := (· != f)) hkeep).symm
    _ = (others f fs').count g := by rw [h]
    _ = fs'.count g := List.count_filter (p := (· != f)) hkeep

theorem remove_add : remove f (add f fs) = remove f fs :=
  others_add f fs

end Finalizers

namespace Identity

theorem addFinalizer_eq_self {o : Identity} {f : String} (h : o.hasFinalizer f = true) :
    o.addFinalizer f = o := by
  have hkeep : Finalizers.add f o.finalizers = o.finalizers :=
    (Finalizers.add_eq_self_iff f o.finalizers).2 (List.contains_iff_mem.1 h)
  simp only [addFinalizer, hkeep]

theorem removeFinalizer_eq_self {o : Identity} {f : String} (h : o.hasFinalizer f = false) :
    o.removeFinalizer f = o := by
  have habsent : f ∉ o.finalizers := by simpa [hasFinalizer] using h
  have hkeep : Finalizers.remove f o.finalizers = o.finalizers :=
    (Finalizers.remove_eq_self_iff f o.finalizers).2 habsent
  simp only [removeFinalizer, hkeep]

theorem hasFinalizer_addFinalizer (o : Identity) (f : String) :
    (o.addFinalizer f).hasFinalizer f = true :=
  Finalizers.contains_add f o.finalizers

theorem hasFinalizer_removeFinalizer (o : Identity) (f : String) :
    (o.removeFinalizer f).hasFinalizer f = false :=
  Finalizers.contains_remove f o.finalizers

variable (o : Identity) (f : String)

/-- The object's add method is the check the reconciler makes, negated, and the
addition it writes. -/
theorem pushFinalizer_eq : o.pushFinalizer f = (!o.hasFinalizer f, o.addFinalizer f) := by
  unfold pushFinalizer hasFinalizer addFinalizer Finalizers.add
  cases o.finalizers.contains f
  · rfl
  · rfl

/-- The object's remove method is the check the reconciler makes and the removal
it writes. -/
theorem purgeFinalizer_eq : o.purgeFinalizer f = (o.hasFinalizer f, o.removeFinalizer f) := by
  unfold purgeFinalizer
  cases h : o.hasFinalizer f with
  | false =>
      -- when the finalizer is absent, removing it leaves the object as it is
      have habsent : o.finalizers.contains f = false := h
      rw [habsent, removeFinalizer_eq_self h]
      rfl
  | true =>
      have hpresent : o.finalizers.contains f = true := h
      rw [hpresent]
      rfl

theorem pushFinalizer_changed_iff : (o.pushFinalizer f).1 = true ↔ f ∉ o.finalizers := by
  simp [pushFinalizer_eq, hasFinalizer]

theorem purgeFinalizer_changed_iff : (o.purgeFinalizer f).1 = true ↔ f ∈ o.finalizers := by
  simp [purgeFinalizer_eq, hasFinalizer]

theorem pushFinalizer_finalizers :
    (o.pushFinalizer f).2.finalizers = Finalizers.add f o.finalizers := by
  rw [pushFinalizer_eq]
  rfl

theorem purgeFinalizer_finalizers :
    (o.purgeFinalizer f).2.finalizers = Finalizers.remove f o.finalizers := by
  rw [purgeFinalizer_eq]
  rfl

theorem hasFinalizer_pushFinalizer : (o.pushFinalizer f).2.hasFinalizer f = true := by
  rw [pushFinalizer_eq]
  exact hasFinalizer_addFinalizer o f

theorem hasFinalizer_purgeFinalizer : (o.purgeFinalizer f).2.hasFinalizer f = false := by
  rw [purgeFinalizer_eq]
  exact hasFinalizer_removeFinalizer o f

theorem pushFinalizer_changed_iff_ne :
    (o.pushFinalizer f).1 = true ↔ (o.pushFinalizer f).2.finalizers ≠ o.finalizers := by
  rw [pushFinalizer_changed_iff, pushFinalizer_finalizers, Ne, Finalizers.add_eq_self_iff]

theorem purgeFinalizer_changed_iff_ne :
    (o.purgeFinalizer f).1 = true ↔ (o.purgeFinalizer f).2.finalizers ≠ o.finalizers := by
  rw [purgeFinalizer_changed_iff, purgeFinalizer_finalizers, Ne, Finalizers.remove_eq_self_iff,
    Classical.not_not]

theorem pushFinalizer_pushFinalizer :
    (o.pushFinalizer f).2.pushFinalizer f = (false, (o.pushFinalizer f).2) := by
  rw [pushFinalizer_eq (o.pushFinalizer f).2, hasFinalizer_pushFinalizer,
    addFinalizer_eq_self (hasFinalizer_pushFinalizer o f)]
  rfl

theorem purgeFinalizer_pushFinalizer :
    ((o.pushFinalizer f).2.purgeFinalizer f).2 = (o.purgeFinalizer f).2 := by
  rw [purgeFinalizer_eq, purgeFinalizer_eq, pushFinalizer_eq]
  simp only [removeFinalizer, addFinalizer, Finalizers.remove_add]

/-- What the object's two methods do with a finalizer `f`, and what they keep of
another finalizer `g`. -/
structure FinalizerLaws (o : Identity) (f g : String) : Prop where
  push_changed : (o.pushFinalizer f).1 = true ↔ f ∉ o.finalizers
  push_list : (o.pushFinalizer f).2.finalizers =
    if f ∈ o.finalizers then o.finalizers else o.finalizers ++ [f]
  purge_changed : (o.purgeFinalizer f).1 = true ↔ f ∈ o.finalizers
  purge_list : (o.purgeFinalizer f).2.finalizers = o.finalizers.filter (· != f)
  push_count : (o.pushFinalizer f).2.finalizers.count g = o.finalizers.count g
  purge_count : (o.purgeFinalizer f).2.finalizers.count g = o.finalizers.count g
  push_others :
    Finalizers.others f (o.pushFinalizer f).2.finalizers = Finalizers.others f o.finalizers
  purge_others :
    Finalizers.others f (o.purgeFinalizer f).2.finalizers = Finalizers.others f o.finalizers
  push_twice : (o.pushFinalizer f).2.pushFinalizer f = (false, (o.pushFinalizer f).2)
  purge_after_push : ((o.pushFinalizer f).2.purgeFinalizer f).2 = (o.purgeFinalizer f).2
  has_after_push : (o.pushFinalizer f).2.hasFinalizer f = true
  has_after_purge : (o.purgeFinalizer f).2.hasFinalizer f = false
  push_changed_iff : (o.pushFinalizer f).1 = true ↔ (o.pushFinalizer f).2.finalizers ≠ o.finalizers
  purge_changed_iff :
    (o.purgeFinalizer f).1 = true ↔ (o.purgeFinalizer f).2.finalizers ≠ o.finalizers

theorem finalizer_methods_lawful (g : String) (hfg : f ≠ g) : o.FinalizerLaws f g := by
  have hpush_others := pushFinalizer_finalizers o f ▸ Finalizers.others_add f o.finalizers
  have hpurge_others := purgeFinalizer_finalizers o f ▸ Finalizers.others_remove f o.finalizers
  refine
    { push_changed := pushFinalizer_changed_iff o f
      push_list := ?_
      purge_changed := purgeFinalizer_changed_iff o f
      purge_list := purgeFinalizer_finalizers o f
      push_count := Finalizers.count_eq_of_others_eq hpush_others hfg
      purge_count := Finalizers.count_eq_of_others_eq hpurge_others hfg
      push_others := hpush_others
      purge_others := hpurge_others
      push_twice := pushFinalizer_pushFinalizer o f
      purge_after_push := purgeFinalizer_pushFinalizer o f
      has_after_push := hasFinalizer_pushFinalizer o f
      has_after_purge := hasFinalizer_purgeFinalizer o f
      push_changed_iff := pushFinalizer_changed_iff_ne o f
      purge_changed_iff := purgeFinalizer_changed_iff_ne o f }
  rw [pushFinalizer_finalizers]
  by_cases h : f ∈ o.finalizers <;> simp [Finalizers.add, h]

/-- A finalizer held twice beside another is removed with both occurrences, and
the other is kept. -/
theorem repeated_finalizer_laws :
    "a/b" ≠ "x/y" ∧
      FinalizerLaws ⟨"team-a", "billing", [], ["a/b", "x/y", "a/b"], true, none⟩ "a/b" "x/y" :=
  ⟨by decide, finalizer_methods_lawful _ _ _ (by decide)⟩

end Identity

end SpireEnroll
