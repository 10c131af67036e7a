import SpireEnroll.Proofs.YamlDocument
import SpireEnroll.Cluster.Context

/-!
# The cluster name of a rendered configuration

A cluster configuration written as a block mapping of quoted pairs, one line per
pair, gives the cluster context whose name is the value of the last `clusterName`
pair: the text loads as that map (`load_rendered`), so the checks of
`ClusterContext.ofConfig` come down to the list of pairs. An empty list renders
as the empty text, which is refused before any reading.
-/

namespace SpireEnroll

open Yaml

theorem renderPairs_isEmpty (ps : List (String × String)) :
    (renderPairs ps).isEmpty = ps.isEmpty := by
  cases ps with
  | nil => rfl
  | cons p ps =>
    have hlen := length_le_renderPairs (p :: ps)
    have hne : renderPairs (p :: ps) ≠ "" := by
      intro h
      rw [h] at hlen
      simp at hlen
    simpa [String.isEmpty_iff] using hne

/-- With a trust domain, a rendered list of pairs gives the cluster context named
by the last `clusterName` pair; no such pair, or an empty name, is refused, and so
is the empty list. -/
theorem cluster_name_is_last_entry {t : String} (ht : t ≠ "") {ps : List (String × String)}
    (hp : ∀ p ∈ ps, Renderable p) :
    ClusterContext.ofConfig (some t) (some (renderPairs ps)) =
      (if ps = [] then .error (.problem .configurationMissing) else
        match lastValue ps "clusterName" with
        | some v => if v = "" then .error (.problem .clusterNameMissing) else .ok ⟨v, t⟩
        | none => .error (.problem .clusterNameMissing)) ∧
    ContextProblem.clusterNameMissing.message = "clusterName not found in cluster configuration" ∧
    ContextProblem.configurationMissing.message = "cluster configuration is missing or empty" := by
  refine ⟨?_, rfl, rfl⟩
  have htd : t.isEmpty = false := by simpa [String.isEmpty_iff] using ht
  by_cases hps : ps = []
  · subst hps
    unfold ClusterContext.ofConfig
    simp only [Option.getD_some, htd]
    rfl
  · obtain ⟨doc, hload, hroot, hfield⟩ := load_rendered hps hp
    have hne : ps.isEmpty = false := by simpa using hps
    unfold ClusterContext.ofConfig
    simp only [Option.getD_some, htd, renderPairs_isEmpty, hne, Bool.false_eq_true, ↓reduceIte,
      hload, pure_bind, hroot, hfield, if_neg hps]
    -- the document is the map of the pairs; what is left is the check of the name
    cases lastValue ps "clusterName" with
    | none => rfl
    | some v =>
      by_cases hv : v = ""
      · subst hv
        rfl
      · have hempty : v.isEmpty = false := by simpa [String.isEmpty_iff] using hv
        simp only [Option.map_some, hempty, Bool.false_eq_true, ↓reduceIte, if_neg hv]
        rfl

theorem last_cluster_name_wins :
    "example.org" ≠ "" ∧
    (∀ p ∈ [("clusterName", "staging"), ("note", "it's: #1"), ("clusterName", "prod-east")],
      Renderable p) ∧
    ClusterContext.ofConfig (some "example.org")
      (some (renderPairs [("clusterName", "staging"), ("note", "it's: #1"),
        ("clusterName", "prod-east")])) = .ok ⟨"prod-east", "example.org"⟩ := by
  have ht : "example.org" ≠ "" := by decide
  have hp : ∀ p ∈ [("clusterName", "staging"), ("note", "it's: #1"),
      ("clusterName", "prod-east")], Renderable p := by
    simp only [List.forall_mem_cons, List.not_mem_nil, IsEmpty.forall_iff, implies_true, and_true]
    exact ⟨by decide, by decide, by decide⟩
  have hlast : lastValue [("clusterName", "staging"), ("note", "it's: #1"),
      ("clusterName", "prod-east")] "clusterName" = some "prod-east" := by decide +kernel
  refine ⟨ht, hp, (cluster_name_is_last_entry ht hp).1.trans ?_⟩
  rw [hlast, if_neg (List.cons_ne_nil _ _)]
  exact if_neg (by decide)

end SpireEnroll
