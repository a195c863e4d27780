import TaskFlow.Proofs.Failure.Graph

/-!
# Where the fallbacks of rules are kept

- `FailureBuilder.exists_walk?_behind`: whatever rules stand in front, a rule is walked, in the order in which it lists
  its nodes, once their subsets are there; so no rule is passed over;
- `fallbacks_eq_nil_of_forall_ne`: a vertex on the way to the vertices of rules has no fallback;
- `ofRules_files_rules`: every vertex has the fallbacks of just the rules for its set, in their order.
-/

namespace TaskFlow

/-- **No rule is passed over**: behind any rules, the nodes of a rule are walked once their subsets are there. -/
theorem FailureBuilder.exists_walk?_behind (before : List FailureRule) {names : List String} (hne : names ≠ [])
    (hnodup : names.Nodup) :
    ∃ id, (addSubsets (before.foldl addRule {}) names).graph.walk? names = some id := by
  obtain ⟨hsound, -⟩ := foldl_addRule_content empty_sound empty_content before
  obtain ⟨id, hwalk, -⟩ := walk?_addSubsets hsound hne hnodup
  exact ⟨id, hwalk⟩

namespace FailureGraph

variable {rules : List FailureRule}

/-- The nodes of a rule have one vertex. -/
theorem existsUnique_node_of_rule {r : FailureRule} (hr : r ∈ rules) (hne : r.nodes ≠ []) :
    ∃! id, ∃ n, (ofRules rules).node? id = some n ∧ n.traversed = .ofList r.nodes := by
  have hg := holds_ofRules rules
  obtain ⟨id, hid⟩ := (hg.vertex_iff (.ofList r.nodes)).1
    ⟨r, hr, mt NameSet.ofList_eq_empty_iff.1 hne, fun x hx => NameSet.mem_ofList.1 hx⟩
  refine ⟨id, setOf?_eq_some_iff.1 hid, fun i hi => ?_⟩
  exact hg.setOf?_inj i id _ (setOf?_eq_some_iff.2 hi) hid

/-- A vertex for which there is no rule has no fallback. -/
theorem fallbacks_eq_nil_of_forall_ne (hrules : ∀ r ∈ rules, r.nodes ≠ [] ∧ r.nodes.Nodup) {id : Nat} {n : FailureNode}
    (hn : (ofRules rules).node? id = some n) (hnone : ∀ r ∈ rules, NameSet.ofList r.nodes ≠ n.traversed) :
    n.fallbacks = [] := by
  rw [fallbacks_ofRules hrules hn, FailureRule.entriesFor, List.map_eq_nil_iff, List.filter_eq_nil_iff]
  intro r hr heq
  exact hnone r hr (of_decide_eq_true heq)

/-- **Every rule is filed where it belongs**: the fallbacks of a vertex are those of the rules for its set, each with
the condition of its rule as evaluated and as written, in the order of the rules. Each rule has one such vertex and is
walked to it when it is added; vertices for which there is no rule have no fallback. -/
theorem ofRules_files_rules {rules : List FailureRule} (hrules : ∀ r ∈ rules, r.nodes ≠ [] ∧ r.nodes.Nodup) :
    let g := ofRules rules
    (∀ id n, g.node? id = some n → n.fallbacks =
      (rules.filter fun r => NameSet.ofList r.nodes = n.traversed).map fun r =>
        ⟨r.fallback, r.condition.guard, r.condition.render, r.propagateFailure⟩) ∧
    (∀ r ∈ rules, ∃! id, ∃ n, g.node? id = some n ∧ n.traversed = .ofList r.nodes) ∧
    (∀ before r after, rules = before ++ r :: after →
      ∃ id, (FailureBuilder.addSubsets (before.foldl FailureBuilder.addRule {}) r.nodes).graph.walk? r.nodes =
        some id) ∧
    (∀ id n, g.node? id = some n → (∀ r ∈ rules, NameSet.ofList r.nodes ≠ n.traversed) → n.fallbacks = []) := by
  intro g
  refine ⟨fun id n hn => fallbacks_ofRules hrules hn, fun r hr => existsUnique_node_of_rule hr (hrules r hr).1,
    fun before r after hsplit => ?_, fun id n hn => fallbacks_eq_nil_of_forall_ne hrules hn⟩
  obtain ⟨hne, hnodup⟩ := hrules r (hsplit ▸ List.mem_append_right _ List.mem_cons_self)
  exact FailureBuilder.exists_walk?_behind before hne hnodup

/-- Two rules list one set in different orders, with a rule for a larger and one for a smaller set between them. -/
theorem ofRules_files_rules_reordered :
    let rules : List FailureRule :=
      [⟨["b", "a"], .nodes ["x"], true, .always⟩, ⟨["a", "b", "c"], .stopFlow, false, .always⟩,
        ⟨["a"], .nodes ["y"], false, .always⟩, ⟨["a", "b"], .nodes ["z"], false, .always⟩]
    (∀ r ∈ rules, r.nodes ≠ [] ∧ r.nodes.Nodup) ∧
    (∃ id n, (ofRules rules).node? id = some n ∧ n.traversed = .ofList ["a", "b"] ∧
      n.fallbacks.map (·.fallback) = [.nodes ["x"], .nodes ["z"]]) ∧
    ∀ id n, (ofRules rules).node? id = some n → n.traversed = .ofList ["b", "c"] → n.fallbacks = [] := by
  intro rules
  have hrules : ∀ r ∈ rules, r.nodes ≠ [] ∧ r.nodes.Nodup := by decide
  obtain ⟨hfallbacks, hvertex, -, hnone⟩ := ofRules_files_rules hrules
  obtain ⟨id, ⟨n, hn, htraversed⟩, -⟩ := hvertex _ List.mem_cons_self
  refine ⟨hrules, ⟨id, n, hn, htraversed, ?_⟩, fun i m hm hset => hnone i m hm ?_⟩
  · rw [hfallbacks id n hn, htraversed]
    decide
  · rw [hset]
    decide

end FailureGraph

end TaskFlow
