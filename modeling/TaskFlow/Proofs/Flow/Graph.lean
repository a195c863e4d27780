import TaskFlow.Flow.Basic
import TaskFlow.Proofs.Data.NameSet
import TaskFlow.Proofs.Data.Reach

/-!
# What the plan of a flow contains

- `mem_names_ofEdges_iff`, `mem_arcs_ofEdges_iff`: the nodes and the arcs of a graph, seen in the edges;
- `mem_ancestors_iff`, `mem_needed_iff`, `mem_plan_iff`: what a plan asks for, one lemma for each step;
- `mem_plan_of_mem_targets`: every edge into a target is planned, since its sources are needed with the target;
- `Flow.selectiveEdges_eq_ok`: the edges for nodes of the flow are the plan for these nodes and what depends on them.
-/

namespace TaskFlow

namespace FlowGraph

variable {g : FlowGraph} {edges : List Edge} {x y : String} {targets : List String}

@[simp] theorem contains_iff : g.contains x = true ↔ x ∈ g.names := List.contains_iff_mem

/-- The nodes are the destinations of the edges and the sources of edges that have one. -/
theorem mem_names_ofEdges_iff :
    x ∈ (ofEdges edges).names ↔ ∃ e ∈ edges, x ∈ e.targets ∨ e.targets ≠ [] ∧ x ∈ e.sources := by
  have hedge : ∀ e : Edge, x ∈ edgeNames e ↔ x ∈ e.targets ∨ e.targets ≠ [] ∧ x ∈ e.sources := by
    intro e
    simp only [edgeNames, List.mem_flatMap, List.mem_cons]
    constructor
    · rintro ⟨target, htarget, rfl | hx⟩
      · exact Or.inl htarget
      · exact Or.inr ⟨List.ne_nil_of_mem htarget, hx⟩
    · rintro (hx | ⟨hne, hx⟩)
      · exact ⟨x, hx, Or.inl rfl⟩
      · obtain ⟨target, htarget⟩ := List.exists_mem_of_ne_nil _ hne
        exact ⟨target, htarget, Or.inr hx⟩
  simp only [ofEdges, List.mem_eraseDups, List.mem_flatMap, hedge]

theorem mem_names_of_mem_targets {e : Edge} (he : e ∈ edges) (hx : x ∈ e.targets) : x ∈ (ofEdges edges).names :=
  mem_names_ofEdges_iff.2 ⟨e, he, Or.inl hx⟩

theorem mem_predecessors_iff : x ∈ g.predecessors y ↔ (x, y) ∈ g.arcs := by
  simp [predecessors]

theorem mem_successors_iff : y ∈ g.successors x ↔ (x, y) ∈ g.arcs := by
  simp [successors]

/-- There is an arc just if an edge leads from one node to the other. -/
theorem mem_arcs_ofEdges_iff : (x, y) ∈ (ofEdges edges).arcs ↔ ∃ e ∈ edges, x ∈ e.sources ∧ y ∈ e.targets := by
  simp only [ofEdges, List.mem_flatMap, edgeArcs, List.mem_map]
  constructor
  · rintro ⟨e, he, target, htarget, source, hsource, heq⟩
    cases heq
    exact ⟨e, he, hsource, htarget⟩
  · rintro ⟨e, he, hx, hy⟩
    exact ⟨e, he, y, hy, x, hx, rfl⟩

/-- A node stands one arc back just if an edge leads from it. -/
theorem mem_predecessors_ofEdges_iff :
    x ∈ (ofEdges edges).predecessors y ↔ ∃ e ∈ edges, x ∈ e.sources ∧ y ∈ e.targets :=
  mem_predecessors_iff.trans mem_arcs_ofEdges_iff

/-- The ancestors of a node are the other nodes from which arcs lead to it. -/
theorem mem_ancestors_iff : x ∈ g.ancestors y ↔ x ≠ y ∧ y ∈ g.names ∧ Leads g.predecessors g.names y x := by
  rw [ancestors, NameSet.mem_filter, NameSet.mem_ofList, mem_gather_iff, bne_iff_ne, and_comm]
  simp only [List.mem_singleton, exists_eq_left]

/-- The targets are needed, and so are their ancestors. -/
theorem mem_needed_iff : x ∈ g.needed targets ↔ ∃ t ∈ targets, x = t ∨ x ∈ g.ancestors t := by
  have hfold : ∀ set : NameSet,
      x ∈ targets.foldl (fun set target => (set.insert target).union (g.ancestors target).names) set ↔
        x ∈ set ∨ ∃ t ∈ targets, x = t ∨ x ∈ g.ancestors t := by
    induction targets with
    | nil => simp
    | cons t targets ih =>
      intro set
      have hstep : x ∈ (set.insert t).union (g.ancestors t).names ↔ (x = t ∨ x ∈ set) ∨ x ∈ g.ancestors t := by
        rw [NameSet.mem_union, NameSet.mem_insert]
        rfl
      rw [List.foldl_cons, ih, hstep, List.exists_mem_cons_iff]
      simp only [or_assoc, or_left_comm]
  rw [needed, hfold]
  exact or_iff_right NameSet.notMem_empty

theorem mem_edgeIndices_iff {p : Edge → Bool} {i : Nat} :
    i ∈ edgeIndices p edges ↔ ∃ e, edges[i]? = some e ∧ p e = true := by
  simp only [edgeIndices, List.mem_filterMap, Prod.exists, List.mem_zipIdx_iff_getElem?]
  constructor
  · rintro ⟨e, j, he, hp⟩
    split at hp
    · rename_i hpe
      cases hp
      exact ⟨e, he, hpe⟩
    · cases hp
  · rintro ⟨e, he, hpe⟩
    exact ⟨e, i, he, if_pos hpe⟩

/-- An edge is planned just if it leads to a needed node out of needed nodes only. -/
theorem mem_plan_iff {i : Nat} :
    i ∈ g.plan edges targets ↔
      ∃ e, edges[i]? = some e ∧ (∃ x ∈ e.targets, x ∈ g.needed targets) ∧ ∀ x ∈ e.sources, x ∈ g.needed targets := by
  simp only [plan, mem_edgeIndices_iff, leadsTo, Bool.and_eq_true, List.any_eq_true, List.all_eq_true,
    NameSet.contains_iff]

/-- Every edge into a target is planned. -/
theorem mem_plan_of_mem_targets {i : Nat} {e : Edge} {t : String} (he : edges[i]? = some e) (ht : t ∈ targets)
    (hto : t ∈ e.targets) : i ∈ (ofEdges edges).plan edges targets := by
  have hmem : e ∈ edges := List.mem_of_getElem? he
  refine mem_plan_iff.2 ⟨e, he, ⟨t, hto, mem_needed_iff.2 ⟨t, ht, Or.inl rfl⟩⟩, fun x hx => ?_⟩
  refine mem_needed_iff.2 ⟨t, ht, ?_⟩
  by_cases hxt : x = t
  · exact Or.inl hxt
  · have harc : x ∈ (ofEdges edges).predecessors t := mem_predecessors_ofEdges_iff.2 ⟨e, hmem, hx, hto⟩
    have hname : x ∈ (ofEdges edges).names :=
      mem_names_ofEdges_iff.2 ⟨e, hmem, Or.inr ⟨List.ne_nil_of_mem hto, hx⟩⟩
    exact Or.inr (mem_ancestors_iff.2 ⟨hxt, mem_names_of_mem_targets hmem hto, .single ⟨harc, hname⟩⟩)

end FlowGraph

namespace Flow

variable {f : Flow} {targets : List String}

/-- Nodes, each with everything that depends on it if that is to run too. -/
def widen (f : Flow) (runSubsequent : Bool) (targets : List String) : List String :=
  targets.flatMap fun t => t :: if runSubsequent then (f.graph.descendants t).names else []

theorem mem_widen_of_mem {t : String} (runSubsequent : Bool) (h : t ∈ targets) : t ∈ f.widen runSubsequent targets :=
  List.mem_flatMap.2 ⟨t, h, List.mem_cons_self⟩

/-- Nodes of the flow can always be planned. -/
theorem selectiveEdges_eq_ok (h : ∀ t ∈ targets, f.graph.contains t = true) (runSubsequent : Bool) :
    f.selectiveEdges targets runSubsequent = .ok (f.graph.plan f.edges (f.widen runSubsequent targets)) := by
  have htargets : f.selectiveTargets runSubsequent targets = .ok (f.widen runSubsequent targets) := by
    induction targets with
    | nil => rfl
    | cons t targets ih =>
      rw [selectiveTargets, h t List.mem_cons_self, ih fun u hu => h u (List.mem_cons_of_mem _ hu)]
      rfl
  rw [selectiveEdges, htargets]
  rfl

theorem mem_edgeTargets_iff {x : String} : x ∈ f.edgeTargets ↔ ∃ e ∈ f.edges, x ∈ e.targets := by
  rw [edgeTargets, NameSet.mem_ofList, List.mem_flatMap]

theorem mem_fallbackNodes_iff {x : String} : x ∈ f.fallbackNodes ↔ ∃ r ∈ f.rules, x ∈ r.fallback.started := by
  rw [fallbackNodes, NameSet.mem_ofList, List.mem_flatMap]

/-- What a flow starts, it starts by an edge or as a fallback. -/
theorem mem_destinationNodes_iff {x : String} : x ∈ f.destinationNodes ↔ x ∈ f.edgeTargets ∨ x ∈ f.fallbackNodes :=
  NameSet.mem_union

/-- What a flow waits for are sources of edges and nodes of failure rules. -/
theorem mem_sourceNodes_iff {x : String} :
    x ∈ f.sourceNodes ↔ (∃ e ∈ f.edges, x ∈ e.sources) ∨ ∃ r ∈ f.rules, x ∈ r.nodes := by
  rw [sourceNodes, NameSet.mem_union, NameSet.mem_ofList, List.mem_flatMap, List.mem_flatMap]

theorem mem_usedNodes_iff {x : String} : x ∈ f.usedNodes ↔ x ∈ f.sourceNodes ∨ x ∈ f.destinationNodes :=
  NameSet.mem_union

theorem contains_graph_of_mem_edgeTargets {x : String} (h : x ∈ f.edgeTargets) : f.graph.contains x = true := by
  obtain ⟨e, he, hx⟩ := mem_edgeTargets_iff.1 h
  exact FlowGraph.contains_iff.2 (FlowGraph.mem_names_of_mem_targets he hx)

end Flow

end TaskFlow
