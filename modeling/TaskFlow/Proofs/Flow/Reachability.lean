import TaskFlow.Proofs.Flow.Runs
import TaskFlow.Proofs.System.Build

/-!
# What a node depends on and what depends on it

- `mem_ancestors_iff_transGen`, `mem_descendants_iff_transGen`: the nodes that chains of edges lead from and to, in any
  graph, be the node in it or not. A node on a circle has a chain to itself and is left out all the same;
- `contains_ofEdges_iff`: the nodes of a graph are the names at the ends of the edges that have a destination. Every
  edge read from a declaration has one; `ofEdges_leaves_out_source`: of an edge without one the graph takes no name;
- `ofEdges_reaches`: all of this together, and both directions seen from either end.
-/

namespace TaskFlow

namespace FlowGraph

variable {edges : List Edge} {m n : String}

/-- Both ends of a chain are nodes of the graph. -/
theorem mem_names_of_transGen (h : Relation.TransGen (Feeds edges) m n) :
    m ∈ (ofEdges edges).names ∧ n ∈ (ofEdges edges).names := by
  obtain ⟨_, hfirst, -⟩ := Relation.TransGen.head'_iff.1 h
  obtain ⟨_, -, hlast⟩ := Relation.TransGen.tail'_iff.1 h
  exact ⟨(mem_names_of_feeds hfirst).1, (mem_names_of_feeds hlast).2⟩

/-- Between two nodes a chain has a step. -/
theorem reflTransGen_iff_transGen_of_ne (hne : m ≠ n) :
    Relation.ReflTransGen (Feeds edges) m n ↔ Relation.TransGen (Feeds edges) m n := by
  rw [Relation.reflTransGen_iff_eq_or_transGen]
  exact or_iff_right fun heq => hne heq.symm

/-- The ancestors of a name are the other names from which chains of edges lead to it. -/
theorem mem_ancestors_iff_transGen :
    m ∈ (ofEdges edges).ancestors n ↔ m ≠ n ∧ Relation.TransGen (Feeds edges) m n := by
  rw [mem_ancestors_iff, leads_predecessors_iff]
  refine and_congr_right fun hne => ?_
  rw [reflTransGen_iff_transGen_of_ne hne]
  exact and_iff_right_of_imp fun hchain => (mem_names_of_transGen hchain).2

/-- The descendants of a name are the other names to which chains of edges lead from it. -/
theorem mem_descendants_iff_transGen :
    n ∈ (ofEdges edges).descendants m ↔ n ≠ m ∧ Relation.TransGen (Feeds edges) m n := by
  by_cases hm : m ∈ (ofEdges edges).names
  · rw [mem_descendants_ofEdges_iff hm]
    exact and_congr_right fun hne => reflTransGen_iff_transGen_of_ne hne.symm
  · have hnone : n ∉ (ofEdges edges).descendants m := by
      rw [descendants, NameSet.mem_filter, NameSet.mem_ofList, mem_gather_iff]
      rintro ⟨⟨_, ha, hmem, -⟩, -⟩
      rw [List.mem_singleton.1 ha] at hmem
      exact hm hmem
    exact iff_of_false hnone fun h => hm (mem_names_of_transGen h.2).1

/-- The nodes of a graph are the names at the ends of the edges that have a destination. -/
theorem contains_ofEdges_iff :
    (ofEdges edges).contains n = true ↔ ∃ e ∈ edges, e.targets ≠ [] ∧ (n ∈ e.sources ∨ n ∈ e.targets) := by
  rw [contains_iff, mem_names_ofEdges_iff]
  refine exists_congr fun e => and_congr_right fun _ => ?_
  constructor
  · rintro (htarget | ⟨hne, hsource⟩)
    · exact ⟨List.ne_nil_of_mem htarget, Or.inr htarget⟩
    · exact ⟨hne, Or.inl hsource⟩
  · rintro ⟨hne, hsource | htarget⟩
    · exact Or.inr ⟨hne, hsource⟩
    · exact Or.inl htarget

/-- The names of all edges are too many: of an edge without a destination, the source is no node. -/
theorem ofEdges_leaves_out_source :
    let edges : List Edge := [⟨["A"], [], .always, none, none⟩]
    (ofEdges edges).contains "A" = false ∧
      ¬∀ n, (ofEdges edges).contains n = true ↔ ∃ e ∈ edges, n ∈ e.sources ∨ n ∈ e.targets := by
  intro edges
  have hout : (ofEdges edges).contains "A" = false := rfl
  refine ⟨hout, fun hnames => ?_⟩
  have hin := (hnames "A").2 ⟨_, List.mem_cons_self, Or.inl List.mem_cons_self⟩
  rw [hout] at hin
  cases hin

/-- Every edge that is read from a declaration has a destination, so none of its names is left out. -/
theorem contains_ofEdges_iff_of_read {s : Scope} {decls : List EdgeDecl}
    (hread : decls.mapM (Edge.ofDecl s) = .ok edges) :
    (ofEdges edges).contains n = true ↔ ∃ e ∈ edges, n ∈ e.sources ∨ n ∈ e.targets := by
  rw [contains_ofEdges_iff]
  refine exists_congr fun e => and_congr_right fun he => and_iff_right ?_
  obtain ⟨decl, -, hdecl⟩ := forall₂_of_mem (Except.mapM_eq_ok_iff.1 hread).flip he
  exact Edge.targets_ne_nil_of_ofDecl hdecl

/-- **The graph of any edges**, with circles, loops and parallel edges: the ancestors of a name are the other names with
a chain of one or more steps to it, its descendants those with such a chain from it, so that either relation is the
other one reversed; a name that is no node has neither; and the nodes are the names at the ends of the edges that have a
destination, hence of all edges where these are read from declarations. -/
theorem ofEdges_reaches (edges : List Edge) :
    let g := ofEdges edges
    (∀ m n, m ∈ g.ancestors n ↔ m ≠ n ∧ Relation.TransGen (Feeds edges) m n) ∧
      (∀ m n, n ∈ g.descendants m ↔ n ≠ m ∧ Relation.TransGen (Feeds edges) m n) ∧
      (∀ m n, m ∈ g.ancestors n ↔ n ∈ g.descendants m) ∧
      (∀ n, g.contains n = false → g.ancestors n = .empty ∧ g.descendants n = .empty) ∧
      (∀ n, g.contains n = true ↔ ∃ e ∈ edges, e.targets ≠ [] ∧ (n ∈ e.sources ∨ n ∈ e.targets)) ∧
      ∀ (s : Scope) (decls : List EdgeDecl), decls.mapM (Edge.ofDecl s) = .ok edges →
        ∀ n, g.contains n = true ↔ ∃ e ∈ edges, n ∈ e.sources ∨ n ∈ e.targets := by
  intro g
  refine ⟨fun _ _ => mem_ancestors_iff_transGen, fun _ _ => mem_descendants_iff_transGen, fun m n => ?_,
    fun n hn => ?_, fun _ => contains_ofEdges_iff, fun _ _ hread _ => contains_ofEdges_iff_of_read hread⟩
  · rw [mem_ancestors_iff_transGen, mem_descendants_iff_transGen, ne_comm]
  · have hname : n ∉ g.names := fun hmem => by
      rw [contains_iff.2 hmem] at hn
      cases hn
    constructor
    · refine NameSet.eq_empty_iff.2 fun x hx => hname ?_
      exact (mem_names_of_transGen (mem_ancestors_iff_transGen.1 hx).2).2
    · refine NameSet.eq_empty_iff.2 fun x hx => hname ?_
      exact (mem_names_of_transGen (mem_descendants_iff_transGen.1 hx).2).1

/-- On a circle with a loop and parallel edges: what two steps lead to is found, a node is not found from itself, and no
declared name is left out. -/
theorem ofEdges_reaches_circle :
    let scope : Scope := {
      settings := GlobalSettings.ofDecl {}
      registry := .empty
      tasks := .ofList [("a", .named "a" "app"), ("b", .named "b" "app"), ("c", .named "c" "app")]
      flowNames := .empty }
    let edge source target : Edge := ⟨[source], [target], .always, none, none⟩
    let edges := [edge "b" "c", edge "a" "b", edge "b" "a", edge "b" "b", edge "a" "b"]
    let decls : List EdgeDecl := edges.map fun e => { sources := some e.sources, targets := some e.targets }
    let g := ofEdges edges
    decls.mapM (Edge.ofDecl scope) = .ok edges ∧ "a" ∈ g.ancestors "c" ∧ "c" ∈ g.descendants "a" ∧
      "b" ∉ g.ancestors "b" ∧ g.contains "c" = true ∧ g.contains "d" = false := by
  intro scope edge edges decls g
  have hread : decls.mapM (Edge.ofDecl scope) = .ok edges := rfl
  have hbc : edge "b" "c" ∈ edges := List.mem_cons_self
  have hab : edge "a" "b" ∈ edges := List.mem_cons_of_mem _ List.mem_cons_self
  have hchain : Relation.TransGen (Feeds edges) "a" "c" :=
    .tail (.single ⟨_, hab, List.mem_cons_self, List.mem_cons_self⟩) ⟨_, hbc, List.mem_cons_self, List.mem_cons_self⟩
  obtain ⟨hancestors, -, hreversed, -, -, hnames⟩ := ofEdges_reaches edges
  have hancestor : "a" ∈ g.ancestors "c" := (hancestors "a" "c").2 ⟨by decide, hchain⟩
  have hself : "b" ∉ g.ancestors "b" := fun hmem => ((hancestors "b" "b").1 hmem).1 rfl
  have hnode : g.contains "c" = true :=
    (hnames scope decls hread "c").2 ⟨_, hbc, Or.inr List.mem_cons_self⟩
  exact ⟨hread, hancestor, (hreversed "a" "c").1 hancestor, hself, hnode, rfl⟩

end FlowGraph

end TaskFlow
