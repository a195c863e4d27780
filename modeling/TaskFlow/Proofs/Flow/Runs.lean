import Mathlib.Logic.Relation
import TaskFlow.Proofs.Flow.Graph

/-!
# What runs when only planned edges fire

- `Feeds`: one node is a source of an edge to another; `mem_ancestors_ofEdges_iff`, `mem_descendants_ofEdges_iff`:
  ancestors and descendants are the nodes that chains of such steps lead from and to;
- `Runs`: the nodes that run when given edges fire as soon as all of their sources have run;
- `runs_edgesAt_plan`: what is needed runs when the planned edges fire, if it runs when all edges do;
- `Flow.selectiveEdges_run`: a selective run reaches all that its tasks depend on.
-/

namespace TaskFlow

/-- Some edge leads from `x` to `y`: the second node depends on the first. -/
def Feeds (edges : List Edge) (x y : String) : Prop := ∃ e ∈ edges, x ∈ e.sources ∧ y ∈ e.targets

/-- **The nodes that run** when edges fire: the least set with the destinations of every edge whose sources are all in
it. A starting edge, which has no sources, fires at once. -/
inductive Runs (fired : List Edge) : String → Prop where
  | fire {e : Edge} {x : String} (he : e ∈ fired) (hsources : ∀ y ∈ e.sources, Runs fired y) (hx : x ∈ e.targets) :
      Runs fired x

/-- More edges let more nodes run. -/
theorem Runs.mono {fired fired' : List Edge} (hsub : ∀ e ∈ fired, e ∈ fired') {x : String} (h : Runs fired x) :
    Runs fired' x := by
  induction h with
  | fire he _ hx ih => exact .fire (hsub _ he) ih hx

/-- The edges with given numbers. -/
def edgesAt (edges : List Edge) (numbers : List Nat) : List Edge := numbers.filterMap (edges[·]?)

theorem mem_edgesAt_iff {edges : List Edge} {numbers : List Nat} {e : Edge} :
    e ∈ edgesAt edges numbers ↔ ∃ i ∈ numbers, edges[i]? = some e := by
  simp [edgesAt]

namespace FlowGraph

variable {edges : List Edge} {targets : List String} {x y : String}

theorem mem_successors_ofEdges_iff : y ∈ (ofEdges edges).successors x ↔ Feeds edges x y :=
  mem_successors_iff.trans mem_arcs_ofEdges_iff

/-- An edge leads from a node of the graph to another. -/
theorem mem_names_of_feeds (h : Feeds edges x y) : x ∈ (ofEdges edges).names ∧ y ∈ (ofEdges edges).names := by
  obtain ⟨e, he, hx, hy⟩ := h
  have hname : x ∈ (ofEdges edges).names :=
    mem_names_ofEdges_iff.2 ⟨e, he, Or.inr ⟨List.ne_nil_of_mem hy, hx⟩⟩
  exact ⟨hname, mem_names_of_mem_targets he hy⟩

theorem leads_predecessors_iff :
    Leads (ofEdges edges).predecessors (ofEdges edges).names y x ↔ Relation.ReflTransGen (Feeds edges) x y := by
  rw [← Relation.reflTransGen_swap]
  have hstep : (fun a b => b ∈ (ofEdges edges).predecessors a ∧ b ∈ (ofEdges edges).names) =
      Function.swap (Feeds edges) := by
    funext a b
    rw [mem_predecessors_ofEdges_iff]
    exact propext ⟨fun h => h.1, fun h => ⟨h, (mem_names_of_feeds h).1⟩⟩
  rw [Leads, hstep]

theorem leads_successors_iff :
    Leads (ofEdges edges).successors (ofEdges edges).names x y ↔ Relation.ReflTransGen (Feeds edges) x y := by
  have hstep : (fun a b => b ∈ (ofEdges edges).successors a ∧ b ∈ (ofEdges edges).names) = Feeds edges := by
    funext a b
    rw [mem_successors_ofEdges_iff]
    exact propext ⟨fun h => h.1, fun h => ⟨h, (mem_names_of_feeds h).2⟩⟩
  rw [Leads, hstep]

/-- The ancestors of a node are the other nodes that it depends on. -/
theorem mem_ancestors_ofEdges_iff (hy : y ∈ (ofEdges edges).names) :
    x ∈ (ofEdges edges).ancestors y ↔ x ≠ y ∧ Relation.ReflTransGen (Feeds edges) x y := by
  rw [mem_ancestors_iff, leads_predecessors_iff]
  simp [hy]

/-- The descendants of a node are the other nodes that depend on it. -/
theorem mem_descendants_ofEdges_iff (hx : x ∈ (ofEdges edges).names) :
    y ∈ (ofEdges edges).descendants x ↔ y ≠ x ∧ Relation.ReflTransGen (Feeds edges) x y := by
  rw [descendants, NameSet.mem_filter, NameSet.mem_ofList, mem_gather_iff, bne_iff_ne, and_comm]
  simp only [List.mem_singleton, exists_eq_left, leads_successors_iff, hx, true_and]

theorem mem_needed_ofEdges_iff (htargets : ∀ t ∈ targets, t ∈ (ofEdges edges).names) :
    x ∈ (ofEdges edges).needed targets ↔ ∃ t ∈ targets, Relation.ReflTransGen (Feeds edges) x t := by
  rw [mem_needed_iff]
  refine exists_congr fun t => and_congr_right fun ht => ?_
  rw [mem_ancestors_ofEdges_iff (htargets t ht)]
  constructor
  · rintro (rfl | ⟨-, hchain⟩)
    · exact .refl
    · exact hchain
  · intro hchain
    by_cases hxt : x = t
    · exact Or.inl hxt
    · exact Or.inr ⟨hxt, hchain⟩

/-- What feeds a needed node is needed. -/
theorem mem_needed_of_feeds (htargets : ∀ t ∈ targets, t ∈ (ofEdges edges).names) (h : Feeds edges x y)
    (hy : y ∈ (ofEdges edges).needed targets) : x ∈ (ofEdges edges).needed targets := by
  obtain ⟨t, ht, hchain⟩ := (mem_needed_ofEdges_iff htargets).1 hy
  exact (mem_needed_ofEdges_iff htargets).2 ⟨t, ht, .head h hchain⟩

/-- **A plan is enough**: what is needed runs when the planned edges fire, if it runs when all edges do. By induction on
how it comes to run: the sources of the edge that lets it run are needed as well, so that the edge is planned. -/
theorem runs_edgesAt_plan (htargets : ∀ t ∈ targets, t ∈ (ofEdges edges).names) (h : Runs edges x)
    (hneeded : x ∈ (ofEdges edges).needed targets) :
    Runs (edgesAt edges ((ofEdges edges).plan edges targets)) x := by
  induction h with
  | @fire e x he _ hx ih =>
    have hsources : ∀ y ∈ e.sources, y ∈ (ofEdges edges).needed targets :=
      fun y hy => mem_needed_of_feeds htargets ⟨e, he, hy, hx⟩ hneeded
    obtain ⟨i, hi⟩ := List.mem_iff_getElem?.1 he
    have hplanned : i ∈ (ofEdges edges).plan edges targets := mem_plan_iff.2 ⟨e, hi, ⟨x, hx, hneeded⟩, hsources⟩
    exact .fire (mem_edgesAt_iff.2 ⟨i, hplanned, hi⟩) (fun y hy => ih y hy (hsources y hy)) hx

end FlowGraph

namespace Flow

variable {f : Flow} {tasks : List String} {runSubsequent : Bool}

/-- The targets of a selective run are its tasks and, if these are to run too, the nodes that depend on them. -/
theorem mem_widen_iff (htasks : ∀ t ∈ tasks, t ∈ f.graph.names) {x : String} :
    x ∈ f.widen runSubsequent tasks ↔
      ∃ t ∈ tasks, x = t ∨ runSubsequent = true ∧ Relation.ReflTransGen (Feeds f.edges) t x := by
  rw [widen, List.mem_flatMap]
  refine exists_congr fun t => and_congr_right fun ht => ?_
  rw [List.mem_cons]
  have hdescendants : x ∈ (f.graph.descendants t).names ↔
      x ≠ t ∧ Relation.ReflTransGen (Feeds f.edges) t x :=
    FlowGraph.mem_descendants_ofEdges_iff (htasks t ht)
  cases runSubsequent with
  | false => simp
  | true =>
    simp only [if_true, hdescendants, true_and]
    constructor
    · rintro (hx | ⟨-, hchain⟩)
      · exact Or.inl hx
      · exact Or.inr hchain
    · intro h
      by_cases hxt : x = t
      · exact Or.inl hxt
      · exact Or.inr ⟨hxt, h.resolve_left hxt⟩

theorem mem_names_of_mem_widen (htasks : ∀ t ∈ tasks, t ∈ f.graph.names) {x : String}
    (hx : x ∈ f.widen runSubsequent tasks) : x ∈ f.graph.names := by
  obtain ⟨t, ht, rfl | ⟨-, hchain⟩⟩ := (mem_widen_iff htasks).1 hx
  · exact htasks x ht
  · rcases Relation.ReflTransGen.cases_tail hchain with heq | ⟨_, -, hfeeds⟩
    · exact heq ▸ htasks t ht
    · exact (FlowGraph.mem_names_of_feeds hfeeds).2

/-- **A selective run reaches what its tasks depend on**: if only the selected edges fire, each task and each node that
it depends on runs just if it runs when all edges fire; so does each node that depends on a task, if these are to run
too. -/
theorem selectiveEdges_run (f : Flow) {tasks : List String} (htasks : ∀ t ∈ tasks, f.graph.contains t = true)
    (runSubsequent : Bool) :
    ∃ numbers, f.selectiveEdges tasks runSubsequent = .ok numbers ∧ ∀ t ∈ tasks, ∀ x,
      (Relation.ReflTransGen (Feeds f.edges) x t ∨
        runSubsequent = true ∧ Relation.ReflTransGen (Feeds f.edges) t x) →
      (Runs (edgesAt f.edges numbers) x ↔ Runs f.edges x) := by
  have hnames : ∀ t ∈ tasks, t ∈ f.graph.names := fun t ht => FlowGraph.contains_iff.1 (htasks t ht)
  refine ⟨_, selectiveEdges_eq_ok htasks runSubsequent, fun t ht x hx => ⟨fun h => ?_, fun h => ?_⟩⟩
  · refine h.mono fun e he => ?_
    obtain ⟨i, -, hi⟩ := mem_edgesAt_iff.1 he
    exact List.mem_of_getElem? hi
  · have htargets : ∀ u ∈ f.widen runSubsequent tasks, u ∈ (FlowGraph.ofEdges f.edges).names :=
      fun u hu => mem_names_of_mem_widen hnames hu
    refine FlowGraph.runs_edgesAt_plan htargets h ((FlowGraph.mem_needed_ofEdges_iff htargets).2 ?_)
    rcases hx with hchain | hsubsequent
    · exact ⟨t, mem_widen_of_mem runSubsequent ht, hchain⟩
    · exact ⟨x, (mem_widen_iff hnames).2 ⟨t, ht, Or.inr hsubsequent⟩, .refl⟩

/-- A flow with a cycle, two ways to run `b`, a join before `d` and an edge behind it. -/
def joining : Flow where
  name := "joining"
  edges := [
    ⟨[], ["a"], .always, none, none⟩,
    ⟨["a"], ["b", "c"], .always, none, none⟩,
    ⟨["c"], ["b"], .always, none, none⟩,
    ⟨["b", "c"], ["d"], .always, none, none⟩,
    ⟨["d"], ["a"], .always, none, none⟩,
    ⟨["d"], ["e"], .always, none, none⟩]
  rules := []
  nowait := .empty
  eagerFailures := .empty
  propagation := {}
  nodeArgsFromFirst := false
  cache := none
  sampling := ⟨⟨"sampling", "constant"⟩, Dict.empty⟩
  throttling := none
  maxRetry := 0
  retryCountdown := 0
  queue := none

/-- The join of a flow runs along its selected edges. -/
theorem selectiveEdges_run_join :
    (∀ t ∈ ["d"], joining.graph.contains t = true) ∧
      ∃ numbers, joining.selectiveEdges ["d"] false = .ok numbers ∧ Runs (edgesAt joining.edges numbers) "d" := by
  have htasks : ∀ t ∈ ["d"], joining.graph.contains t = true := by decide
  refine ⟨htasks, ?_⟩
  obtain ⟨numbers, hnumbers, hruns⟩ := selectiveEdges_run joining htasks false
  have ha : Runs joining.edges "a" :=
    .fire (e := ⟨[], ["a"], .always, none, none⟩) (by simp [joining]) (by simp) (by simp)
  have hbc : ∀ x ∈ ["b", "c"], Runs joining.edges x := fun x hx =>
    .fire (e := ⟨["a"], ["b", "c"], .always, none, none⟩) (by simp [joining]) (by simpa using ha) hx
  have hd : Runs joining.edges "d" :=
    .fire (e := ⟨["b", "c"], ["d"], .always, none, none⟩) (by simp [joining]) hbc (by simp)
  exact ⟨numbers, hnumbers, (hruns "d" (by simp) "d" (Or.inl .refl)).2 hd⟩

end Flow

end TaskFlow
