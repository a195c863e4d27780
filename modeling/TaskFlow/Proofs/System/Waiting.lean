import TaskFlow.Proofs.Data.Reach
import TaskFlow.Proofs.System.Consistency

/-!
# What a flow waits for

- `Flow.CanStart`: the nodes that can start, the least set closed under the edges and the failure rules of a flow;
- `Flow.not_canStart_of_traps`: nodes that wait for one another never start;
- `Flow.canStart_or_stuckOn`: a node that cannot start waits for a circle of nodes or for one that nothing starts;
- `System.canStart_or_waits_in_circle`: the checks rule out that a task is nowhere started, circles they let pass.
-/

namespace TaskFlow

namespace Flow

variable {f : Flow} {x y : String}

/-- **The nodes that can start**: the least set with the destinations of every edge whose sources are all in it, those
of starting edges to begin with, and the fallback nodes of every rule whose nodes are all in it. -/
inductive CanStart (f : Flow) : String → Prop where
  | edge {e : Edge} {x : String} (he : e ∈ f.edges) (hsources : ∀ y ∈ e.sources, CanStart f y) (hx : x ∈ e.targets) :
      CanStart f x
  | fallback {r : FailureRule} {x : String} (hr : r ∈ f.rules) (hnodes : ∀ y ∈ r.nodes, CanStart f y)
      (hx : x ∈ r.fallback.started) : CanStart f x

/-- An edge or a rule that would start `x` waits for `y`. -/
def Awaits (f : Flow) (x y : String) : Prop :=
  (∃ e ∈ f.edges, x ∈ e.targets ∧ y ∈ e.sources) ∨ ∃ r ∈ f.rules, x ∈ r.fallback.started ∧ y ∈ r.nodes

/-- A node that cannot start waits for another one, or itself, that cannot start either. -/
def StuckOn (f : Flow) (x y : String) : Prop := f.Awaits x y ∧ ¬f.CanStart x ∧ ¬f.CanStart y

theorem mem_sourceNodes_of_awaits (h : f.Awaits x y) : y ∈ f.sourceNodes := by
  rcases h with ⟨e, he, -, hy⟩ | ⟨r, hr, -, hy⟩
  · exact mem_sourceNodes_iff.2 (Or.inl ⟨e, he, hy⟩)
  · exact mem_sourceNodes_iff.2 (Or.inr ⟨r, hr, hy⟩)

/-- What an edge or a rule leads to cannot start only for a node in front of it that cannot. -/
theorem exists_stuckOn (hx : x ∈ f.destinationNodes) (hnot : ¬f.CanStart x) : ∃ y, f.StuckOn x y := by
  by_contra hnone
  have hfree : ∀ y, f.Awaits x y → f.CanStart y := fun y hy =>
    by_contra fun hynot => hnone ⟨y, hy, hnot, hynot⟩
  refine hnot ?_
  rcases mem_destinationNodes_iff.1 hx with hedge | hfallback
  · obtain ⟨e, he, hxe⟩ := mem_edgeTargets_iff.1 hedge
    exact .edge he (fun y hy => hfree y (Or.inl ⟨e, he, hxe, hy⟩)) hxe
  · obtain ⟨r, hr, hxr⟩ := mem_fallbackNodes_iff.1 hfallback
    exact .fallback hr (fun y hy => hfree y (Or.inr ⟨r, hr, hxr, hy⟩)) hxr

/-- A node that is reached from a stuck one is stuck as well. -/
theorem not_canStart_of_reflTransGen (hnot : ¬f.CanStart x) (h : Relation.ReflTransGen f.StuckOn x y) :
    ¬f.CanStart y := by
  rcases Relation.ReflTransGen.cases_tail h with heq | ⟨_, -, hstep⟩
  · exact heq ▸ hnot
  · exact hstep.2.2

/-- **What holds a node back**: a node of a flow can start, or waits, from one node that cannot start to the next, for
one that waits for itself in this way or that nothing in the flow starts. -/
theorem canStart_or_stuckOn (hx : x ∈ f.usedNodes) :
    f.CanStart x ∨ ∃ y, Relation.ReflTransGen f.StuckOn x y ∧
      (Relation.TransGen f.StuckOn y y ∨ y ∈ f.sourceNodes ∧ y ∉ f.destinationNodes) := by
  by_cases hnot : f.CanStart x
  · exact Or.inl hnot
  right
  have hused : ∀ y, Relation.ReflTransGen f.StuckOn x y → y ∈ f.usedNodes.names := by
    intro y hy
    rcases Relation.ReflTransGen.cases_tail hy with heq | ⟨_, -, hstep⟩
    · exact heq ▸ hx
    · exact mem_usedNodes_iff.2 (Or.inl (mem_sourceNodes_of_awaits hstep.1))
  by_cases hstarted : ∀ y, Relation.ReflTransGen f.StuckOn x y → y ∈ f.destinationNodes
  · obtain ⟨y, hy, hcircle⟩ := exists_circle hused fun y hy =>
      exists_stuckOn (hstarted y hy) (not_canStart_of_reflTransGen hnot hy)
    exact ⟨y, hy, Or.inl hcircle⟩
  · push Not at hstarted
    obtain ⟨y, hy, hunstarted⟩ := hstarted
    exact ⟨y, hy, Or.inr ⟨(mem_usedNodes_iff.1 (hused y hy)).resolve_right hunstarted, hunstarted⟩⟩

/-- Every edge and every rule that would start one of the nodes waits for one of them. -/
def Traps (f : Flow) (names : List String) : Prop :=
  (∀ e ∈ f.edges, (∃ x ∈ names, x ∈ e.targets) → ∃ y ∈ names, y ∈ e.sources) ∧
    ∀ r ∈ f.rules, (∃ x ∈ names, x ∈ r.fallback.started) → ∃ y ∈ names, y ∈ r.nodes

instance (f : Flow) (names : List String) : Decidable (f.Traps names) :=
  inferInstanceAs (Decidable (_ ∧ _))

/-- Nodes that wait for one another never start: by induction on how one of them would. -/
theorem not_canStart_of_traps {names : List String} (h : f.Traps names) (hx : x ∈ names) : ¬f.CanStart x := by
  intro hstart
  induction hstart with
  | edge he _ hxe ih =>
    obtain ⟨y, hy, hye⟩ := h.1 _ he ⟨_, hx, hxe⟩
    exact ih y hye hy
  | fallback hr _ hxr ih =>
    obtain ⟨y, hy, hyr⟩ := h.2 _ hr ⟨_, hx, hxr⟩
    exact ih y hyr hy

end Flow

namespace System

variable {s : System} {f : Flow} {x : String}

/-- **What an accepted flow waits for is started, but for circles**: a task that is a source of an edge, or named in a
failure rule, is a destination of an edge or a fallback node, and it can start, or it waits, from one node that cannot
start to the next, for a node that waits for itself in this way, or for a sub-flow that edges wait for and nothing in
the flow starts. -/
theorem canStart_or_waits_in_circle {docs : Documents} {config : Configuration} {registry : Registry}
    (hconfig : docs.check.result = .ok config) (hs : (System.build config registry).result = .ok s) {name : String}
    (hf : s.flows.get? name = some f) (htask : s.tasks.contains x = true)
    (hx : (∃ e ∈ f.edges, x ∈ e.sources) ∨ ∃ r ∈ f.rules, x ∈ r.nodes ∨ x ∈ r.fallback.started) :
    ((∃ e ∈ f.edges, x ∈ e.targets) ∨ ∃ r ∈ f.rules, x ∈ r.fallback.started) ∧
      (f.CanStart x ∨ ∃ y, Relation.ReflTransGen f.StuckOn x y ∧
        (Relation.TransGen f.StuckOn y y ∨
          s.kind? y = some .flow ∧ (∃ e ∈ f.edges, y ∈ e.sources) ∧ y ∉ f.destinationNodes)) := by
  have hbuilt := builtFrom_of_build (Documents.accepted_of_check hconfig) hs
  have hused : x ∈ f.usedNodes := by
    rw [Flow.mem_usedNodes_iff, Flow.mem_sourceNodes_iff, Flow.mem_destinationNodes_iff, Flow.mem_fallbackNodes_iff]
    rcases hx with hedge | ⟨r, hr, hnode | hstarted⟩
    · exact Or.inl (Or.inl hedge)
    · exact Or.inl (Or.inr ⟨r, hr, hnode⟩)
    · exact Or.inr (Or.inr ⟨r, hr, hstarted⟩)
  have hstarted : x ∈ f.destinationNodes := by
    rcases Flow.mem_usedNodes_iff.1 hused with hsource | hdestination
    · exact hbuilt.mem_destinationNodes_of_task hf hsource htask
    · exact hdestination
  obtain ⟨-, -, -, -, -, hrules, -⟩ := checkFlow_eq_ok_iff.1 (hbuilt.checked name f hf)
  constructor
  · rwa [Flow.mem_destinationNodes_iff, Flow.mem_edgeTargets_iff, Flow.mem_fallbackNodes_iff] at hstarted
  · refine (Flow.canStart_or_stuckOn hused).imp_right fun ⟨y, hy, hend⟩ => ⟨y, hy, hend.imp_right ?_⟩
    rintro ⟨hsource, hunstarted⟩
    refine ⟨(hbuilt.mem_destinationNodes_or_flow hf hsource).resolve_left hunstarted, ?_, hunstarted⟩
    refine (Flow.mem_sourceNodes_iff.1 hsource).resolve_right fun ⟨r, hr, hyr⟩ => hunstarted ?_
    exact (Flow.checkRule_eq_ok_iff.1 (hrules r hr)).1 y hyr

/-- An edge waits for a task that only the failure of its own destination starts: the two form a circle. -/
theorem canStart_or_waits_in_circle_fallback :
    let docs : Documents := {
      nodes := { flows := ["F"]
                 tasks := ["a", "b", "c"].map fun name => { name := name, moduleName := "app.tasks" } }
      flows := [⟨[
        { name := "F", edges := [{ sources := some [], targets := some ["a"] },
            { sources := some ["b"], targets := some ["c"] }]
          failures := [{ nodes := ["c"], fallback := .nodes ["b"] }] }]⟩] }
    let config : Configuration := ⟨docs.nodes, docs.definitions⟩
    docs.check.result = .ok config ∧ ∃ s f, (System.build config {}).result = .ok s ∧ s.flows.get? "F" = some f ∧
      s.tasks.contains "b" = true ∧ (∃ e ∈ f.edges, "b" ∈ e.sources) ∧ (∃ r ∈ f.rules, "b" ∈ r.fallback.started) ∧
      ∃ y, Relation.ReflTransGen f.StuckOn "b" y ∧ Relation.TransGen f.StuckOn y y := by
  intro docs config
  have hconfig : docs.check.result = .ok config := rfl
  have hbuilds : ((System.build config {}).result.toOption.any fun s => s.tasks.contains "b" &&
      (s.flows.get? "F").any fun f => (f.edges.any fun e => e.sources.contains "b") &&
        (f.edges.all fun e => e.sources.all s.tasks.contains && decide ("b" ∉ e.targets)) &&
          decide (f.Traps ["b", "c"])) = true := by decide
  obtain ⟨s, hs, h⟩ := Except.toOption_any_iff.1 hbuilds
  simp only [Bool.and_eq_true, Option.any_eq_true, List.any_eq_true, List.all_eq_true, List.contains_iff_mem,
    decide_eq_true_eq] at h
  obtain ⟨htask, f, hf, ⟨hsource, hedges⟩, htraps⟩ := h
  obtain ⟨hstarted, hwaits⟩ := canStart_or_waits_in_circle hconfig hs hf htask (Or.inl hsource)
  refine ⟨hconfig, s, f, hs, hf, htask, hsource, ?_, ?_⟩
  · refine hstarted.resolve_left ?_
    rintro ⟨e, he, hb⟩
    exact (hedges e he).2 hb
  · obtain ⟨y, hy, hcircle | ⟨hflow, ⟨e, he, hye⟩, -⟩⟩ :=
      hwaits.resolve_left (Flow.not_canStart_of_traps htraps (by decide))
    · exact ⟨y, hy, hcircle⟩
    · have hkind := kind?_eq_flow hflow
      rw [(hedges e he).1 y hye] at hkind
      cases hkind

/-- The edge that would start a task waits for this task, which is enough for the check of sources. -/
theorem build_accepts_task_waiting_for_itself :
    let docs : Documents := {
      nodes := { flows := ["F"], tasks := ["a", "b"].map fun name => { name := name, moduleName := "app.tasks" } }
      flows := [⟨[
        { name := "F", edges := [{ sources := some [], targets := some ["a"] },
            { sources := some ["b"], targets := some ["b"] }] }]⟩] }
    let config : Configuration := ⟨docs.nodes, docs.definitions⟩
    docs.check.result = .ok config ∧ ∃ s f, (System.build config {}).result = .ok s ∧ s.flows.get? "F" = some f ∧
      s.tasks.contains "b" = true ∧ (∃ e ∈ f.edges, "b" ∈ e.sources) ∧ ¬f.CanStart "b" := by
  intro docs config
  have hconfig : docs.check.result = .ok config := rfl
  have hbuilds : ((System.build config {}).result.toOption.any fun s => s.tasks.contains "b" &&
      (s.flows.get? "F").any fun f => (f.edges.any fun e => e.sources.contains "b") &&
        decide (f.Traps ["b"])) = true := by decide
  obtain ⟨s, hs, h⟩ := Except.toOption_any_iff.1 hbuilds
  simp only [Bool.and_eq_true, Option.any_eq_true, List.any_eq_true, List.contains_iff_mem, decide_eq_true_eq] at h
  obtain ⟨htask, f, hf, hsource, htraps⟩ := h
  exact ⟨hconfig, s, f, hs, hf, htask, hsource, Flow.not_canStart_of_traps htraps (by decide)⟩

end System

end TaskFlow
