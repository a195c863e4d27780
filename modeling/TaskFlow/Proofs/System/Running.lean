import TaskFlow.Proofs.System.References

/-!
# Which tasks a flow runs

- `Flow.Starts`, `Flow.Mentions`: an edge of a flow leads to a node, or has it at one of its ends;
- `System.RunsBy`: a flow or, if sub-flows are followed, one nested in it does so for a task;
- `BuiltFrom.runsTask_iff`: a flow runs what the edges on such a chain of flows mention;
- `runsTask_iff_of_sources_started`: these are the nodes that edges start where no edge waits for anything else.
-/

namespace TaskFlow

namespace Flow

/-- An edge of the flow starts a node. -/
def Starts (f : Flow) (x : String) : Prop := ∃ e ∈ f.edges, x ∈ e.targets

/-- An edge of the flow starts a node or waits for it. -/
def Mentions (f : Flow) (x : String) : Prop := ∃ e ∈ f.edges, x ∈ e.targets ∨ x ∈ e.sources

instance (f : Flow) (x : String) : Decidable (f.Starts x) := inferInstanceAs (Decidable (∃ e ∈ f.edges, x ∈ e.targets))

variable {f : Flow} {x : String}

theorem Starts.mentions (h : f.Starts x) : f.Mentions x := by
  obtain ⟨e, he, hx⟩ := h
  exact ⟨e, he, Or.inl hx⟩

end Flow

namespace System

variable {config : Configuration} {registry : Registry} {s : System} {starts starts' : Flow → String → Prop}
  {f : Flow} {name sub x task : String} {follow : Bool}

/-- A flow has another one as a sub-flow and starts it in the given sense. -/
def Nesting (s : System) (starts : Flow → String → Prop) (flow sub : String) : Prop :=
  ∃ f, s.flows.get? flow = some f ∧ sub ∈ s.subFlows f ∧ starts f sub

/-- The names of the flows that count for a flow: its own one and, if sub-flows are followed, those of the flows nested
in it, which may be nested in one another. -/
def Covers (s : System) (starts : Flow → String → Prop) (f : Flow) (follow : Bool) (name : String) : Prop :=
  name = f.name ∨ follow = true ∧ Relation.ReflTransGen (s.Nesting starts) f.name name

/-- One of the flows that count for a flow starts a task, in the sense in which flows start one another. -/
def RunsBy (s : System) (starts : Flow → String → Prop) (f : Flow) (task : String) (follow : Bool) : Prop :=
  ∃ name g, s.Covers starts f follow name ∧ s.flows.get? name = some g ∧ starts g task

/-- A sense of starting can be exchanged for another one that agrees on the task and on sub-flows, as far as the flows
that count for a flow go. By induction on the chain of nested flows: all flows on it count. -/
theorem RunsBy.imp (himp : ∀ name g, s.Covers starts f follow name → s.flows.get? name = some g →
      ∀ x, x = task ∨ x ∈ s.subFlows g → starts g x → starts' g x) (h : s.RunsBy starts f task follow) :
    s.RunsBy starts' f task follow := by
  obtain ⟨name, g, hcovers, hg, hstarts⟩ := h
  refine ⟨name, g, ?_, hg, himp name g hcovers hg task (Or.inl rfl) hstarts⟩
  rcases hcovers with rfl | ⟨rfl, hpath⟩
  · exact Or.inl rfl
  right
  refine ⟨rfl, ?_⟩
  clear hg
  induction hpath with
  | refl => exact .refl
  | tail hpath hstep ih =>
    obtain ⟨f', hf', hsub, hstarts'⟩ := hstep
    exact ih.tail ⟨f', hf', hsub, himp _ f' (Or.inr ⟨rfl, hpath⟩) hf' _ (Or.inr hsub) hstarts'⟩

namespace BuiltFrom

/-- The nodes of the graph of a flow are those that its edges mention. -/
theorem contains_graph_iff (h : s.BuiltFrom config registry) (hf : s.flows.get? name = some f) :
    f.graph.contains x = true ↔ f.Mentions x := by
  rw [FlowGraph.contains_iff]
  refine FlowGraph.mem_names_ofEdges_iff.trans (exists_congr fun e => and_congr_right fun he => ?_)
  rw [and_iff_right (h.targets_ne_nil hf he)]

theorem mem_startedFlows_iff_nesting (h : s.BuiltFrom config registry) :
    sub ∈ s.startedFlows name ↔ s.Nesting Flow.Mentions name sub :=
  mem_startedFlows_iff.trans <| exists_congr fun _ => and_congr_right fun hf => and_congr_right fun _ =>
    h.contains_graph_iff hf

/-- **What a flow runs**: the tasks that its edges mention and, if sub-flows are followed, those that edges of flows
nested in it mention. -/
theorem runsTask_iff (h : s.BuiltFrom config registry) (hf : s.flows.get? f.name = some f) :
    s.runsTask f task follow = true ↔ s.RunsBy Flow.Mentions f task follow := by
  have hstep : (fun x y => y ∈ s.startedFlows x) = s.Nesting Flow.Mentions := by
    funext x y
    exact propext h.mem_startedFlows_iff_nesting
  rw [runsTask_iff_reflTransGen hf, hstep]
  refine exists_congr fun name => exists_congr fun g => ?_
  constructor
  · rintro ⟨hg, hcontains, hcovers⟩
    exact ⟨hcovers, hg, (h.contains_graph_iff hg).1 hcontains⟩
  · rintro ⟨hcovers, hg, hmentions⟩
    exact ⟨hg, (h.contains_graph_iff hg).2 hmentions, hcovers⟩

end BuiltFrom

/-- **A flow runs what edges mention, not just what they start**: the flow itself, or a flow nested in it if sub-flows
are followed, mentions the task in an edge. So it runs whatever edges start in this way; and it runs nothing else where
no flow that counts has an edge that waits for the task, or for a sub-flow, without an edge that starts it. -/
theorem runsTask_iff_of_sources_started {docs : Documents} (hconfig : docs.check.result = .ok config)
    (hs : (System.build config registry).result = .ok s) (hf : s.flows.get? name = some f) (task : String)
    (follow : Bool) :
    (s.runsTask f task follow = true ↔ s.RunsBy Flow.Mentions f task follow) ∧
      (s.RunsBy Flow.Starts f task follow → s.runsTask f task follow = true) ∧
      ((∀ name g, s.Covers Flow.Mentions f follow name → s.flows.get? name = some g →
          ∀ e ∈ g.edges, ∀ x ∈ e.sources, x = task ∨ x ∈ s.subFlows g → g.Starts x) →
        (s.runsTask f task follow = true ↔ s.RunsBy Flow.Starts f task follow)) := by
  have hbuilt := builtFrom_of_build (Documents.accepted_of_check hconfig) hs
  have hname := hbuilt.name_eq hf
  subst hname
  have hruns : s.runsTask f task follow = true ↔ s.RunsBy Flow.Mentions f task follow := hbuilt.runsTask_iff hf
  have hall : s.RunsBy Flow.Starts f task follow → s.RunsBy Flow.Mentions f task follow :=
    RunsBy.imp fun _ _ _ _ _ _ hstarts => hstarts.mentions
  refine ⟨hruns, fun h => hruns.2 (hall h), fun hsources => ⟨fun h => ?_, fun h => hruns.2 (hall h)⟩⟩
  refine RunsBy.imp (fun name g hcovers hg x hx hmentions => ?_) (hruns.1 h)
  obtain ⟨e, he, htarget | hsource⟩ := hmentions
  · exact ⟨e, he, htarget⟩
  · exact hsources name g hcovers hg e he x hsource hx

/-- Two flows that start each other. -/
theorem runsTask_iff_of_sources_started_recursive :
    let docs : Documents := {
      nodes := { flows := ["F", "G"], tasks := [{ name := "a", moduleName := "app.tasks" }] }
      flows := [⟨[
        { name := "F", edges := [{ sources := some [], targets := some ["G"] }] },
        { name := "G", edges := [{ sources := some [], targets := some ["F"] },
            { sources := some ["F"], targets := some ["a"] }] }]⟩] }
    let config : Configuration := ⟨docs.nodes, docs.definitions⟩
    docs.check.result = .ok config ∧ ∃ s f, (System.build config {}).result = .ok s ∧ s.flows.get? "F" = some f ∧
      s.RunsBy Flow.Starts f "a" true ∧ ¬s.RunsBy Flow.Starts f "a" false := by
  intro docs config
  have hconfig : docs.check.result = .ok config := rfl
  have hbuilds : ((System.build config {}).result.toOption.any fun s =>
      (s.flows.values.all fun g => g.edges.all fun e => e.sources.all fun x => decide (g.Starts x)) &&
        (s.flows.get? "F").any fun f => s.runsTask f "a" true && !s.runsTask f "a" false) = true := by decide +kernel
  obtain ⟨s, hs, h⟩ := Except.toOption_any_iff.1 hbuilds
  simp only [Bool.and_eq_true, List.all_eq_true, Option.any_eq_true, decide_eq_true_eq, Bool.not_eq_true'] at h
  obtain ⟨hsources, f, hf, hfollowed, halone⟩ := h
  have hstarted : ∀ name g, s.flows.get? name = some g → ∀ e ∈ g.edges, ∀ x ∈ e.sources, g.Starts x :=
    fun name g hg => hsources g (Dict.mem_values_iff.2 ⟨name, hg⟩)
  have hruns : ∀ follow, s.runsTask f "a" follow = true ↔ s.RunsBy Flow.Starts f "a" follow := fun follow =>
    (runsTask_iff_of_sources_started hconfig hs hf "a" follow).2.2 fun name g _ hg e he x hx _ =>
      hstarted name g hg e he x hx
  refine ⟨hconfig, s, f, hs, hf, (hruns true).1 hfollowed, fun h => ?_⟩
  rw [(hruns false).2 h] at halone
  cases halone

/-- The task `t` is only a fallback, but an edge waits for it. -/
theorem runsTask_of_fallback_source :
    let docs : Documents := {
      nodes := { flows := ["F"]
                 tasks := ["a", "t", "b"].map fun name => { name := name, moduleName := "app.tasks" } }
      flows := [⟨[
        { name := "F", edges := [{ sources := some [], targets := some ["a"] },
            { sources := some ["t"], targets := some ["b"] }]
          failures := [{ nodes := ["a"], fallback := .nodes ["t"] }] }]⟩] }
    let config : Configuration := ⟨docs.nodes, docs.definitions⟩
    docs.check.result = .ok config ∧ ∃ s f, (System.build config {}).result = .ok s ∧ s.flows.get? "F" = some f ∧
      "t" ∈ f.fallbackNodes ∧ s.runsTask f "t" false = true ∧ ¬s.RunsBy Flow.Starts f "t" false := by
  intro docs config
  have hconfig : docs.check.result = .ok config := rfl
  have hbuilds : ((System.build config {}).result.toOption.any fun s => (s.flows.get? "F").any fun f =>
      f.fallbackNodes.contains "t" && f.name == "F" && s.runsTask f "t" false && !decide (f.Starts "t")) = true := by
    decide +kernel
  obtain ⟨s, hs, h⟩ := Except.toOption_any_iff.1 hbuilds
  simp only [Bool.and_eq_true, Option.any_eq_true, NameSet.contains_iff, beq_iff_eq, Bool.not_eq_true',
    decide_eq_false_iff_not] at h
  obtain ⟨f, hf, ⟨⟨hfallback, hname⟩, hruns⟩, hnot⟩ := h
  refine ⟨hconfig, s, f, hs, hf, hfallback, hruns, ?_⟩
  rintro ⟨name, g, rfl | ⟨hfollow, -⟩, hg, hstarts⟩
  · rw [hname, hf] at hg
    cases hg
    exact hnot hstarts
  · cases hfollow

end System

end TaskFlow
