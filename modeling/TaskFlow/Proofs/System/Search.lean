import Mathlib.Data.List.Induction
import Mathlib.Data.List.Nodup
import TaskFlow.Proofs.Data.Dict
import TaskFlow.System.Selective

/-!
# The search behind a selective run

- `Visit`: a flow with the tasks asked of it; `System.asks`: the sub-flows that a visit asks for the tasks that its flow
  lacks, those started as fallbacks included;
- `System.Explores seen vs seen' left`: visits one after another, depth first and no flow twice, with the order in which
  the flows are left;
- `System.TakesPart left v`: the flow of a visit finds a task asked of it, or its edges start a flow that was asked, was
  left earlier and takes part itself;
- `settleAll_iff_takesPart`: the flows that take part, found one after the other in the order in which they are left;
- `forall_left`: a property handed from a visit to those that it asks for holds of all that are left;
- `part_of_settleAll`, `asks_everywhere`: what a search that finds nothing has looked at.
-/

namespace TaskFlow

/-- A flow with the tasks asked of it. -/
structure Visit where
  flow : String
  tasks : List String

namespace System

section

variable (s : System) (follow : Bool)

/-- The sub-flows asked for the tasks that a flow lacks. -/
def asks (v : Visit) : List Visit :=
  match s.flows.get? v.flow with
  | none => []
  | some f =>
    let missing := v.tasks.filter fun task => !f.graph.contains task
    if follow && !missing.isEmpty then (s.subFlows f).names.map fun name => ⟨name, missing⟩ else []

/-- Visits one after another: a flow seen before is passed over, any other one is left once all that it asks is done. -/
inductive Explores : List String → List Visit → List String → List Visit → Prop
  | done {seen : List String} : Explores seen [] seen []
  | known {seen seen' : List String} {v : Visit} {vs left : List Visit} :
      v.flow ∈ seen → Explores seen vs seen' left → Explores seen (v :: vs) seen' left
  | enter {seen seen₁ seen₂ : List String} {v : Visit} {vs left₁ left₂ : List Visit} :
      v.flow ∉ seen → Explores (v.flow :: seen) (s.asks follow v) seen₁ left₁ → Explores seen₁ vs seen₂ left₂ →
      Explores seen (v :: vs) seen₂ (left₁ ++ v :: left₂)

/-- A visit that finds a task, or whose flow starts one by its edges that was asked, left earlier, and takes part. -/
inductive TakesPart (left : List Visit) : Visit → Prop
  | found {v : Visit} {f : Flow} {task : String} (hv : v ∈ left) (hf : s.flows.get? v.flow = some f)
      (asked : task ∈ v.tasks) (started : f.graph.contains task = true) : TakesPart left v
  | nested {v w : Visit} {f : Flow} {before after : List Visit} (split : left = before ++ v :: after)
      (hmem : w ∈ before) (hf : s.flows.get? v.flow = some f) (asked : w.flow ∈ (s.asks follow v).map Visit.flow)
      (started : f.graph.contains w.flow = true) (hw : TakesPart left w) : TakesPart left v

end

variable {s : System} {follow : Bool} {seen seen' seen'' : List String} {vs ws left left' : List Visit} {v w : Visit}

/-- What a visit asks: every sub-flow of its flow, for all the tasks that the flow lacks, if it lacks any. -/
theorem mem_asks_iff :
    w ∈ s.asks follow v ↔ follow = true ∧ ∃ f, s.flows.get? v.flow = some f ∧ w.flow ∈ s.subFlows f ∧
      w.tasks = (v.tasks.filter fun task => !f.graph.contains task) ∧ w.tasks ≠ [] := by
  unfold asks
  cases s.flows.get? v.flow with
  | none => exact iff_of_false List.not_mem_nil fun ⟨_, _, h, _⟩ => nomatch h
  | some f =>
    simp only
    split
    · rename_i hasks
      rw [Bool.and_eq_true, Bool.not_eq_true', List.isEmpty_eq_false_iff] at hasks
      rw [List.mem_map]
      constructor
      · rintro ⟨name, hname, rfl⟩
        exact ⟨hasks.1, f, rfl, hname, rfl, hasks.2⟩
      · rintro ⟨-, _, h, hname, htasks, -⟩
        cases h
        exact ⟨w.flow, hname, by rw [← htasks]⟩
    · rename_i hasks
      refine iff_of_false List.not_mem_nil fun ⟨hfollow, _, h, _, htasks, hne⟩ => hasks ?_
      cases h
      rw [Bool.and_eq_true, Bool.not_eq_true', List.isEmpty_eq_false_iff]
      exact ⟨hfollow, htasks ▸ hne⟩

/-! ## What is seen and left -/

namespace Explores

theorem append (h : s.Explores follow seen vs seen' left) (h' : s.Explores follow seen' ws seen'' left') :
    s.Explores follow seen (vs ++ ws) seen'' (left ++ left') := by
  induction h with
  | done => exact h'
  | known hseen _ ih => exact .known hseen (ih h')
  | enter hnew hasks _ _ ih =>
    rw [List.append_assoc]
    exact .enter hnew hasks (ih h')

/-- What is seen afterwards was seen before or is left. -/
theorem mem_seen_iff (h : s.Explores follow seen vs seen' left) {x : String} :
    x ∈ seen' ↔ x ∈ seen ∨ x ∈ left.map Visit.flow := by
  induction h with
  | done => simp
  | known _ _ ih => exact ih
  | enter _ _ _ ih₁ ih₂ =>
    rw [ih₂, ih₁, List.map_append, List.map_cons]
    simp only [List.mem_cons, List.mem_append]
    tauto

/-- A flow that is left was not seen before. -/
theorem notMem_seen (h : s.Explores follow seen vs seen' left) {x : String} (hx : x ∈ left.map Visit.flow) :
    x ∉ seen := by
  induction h with
  | done => cases hx
  | known _ _ ih => exact ih hx
  | enter hnew hasks _ ih₁ ih₂ =>
    rw [List.map_append, List.mem_append, List.map_cons, List.mem_cons] at hx
    intro hseen
    rcases hx with hx | rfl | hx
    · exact ih₁ hx (List.mem_cons_of_mem _ hseen)
    · exact hnew hseen
    · exact ih₂ hx (hasks.mem_seen_iff.2 (Or.inl (List.mem_cons_of_mem _ hseen)))

/-- No flow is left twice. -/
theorem nodup (h : s.Explores follow seen vs seen' left) : (left.map Visit.flow).Nodup := by
  induction h with
  | done => exact List.nodup_nil
  | known _ _ ih => exact ih
  | enter hnew hasks hrest ih₁ ih₂ =>
    rw [List.map_append, List.map_cons, List.nodup_append]
    refine ⟨ih₁, List.nodup_cons.2 ⟨fun hmem => ?_, ih₂⟩, ?_⟩
    · exact hrest.notMem_seen hmem (hasks.mem_seen_iff.2 (Or.inl List.mem_cons_self))
    · rintro x hx y hy rfl
      rcases List.mem_cons.1 hy with rfl | hy
      · exact hasks.notMem_seen hx List.mem_cons_self
      · exact hrest.notMem_seen hy (hasks.mem_seen_iff.2 (Or.inr hx))

/-- Every flow that is visited is seen afterwards. -/
theorem mem_seen_of_mem (h : s.Explores follow seen vs seen' left) (hv : v ∈ vs) : v.flow ∈ seen' := by
  induction h with
  | done => cases hv
  | known hseen hrest ih =>
    rcases List.mem_cons.1 hv with rfl | hv
    · exact hrest.mem_seen_iff.2 (Or.inl hseen)
    · exact ih hv
  | enter _ hasks hrest _ ih =>
    rcases List.mem_cons.1 hv with rfl | hv
    · exact hrest.mem_seen_iff.2 (Or.inl (hasks.mem_seen_iff.2 (Or.inl List.mem_cons_self)))
    · exact ih hv

/-- What the flows that are left have asked for is seen. -/
theorem mem_seen_of_asks (h : s.Explores follow seen vs seen' left) (hv : v ∈ left) (hw : w ∈ s.asks follow v) :
    w.flow ∈ seen' := by
  induction h with
  | done => cases hv
  | known _ _ ih => exact ih hv
  | enter _ hasks hrest ih₁ ih₂ =>
    rcases List.mem_append.1 hv with hv | hv
    · exact hrest.mem_seen_iff.2 (Or.inl (ih₁ hv))
    · rcases List.mem_cons.1 hv with rfl | hv
      · exact hrest.mem_seen_iff.2 (Or.inl (hasks.mem_seen_of_mem hw))
      · exact ih₂ hv

/-- **A search goes top down**: what holds of the visits it starts with, and is handed from a visit to those that it
asks for and that are left before it, holds of all that are left. -/
theorem forall_left {Q : Visit → Prop} (h : s.Explores follow seen vs seen' left) (hvs : ∀ v ∈ vs, v ∈ left → Q v)
    (hasks : ∀ before v after, left = before ++ v :: after → Q v → ∀ w ∈ before, w ∈ s.asks follow v → Q w) :
    ∀ v ∈ left, Q v := by
  induction h with
  | done => exact fun v hv => nomatch hv
  | known _ _ ih => exact ih (fun v hv => hvs v (List.mem_cons_of_mem _ hv)) hasks
  | @enter seen seen₁ seen₂ u vs left₁ left₂ _ _ _ ih₁ ih₂ =>
    have hu : Q u := hvs u List.mem_cons_self (List.mem_append_right _ List.mem_cons_self)
    intro v hv
    rcases List.mem_append.1 hv with hv | hv
    · refine ih₁ (fun w hw hleft => hasks left₁ u left₂ rfl hu w hleft hw) ?_ v hv
      intro before p after hsplit hp w hw
      refine hasks before p (after ++ u :: left₂) ?_ hp w hw
      rw [hsplit, List.append_assoc, List.cons_append]
    · rcases List.mem_cons.1 hv with rfl | hv
      · exact hu
      · refine ih₂ (fun w hw hleft => hvs w (List.mem_cons_of_mem _ hw) ?_) ?_ v hv
        · exact List.mem_append_right _ (List.mem_cons_of_mem _ hleft)
        · intro before p after hsplit hp w hw
          refine hasks (left₁ ++ u :: before) p after ?_ hp w (List.mem_append_right _ (List.mem_cons_of_mem _ hw))
          rw [hsplit, List.append_assoc, List.cons_append]

/-- A search has one outcome. -/
theorem unique (h : s.Explores follow seen vs seen' left) (h' : s.Explores follow seen vs seen'' left') :
    seen' = seen'' ∧ left = left' := by
  induction h generalizing seen'' left' with
  | done =>
    cases h'
    exact ⟨rfl, rfl⟩
  | known hseen _ ih =>
    cases h' with
    | known _ hrest => exact ih hrest
    | enter hnew _ _ => exact absurd hseen hnew
  | enter hnew _ _ ih₁ ih₂ =>
    cases h' with
    | known hseen _ => exact absurd hseen hnew
    | enter _ hasks hrest =>
      obtain ⟨rfl, rfl⟩ := ih₁ hasks
      obtain ⟨rfl, rfl⟩ := ih₂ hrest
      exact ⟨rfl, rfl⟩

end Explores

/-! ## Who takes part -/

variable {part : String → Prop} {x : String}

/-- Whether a visit takes part, given the flows that do so far. -/
def Takes (s : System) (follow : Bool) (part : String → Prop) (v : Visit) : Prop :=
  ∃ f, s.flows.get? v.flow = some f ∧ ((∃ task ∈ v.tasks, f.graph.contains task = true) ∨
    ∃ name ∈ (s.asks follow v).map Visit.flow, f.graph.contains name = true ∧ part name)

/-- The flows that take part once visits are left one after another. -/
def settleAll (s : System) (follow : Bool) : List Visit → (String → Prop) → String → Prop
  | [], part => part
  | v :: vs, part => s.settleAll follow vs fun x => part x ∨ x = v.flow ∧ s.Takes follow part v

theorem settleAll_append (left left' : List Visit) (part : String → Prop) :
    s.settleAll follow (left ++ left') part = s.settleAll follow left' (s.settleAll follow left part) := by
  induction left generalizing part with
  | nil => rfl
  | cons v vs ih => exact ih _

theorem TakesPart.mem (h : s.TakesPart follow left v) : v ∈ left := by
  cases h with
  | found hv _ _ _ => exact hv
  | nested split _ _ _ _ _ =>
    rw [split]
    exact List.mem_append_right _ List.mem_cons_self

theorem TakesPart.append (h : s.TakesPart follow left v) (left' : List Visit) :
    s.TakesPart follow (left ++ left') v := by
  induction h with
  | found hv hf asked started => exact .found (List.mem_append_left _ hv) hf asked started
  | nested split hmem hf asked started _ ih =>
    exact .nested (by rw [split, List.append_assoc, List.cons_append]) hmem hf asked started ih

/-- What stands in front of a visit other than the last one stands there without the last one. -/
theorem split_of_concat {u : Visit} {before after : List Visit} (h : left ++ [u] = before ++ v :: after) :
    (after = [] ∧ v = u ∧ left = before) ∨ ∃ rest, left = before ++ v :: rest := by
  rcases List.eq_nil_or_concat after with rfl | ⟨rest, z, rfl⟩
  · obtain ⟨rfl, hu⟩ := List.append_inj' h rfl
    cases hu
    exact Or.inl ⟨rfl, rfl, rfl⟩
  · have hassoc : left ++ [u] = (before ++ v :: rest) ++ [z] := by
      rw [h, List.concat_eq_append, List.append_assoc, List.cons_append]
    obtain ⟨rfl, -⟩ := List.append_inj' hassoc rfl
    exact Or.inr ⟨rest, rfl⟩

/-- What is left later does not matter. -/
theorem TakesPart.of_concat {u : Visit} (hu : u ∉ left) (h : s.TakesPart follow (left ++ [u]) v) (hv : v ∈ left) :
    s.TakesPart follow left v := by
  induction h with
  | found _ hf asked started => exact .found hv hf asked started
  | nested split hmem hf asked started _ ih =>
    rcases split_of_concat split with ⟨-, rfl, -⟩ | ⟨rest, hrest⟩
    · exact absurd hv hu
    · exact .nested hrest hmem hf asked started (ih (hrest ▸ List.mem_append_left _ hmem))

/-- **The flows that take part are those with a chain of nested flows to a task**: settling the visits in the order in
which they are left finds just these. -/
theorem settleAll_iff_takesPart (hnodup : (left.map Visit.flow).Nodup) :
    s.settleAll follow left (fun _ => False) x ↔ ∃ v ∈ left, v.flow = x ∧ s.TakesPart follow left v := by
  induction left using List.reverseRecOn generalizing x with
  | nil => simp [settleAll]
  | append_singleton left u ih =>
    rw [List.map_append, List.nodup_append] at hnodup
    have hu : u ∉ left := fun hmem => hnodup.2.2 _ (List.mem_map_of_mem hmem) _ List.mem_cons_self rfl
    have ih' : ∀ {y}, s.settleAll follow left (fun _ => False) y ↔
        ∃ v ∈ left, v.flow = y ∧ s.TakesPart follow left v := ih hnodup.1
    rw [settleAll_append]
    show s.settleAll follow left _ x ∨ x = u.flow ∧ s.Takes follow _ u ↔ _
    constructor
    · rintro (hx | ⟨rfl, f, hf, ⟨task, asked, started⟩ | ⟨name, asked, started, hname⟩⟩)
      · obtain ⟨v, hv, rfl, hpart⟩ := ih'.1 hx
        exact ⟨v, List.mem_append_left _ hv, rfl, hpart.append _⟩
      · have hmem : u ∈ left ++ [u] := List.mem_append_right _ List.mem_cons_self
        exact ⟨u, hmem, rfl, .found hmem hf asked started⟩
      · obtain ⟨w, hw, rfl, hpart⟩ := ih'.1 hname
        have hmem : u ∈ left ++ [u] := List.mem_append_right _ List.mem_cons_self
        exact ⟨u, hmem, rfl, .nested rfl hw hf asked started (hpart.append _)⟩
    · rintro ⟨v, hv, rfl, hpart⟩
      rcases List.mem_append.1 hv with hv | hv
      · exact Or.inl (ih'.2 ⟨v, hv, rfl, hpart.of_concat hu hv⟩)
      · rw [List.mem_singleton] at hv
        subst hv
        right
        cases hpart with
        | found _ hf asked started => exact ⟨rfl, _, hf, Or.inl ⟨_, asked, started⟩⟩
        | @nested _ w f before after split hmem hf asked started hw =>
          have hw' : w ∈ left := by
            rcases split_of_concat split with ⟨-, -, rfl⟩ | ⟨rest, rfl⟩
            · exact hmem
            · exact absurd (List.mem_append_right _ List.mem_cons_self) hu
          exact ⟨rfl, _, hf, Or.inr ⟨_, asked, started, ih'.2 ⟨_, hw', rfl, hw.of_concat hu hw'⟩⟩⟩

/-! ## Searches that find nothing -/

theorem settleAll_of_part (left : List Visit) (h : part x) : s.settleAll follow left part x := by
  induction left generalizing part with
  | nil => exact h
  | cons v vs ih => exact ih (Or.inl h)

/-- Every flow that a flow starts, as a fallback or not, is a node of its edges. -/
def EdgesStartSubFlows (s : System) : Prop :=
  ∀ name f, s.flows.get? name = some f → ∀ sub ∈ s.subFlows f, f.graph.contains sub = true

theorem edgesStartSubFlows_iff :
    s.EdgesStartSubFlows ↔ (s.flows.values.all fun f => (s.subFlows f).names.all f.graph.contains) = true := by
  simp only [List.all_eq_true]
  constructor
  · intro h f hf sub hsub
    obtain ⟨name, hname⟩ := Dict.mem_values_iff.1 hf
    exact h name f hname sub hsub
  · intro h name f hf sub hsub
    exact h f (Dict.mem_values_iff.2 ⟨name, hf⟩) sub hsub

/-- Where edges start every sub-flow, a flow that takes part lets the one that asked it take part: if none of the flows
visited does, then no flow below them does. -/
theorem Explores.part_of_settleAll (hstart : follow = true → s.EdgesStartSubFlows)
    (h : s.Explores follow seen vs seen' left) (part : String → Prop)
    (hvs : ∀ v ∈ vs, ¬s.settleAll follow left part v.flow) (hx : s.settleAll follow left part x) : part x := by
  induction h generalizing part x with
  | done => exact hx
  | known _ _ ih => exact ih _ (fun v hv => hvs v (List.mem_cons_of_mem _ hv)) hx
  | @enter seen seen₁ seen₂ v vs left₁ left₂ _ _ _ ih₁ ih₂ =>
    simp only [settleAll_append, settleAll] at hvs hx
    have hv : ¬s.Takes follow (s.settleAll follow left₁ part) v := fun htakes =>
      hvs v List.mem_cons_self (settleAll_of_part left₂ (Or.inr ⟨rfl, htakes⟩))
    rcases ih₂ _ (fun u hu => hvs u (List.mem_cons_of_mem _ hu)) hx with hx | ⟨-, htakes⟩
    · refine ih₁ _ (fun w hw hpart => hv ?_) hx
      obtain ⟨hfollow, f, hf, hsub, -⟩ := mem_asks_iff.1 hw
      exact ⟨f, hf, Or.inr ⟨_, List.mem_map_of_mem hw, hstart hfollow _ f hf _ hsub, hpart⟩⟩
    · exact absurd htakes hv

/-- No flow has a task that is asked of it. -/
def Lacks (s : System) (left : List Visit) : Prop :=
  ∀ v ∈ left, ∀ f, s.flows.get? v.flow = some f → ∀ task ∈ v.tasks, f.graph.contains task = false

/-- Where no flow has a task that is asked of it, every flow is asked for the task, and every sub-flow is seen. -/
theorem Explores.asks_everywhere {task : String} (h : s.Explores true seen vs seen' left)
    (hvs : ∀ v ∈ vs, task ∈ v.tasks)
    (hlacks : ∀ v ∈ left, task ∈ v.tasks → ∀ f, s.flows.get? v.flow = some f → f.graph.contains task = false) :
    ∀ v ∈ left, task ∈ v.tasks ∧ ∀ f, s.flows.get? v.flow = some f → ∀ sub ∈ s.subFlows f, sub ∈ seen' := by
  have hmissing : ∀ v ∈ left, task ∈ v.tasks → ∀ f, s.flows.get? v.flow = some f →
      task ∈ v.tasks.filter fun task => !f.graph.contains task := by
    intro v hv htask f hf
    rw [List.mem_filter, hlacks v hv htask f hf]
    exact ⟨htask, rfl⟩
  have hasked : ∀ v ∈ left, task ∈ v.tasks := by
    refine h.forall_left (fun v hv _ => hvs v hv) fun before v after hsplit hv w _ hw => ?_
    obtain ⟨-, f, hf, -, htasks, -⟩ := mem_asks_iff.1 hw
    rw [htasks]
    exact hmissing v (hsplit ▸ List.mem_append_right _ List.mem_cons_self) hv f hf
  intro v hv
  refine ⟨hasked v hv, fun f hf sub hsub => ?_⟩
  have hw : (⟨sub, v.tasks.filter fun task => !f.graph.contains task⟩ : Visit) ∈ s.asks true v :=
    mem_asks_iff.2 ⟨rfl, f, hf, hsub, rfl, List.ne_nil_of_mem (hmissing v hv (hasked v hv) f hf)⟩
  exact h.mem_seen_of_asks hv hw

end System

end TaskFlow
