import TaskFlow.Proofs.Failure.Graph

/-!
# Walks in a failure graph

- `setOf?_of_foldlM_next?`, `setOf?_of_walk?`: a walk adds one new name with each link, so it ends at the vertex of its
  names and none of them is repeated;
- `walk?_ofRules_eq_some_iff`: in the graph of some rules the converse holds too: distinct names are walked to the
  vertex of their set, if there is one;
- `lookup?_ofRules_eq_some_iff`: looking a set up finds its vertex;
- `walk?_ofRules_exact`: the same without auxiliary notions, for names in any order.
-/

namespace TaskFlow

/-- The graph of some rules spans the nodes of each. -/
theorem Content.spans_ofRules {rules : List FailureRule} {r : FailureRule} (hr : r ∈ rules) :
    (Content.ofRules rules).Spans r.nodes := by
  intro X x hlink
  exact ⟨⟨r, hr, hlink⟩, r, hr, vertex_of_link_lattice hlink⟩

/-- Every node of a rule has its entry, and its vertex behind it. -/
theorem Content.entry_ofRules {rules : List FailureRule} {r : FailureRule} (hr : r ∈ rules) {x : String}
    (hx : x ∈ r.nodes) : (Content.ofRules rules).entry x ∧ (Content.ofRules rules).vertex (.ofList [x]) :=
  ⟨⟨r, hr, hx⟩, r, hr, vertex_of_entry_lattice hx⟩

namespace FailureGraph

variable {g : FailureGraph} {c : Content} {rules : List FailureRule} {w w' : List String} {X : NameSet} {id t : Nat}

/-- A walk from the vertex of a set adds new names only, each once, and ends at the vertex of the union. -/
theorem setOf?_of_foldlM_next? (hg : g.Holds c) (hid : g.setOf? id = some X) (hwalk : w.foldlM g.next? id = some t) :
    w.Nodup ∧ (∀ x ∈ w, x ∉ X) ∧ g.setOf? t = some (X.union w) := by
  induction w generalizing id X with
  | nil =>
    cases hwalk
    exact ⟨List.nodup_nil, nofun, hid⟩
  | cons x w ih =>
    rw [List.foldlM_cons] at hwalk
    obtain ⟨i, hnext, hrest⟩ := Option.bind_eq_some_iff.1 hwalk
    obtain ⟨-, hx, hi⟩ := (hg.next_iff id X x i hid).1 hnext
    obtain ⟨hnodup, hnew, ht⟩ := ih hi hrest
    have hxw : x ∉ w := fun hmem => hnew x hmem (NameSet.mem_insert.2 (Or.inl rfl))
    refine ⟨List.nodup_cons.2 ⟨hxw, hnodup⟩, List.forall_mem_cons.2 ⟨hx, fun y hy hyX => ?_⟩, ht⟩
    exact hnew y hy (NameSet.subset_insert X x y hyX)

/-- A walk goes along distinct names to the vertex of their set. -/
theorem setOf?_of_walk? (hg : g.Holds c) (hwalk : g.walk? w = some id) :
    w ≠ [] ∧ w.Nodup ∧ g.setOf? id = some (.ofList w) := by
  cases w with
  | nil => cases hwalk
  | cons x w =>
    obtain ⟨i, hentry, hrest⟩ := Option.bind_eq_some_iff.1 hwalk
    obtain ⟨-, hi⟩ := (hg.entry_iff x i).1 hentry
    obtain ⟨hnodup, hnew, hid⟩ := setOf?_of_foldlM_next? hg hi hrest
    have hxw : x ∉ w := fun hmem => hnew x hmem (NameSet.mem_singleton.2 rfl)
    exact ⟨List.cons_ne_nil x w, List.nodup_cons.2 ⟨hxw, hnodup⟩, hid⟩

/-- **A walk ends at the vertex of its names**, and there is one just if the names are distinct and have a vertex. -/
theorem walk?_ofRules_eq_some_iff :
    (ofRules rules).walk? w = some id ↔ w ≠ [] ∧ w.Nodup ∧ (ofRules rules).setOf? id = some (.ofList w) := by
  have hg := holds_ofRules rules
  constructor
  · exact setOf?_of_walk? hg
  · rintro ⟨hne, hnodup, hid⟩
    obtain ⟨r, hr, -, hsub⟩ := (hg.vertex_iff _).2 ⟨id, hid⟩
    obtain ⟨i, hwalk, hi⟩ := walk?_of_holds hg (Content.spans_ofRules hr) (fun x hx => Content.entry_ofRules hr hx) hne
      hnodup fun x hx => hsub x (NameSet.mem_ofList.2 hx)
    rw [hwalk, hg.setOf?_inj i id _ hi hid]

/-- Names have a vertex just if there are some, all in one rule. -/
theorem exists_setOf?_ofRules_iff :
    (∃ id, (ofRules rules).setOf? id = some (.ofList w)) ↔ w ≠ [] ∧ ∃ r ∈ rules, ∀ x ∈ w, x ∈ r.nodes := by
  rw [← (holds_ofRules rules).vertex_iff, Ne, ← NameSet.ofList_eq_empty_iff]
  constructor
  · rintro ⟨r, hr, hX, hsub⟩
    exact ⟨hX, r, hr, fun x hx => hsub x (NameSet.mem_ofList.2 hx)⟩
  · rintro ⟨hX, r, hr, hsub⟩
    exact ⟨r, hr, hX, fun x hx => hsub x (NameSet.mem_ofList.1 hx)⟩

/-- A walk does not depend on the order of its names. -/
theorem walk?_ofRules_perm (h : w.Perm w') : (ofRules rules).walk? w = (ofRules rules).walk? w' := by
  have hnil : w = [] ↔ w' = [] := by rw [← List.length_eq_zero_iff, h.length_eq, List.length_eq_zero_iff]
  refine Option.ext fun id => ?_
  rw [walk?_ofRules_eq_some_iff, walk?_ofRules_eq_some_iff, h.nodup_iff, NameSet.ofList_perm h, Ne, hnil]

/-- Looking a set up finds its vertex. -/
theorem lookup?_ofRules_eq_some_iff : (ofRules rules).lookup? X = some id ↔ (ofRules rules).setOf? id = some X := by
  rw [lookup?, walk?_ofRules_eq_some_iff, NameSet.ofList_names]
  refine ⟨fun h => h.2.2, fun hid => ⟨fun hnil => ?_, X.nodup, hid⟩⟩
  obtain ⟨_, -, hne, -⟩ := ((holds_ofRules rules).vertex_iff X).2 ⟨id, hid⟩
  exact hne (NameSet.ext hnil)

/-- **Walking is exact and does not depend on the order**: some names are walked just if they are distinct and lie in
one rule, and then to the vertex of their set, in whatever order they come. Looking a set up finds the one vertex that
has it, and nothing if there is none. -/
theorem walk?_ofRules_exact (rules : List FailureRule) :
    let g := ofRules rules
    (∀ w, (∃ id, g.walk? w = some id) ↔ w ≠ [] ∧ w.Nodup ∧ ∃ r ∈ rules, ∀ x ∈ w, x ∈ r.nodes) ∧
    (∀ w id, g.walk? w = some id → ∃ n, g.node? id = some n ∧ n.traversed = .ofList w) ∧
    (∀ w w' : List String, w.Perm w' → g.walk? w = g.walk? w') ∧
    (∀ X id, g.lookup? X = some id ↔ ∃ n, g.node? id = some n ∧ n.traversed = X) := by
  intro g
  refine ⟨fun w => ?_, fun w id hwalk => ?_, fun _ _ => walk?_ofRules_perm, fun X id => ?_⟩
  · simp only [g, walk?_ofRules_eq_some_iff, exists_and_left, exists_setOf?_ofRules_iff]
    tauto
  · exact setOf?_eq_some_iff.1 (walk?_ofRules_eq_some_iff.1 hwalk).2.2
  · exact lookup?_ofRules_eq_some_iff.trans setOf?_eq_some_iff

end FailureGraph

end TaskFlow
