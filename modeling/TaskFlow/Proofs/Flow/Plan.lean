import TaskFlow.Proofs.Flow.Runs

/-!
# Plans as sets of edges

- `pairwise_edgeIndices`: the numbers of a plan ascend, so that a plan is known by the numbers in it;
- `plan_eq_edgeIndices_any`: an edge into needed nodes leads out of needed nodes, so that only the first half of
  `leadsTo` has a say;
- `mem_plan_ofEdges_iff`: the planned edges are those from which chains of edges lead to a target;
- `plan_congr`, `mem_plan_union_iff`: a plan sees its targets as a set, and is put together from the plans for parts of
  it;
- `Flow.selectiveEdges_congr`, `Flow.exists_selectiveEdges_union`: the same of selective runs;
- `plan_ofEdges_exact`: all of this together.
-/

namespace TaskFlow

namespace FlowGraph

variable {g : FlowGraph} {edges : List Edge} {targets targets' both : List String} {x : String} {i : Nat}

/-! ## The numbers of edges -/

/-- The numbers of edges ascend. -/
theorem pairwise_edgeIndices (p : Edge → Bool) (edges : List Edge) : (edgeIndices p edges).Pairwise (· < ·) := by
  have hnumbers : (edges.zipIdx.map Prod.snd).Pairwise (· < ·) := by
    rw [List.zipIdx_map_snd]
    exact List.pairwise_lt_range'
  rw [edgeIndices, List.pairwise_filterMap]
  refine (List.pairwise_map.1 hnumbers).imp ?_
  rintro ⟨e, i⟩ ⟨e', j⟩ hij _ hi _ hj
  rw [Option.ite_none_right_eq_some] at hi hj
  rwa [← Option.some.inj hi.2, ← Option.some.inj hj.2]

theorem edgeIndices_congr {p q : Edge → Bool} (h : ∀ e ∈ edges, p e = q e) :
    edgeIndices p edges = edgeIndices q edges := by
  refine List.filterMap_congr ?_
  rintro ⟨e, i⟩ hmem
  have he : p e = q e := h e (List.mem_of_getElem? (List.mem_zipIdx_iff_getElem?.1 hmem))
  simp only [he]

/-! ## Which edges are planned -/

/-- Only whether an edge leads to needed nodes matters: the nodes that it leads out of are needed with them. -/
theorem plan_eq_edgeIndices_any (htargets : ∀ t ∈ targets, t ∈ (ofEdges edges).names) :
    (ofEdges edges).plan edges targets =
      edgeIndices (fun e => e.targets.any ((ofEdges edges).needed targets).contains) edges := by
  refine edgeIndices_congr fun e he => ?_
  rw [leadsTo, Bool.and_eq_left_iff_imp]
  intro hany
  obtain ⟨x, hx, hneeded⟩ := List.any_eq_true.1 hany
  refine List.all_eq_true.2 fun y hy => NameSet.contains_iff.2 ?_
  exact mem_needed_of_feeds htargets ⟨e, he, hy, hx⟩ (NameSet.contains_iff.1 hneeded)

/-- An edge is planned just if chains of edges lead from one of its destinations to a target. -/
theorem mem_plan_ofEdges_iff (htargets : ∀ t ∈ targets, t ∈ (ofEdges edges).names) :
    i ∈ (ofEdges edges).plan edges targets ↔
      ∃ e, edges[i]? = some e ∧ ∃ x ∈ e.targets, ∃ t ∈ targets, Relation.ReflTransGen (Feeds edges) x t := by
  simp only [plan_eq_edgeIndices_any htargets, mem_edgeIndices_iff, List.any_eq_true, NameSet.contains_iff,
    mem_needed_ofEdges_iff htargets]

/-- With an edge, the edges into its sources are planned. -/
theorem mem_plan_of_feeds (htargets : ∀ t ∈ targets, t ∈ (ofEdges edges).names) {e e' : Edge} {j : Nat}
    (hi : i ∈ (ofEdges edges).plan edges targets) (he : edges[i]? = some e) (hx : x ∈ e.sources)
    (he' : edges[j]? = some e') (hx' : x ∈ e'.targets) : j ∈ (ofEdges edges).plan edges targets := by
  obtain ⟨d, hd, y, hy, t, ht, hchain⟩ := (mem_plan_ofEdges_iff htargets).1 hi
  cases he.symm.trans hd
  have hfeeds : Feeds edges x y := ⟨e, List.mem_of_getElem? he, hx, hy⟩
  exact (mem_plan_ofEdges_iff htargets).2 ⟨e', he', x, hx', t, ht, .head hfeeds hchain⟩

/-! ## Several lists of targets -/

/-- Neither the order of the targets nor how often they are listed matters. -/
theorem plan_congr (h : ∀ t, t ∈ targets ↔ t ∈ targets') : g.plan edges targets = g.plan edges targets' := by
  have hneeded : g.needed targets = g.needed targets' :=
    NameSet.ext_mem fun x => by simp only [mem_needed_iff, h]
  rw [plan, plan, hneeded]

/-- A plan for targets out of two lists has the edges of both plans. -/
theorem mem_plan_union_iff (htargets : ∀ t ∈ targets, t ∈ (ofEdges edges).names)
    (htargets' : ∀ t ∈ targets', t ∈ (ofEdges edges).names) (hboth : ∀ t, t ∈ both ↔ t ∈ targets ∨ t ∈ targets') :
    i ∈ (ofEdges edges).plan edges both ↔
      i ∈ (ofEdges edges).plan edges targets ∨ i ∈ (ofEdges edges).plan edges targets' := by
  have hnames : ∀ t ∈ both, t ∈ (ofEdges edges).names := fun t ht =>
    ((hboth t).1 ht).elim (htargets t) (htargets' t)
  simp only [mem_plan_ofEdges_iff hnames, mem_plan_ofEdges_iff htargets, mem_plan_ofEdges_iff htargets', hboth,
    or_and_right, exists_or, and_or_left]

end FlowGraph

/-! ## Selective runs -/

namespace Flow

variable {f : Flow} {tasks tasks' both : List String} {runSubsequent : Bool}

theorem mem_widen_union_iff (hboth : ∀ t, t ∈ both ↔ t ∈ tasks ∨ t ∈ tasks') {x : String} :
    x ∈ f.widen runSubsequent both ↔ x ∈ f.widen runSubsequent tasks ∨ x ∈ f.widen runSubsequent tasks' := by
  simp only [widen, List.mem_flatMap, hboth, or_and_right, exists_or]

/-- The edges of a selective run do not depend on the order of its tasks, nor on how often they are listed. -/
theorem selectiveEdges_congr (htasks : ∀ t ∈ tasks, f.graph.contains t = true) (h : ∀ t, t ∈ tasks' ↔ t ∈ tasks)
    (runSubsequent : Bool) : f.selectiveEdges tasks' runSubsequent = f.selectiveEdges tasks runSubsequent := by
  have hwiden : ∀ x, x ∈ f.widen runSubsequent tasks' ↔ x ∈ f.widen runSubsequent tasks := by
    intro x
    simp only [widen, List.mem_flatMap, h]
  rw [selectiveEdges_eq_ok htasks, selectiveEdges_eq_ok fun t ht => htasks t ((h t).1 ht),
    FlowGraph.plan_congr hwiden]

/-- A selective run of the tasks of two lists has the edges of both runs. -/
theorem exists_selectiveEdges_union (htasks : ∀ t ∈ tasks, f.graph.contains t = true)
    (htasks' : ∀ t ∈ tasks', f.graph.contains t = true) (hboth : ∀ t, t ∈ both ↔ t ∈ tasks ∨ t ∈ tasks')
    (runSubsequent : Bool) :
    ∃ numbers numbers' all, f.selectiveEdges tasks runSubsequent = .ok numbers ∧
      f.selectiveEdges tasks' runSubsequent = .ok numbers' ∧ f.selectiveEdges both runSubsequent = .ok all ∧
      all.Pairwise (· < ·) ∧ ∀ i, i ∈ all ↔ i ∈ numbers ∨ i ∈ numbers' := by
  have hnames : ∀ t ∈ f.widen runSubsequent tasks, t ∈ f.graph.names := fun t =>
    mem_names_of_mem_widen fun u hu => FlowGraph.contains_iff.1 (htasks u hu)
  have hnames' : ∀ t ∈ f.widen runSubsequent tasks', t ∈ f.graph.names := fun t =>
    mem_names_of_mem_widen fun u hu => FlowGraph.contains_iff.1 (htasks' u hu)
  refine ⟨_, _, _, selectiveEdges_eq_ok htasks _, selectiveEdges_eq_ok htasks' _,
    selectiveEdges_eq_ok (fun t ht => ((hboth t).1 ht).elim (htasks t) (htasks' t)) _,
    FlowGraph.pairwise_edgeIndices _ _, fun i => ?_⟩
  exact FlowGraph.mem_plan_union_iff hnames hnames' fun x => mem_widen_union_iff hboth

end Flow

namespace FlowGraph

/-- **A plan is exact**: its numbers ascend and are those of the edges from which chains of edges lead to a target,
right away or further on. So the nodes that a planned edge leads out of are never missing, and neither are the edges
into them. Plans, and selective runs with them, do not depend on the order of the targets or on how often they are
listed, and those for targets out of two lists have the edges for either. -/
theorem plan_ofEdges_exact (edges : List Edge) {targets targets' : List String}
    (htargets : ∀ t ∈ targets, (ofEdges edges).contains t = true)
    (htargets' : ∀ t ∈ targets', (ofEdges edges).contains t = true) :
    let g := ofEdges edges
    (g.plan edges targets).Pairwise (· < ·) ∧
    (∀ i, i ∈ g.plan edges targets ↔
      ∃ e, edges[i]? = some e ∧ ∃ x ∈ e.targets, ∃ t ∈ targets, Relation.ReflTransGen (Feeds edges) x t) ∧
    g.plan edges targets = edgeIndices (fun e => e.targets.any (g.needed targets).contains) edges ∧
    (∀ i ∈ g.plan edges targets, ∀ e, edges[i]? = some e → ∀ x ∈ e.sources,
      ∀ j e', edges[j]? = some e' → x ∈ e'.targets → j ∈ g.plan edges targets) ∧
    (∀ both, (∀ t, t ∈ both ↔ t ∈ targets ∨ t ∈ targets') →
      ∀ i, i ∈ g.plan edges both ↔ i ∈ g.plan edges targets ∨ i ∈ g.plan edges targets') ∧
    ∀ f : Flow, f.edges = edges → ∀ runSubsequent,
      (∀ same, (∀ t, t ∈ same ↔ t ∈ targets) →
        f.selectiveEdges same runSubsequent = f.selectiveEdges targets runSubsequent) ∧
      ∀ both, (∀ t, t ∈ both ↔ t ∈ targets ∨ t ∈ targets') →
        ∃ numbers numbers' all, f.selectiveEdges targets runSubsequent = .ok numbers ∧
          f.selectiveEdges targets' runSubsequent = .ok numbers' ∧ f.selectiveEdges both runSubsequent = .ok all ∧
          all.Pairwise (· < ·) ∧ ∀ i, i ∈ all ↔ i ∈ numbers ∨ i ∈ numbers' := by
  intro g
  have hnames : ∀ t ∈ targets, t ∈ g.names := fun t ht => contains_iff.1 (htargets t ht)
  have hnames' : ∀ t ∈ targets', t ∈ g.names := fun t ht => contains_iff.1 (htargets' t ht)
  refine ⟨pairwise_edgeIndices _ _, fun i => mem_plan_ofEdges_iff hnames, plan_eq_edgeIndices_any hnames, ?_, ?_, ?_⟩
  · intro i hi e he x hx j e' he' hx'
    exact mem_plan_of_feeds hnames hi he hx he' hx'
  · intro both hboth i
    exact mem_plan_union_iff hnames hnames' hboth
  · rintro f rfl runSubsequent
    exact ⟨fun same hsame => Flow.selectiveEdges_congr htargets hsame runSubsequent,
      fun both hboth => Flow.exists_selectiveEdges_union htargets htargets' hboth runSubsequent⟩

/-- In a cycle: the edge into `d` is planned for `b`, since it leads there through `a`, and with it the edges into its
own sources. -/
theorem plan_ofEdges_exact_cycle :
    let edges := Flow.joining.edges
    let g := ofEdges edges
    (∀ t ∈ ["b"], g.contains t = true) ∧ (∀ t ∈ ["e"], g.contains t = true) ∧
      3 ∈ g.plan edges ["b"] ∧ 2 ∈ g.plan edges ["b"] ∧ 5 ∈ g.plan edges ["e", "b", "e"] ∧
      ∃ all, Flow.joining.selectiveEdges ["e", "b", "e"] true = .ok all ∧ all.Pairwise (· < ·) := by
  intro edges g
  have hb : ∀ t ∈ ["b"], g.contains t = true := by decide
  have he : ∀ t ∈ ["e"], g.contains t = true := by decide
  obtain ⟨-, hplan, -, hclosed, -⟩ := plan_ofEdges_exact edges hb he
  obtain ⟨-, hplan', -, -, hunion, hselective⟩ := plan_ofEdges_exact edges he hb
  have hda : Feeds edges "d" "a" :=
    ⟨⟨["d"], ["a"], .always, none, none⟩, by simp [edges, Flow.joining], by simp, by simp⟩
  have hab : Feeds edges "a" "b" :=
    ⟨⟨["a"], ["b", "c"], .always, none, none⟩, by simp [edges, Flow.joining], by simp, by simp⟩
  have hthree : 3 ∈ g.plan edges ["b"] :=
    (hplan 3).2 ⟨_, rfl, "d", by simp, "b", by simp, .head hda (.single hab)⟩
  have htwo : 2 ∈ g.plan edges ["b"] := hclosed 3 hthree _ rfl "b" (by simp) 2 _ rfl (by simp)
  have hfive : 5 ∈ g.plan edges ["e"] := (hplan' 5).2 ⟨_, rfl, "e", by simp, "e", by simp, .refl⟩
  have hboth : ∀ t, t ∈ ["e", "b", "e"] ↔ t ∈ ["e"] ∨ t ∈ ["b"] := by
    simp [or_comm]
  obtain ⟨_, _, all, -, -, hall, hascends, -⟩ := (hselective _ rfl true).2 _ hboth
  exact ⟨hb, he, hthree, htwo, (hunion _ hboth 5).2 (Or.inl hfive), all, hall, hascends⟩

end FlowGraph

end TaskFlow
