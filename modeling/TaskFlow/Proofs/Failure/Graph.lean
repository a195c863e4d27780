import TaskFlow.Proofs.Failure.Lattice

/-!
# The vertices, links and entries of a failure graph

- `FailureGraph.Holds g c`: the graph `g` has just the content `c`, one vertex for each set, and entries and links that
  lead to the vertices of their sets;
- `walk?_of_holds`: failures that lie together in one rule are walked, in any order, to the vertex of their set;
- `holds_ofRules`: the graph of some rules holds the lattices of their nodes;
- `fallbacks_ofRules`: the fallbacks of a vertex are those of the rules for its set, in the order of the rules;
- `ofRules_unites_lattices`: the same without auxiliary notions.
-/

namespace TaskFlow

/-- The links of a lattice are there, with the vertices behind them. -/
def Content.Spans (c : Content) (names : List String) : Prop :=
  ∀ X x, (lattice names).link X x → c.link X x ∧ c.vertex (X.insert x)

namespace FailureGraph

variable {g : FailureGraph} {c : Content} {X : NameSet} {x : String} {id : Nat}

/-- The set of a vertex. -/
def setOf? (g : FailureGraph) (id : Nat) : Option NameSet := (g.node? id).map FailureNode.traversed

theorem setOf?_eq_some_iff : g.setOf? id = some X ↔ ∃ n, g.node? id = some n ∧ n.traversed = X := Option.map_eq_some_iff

theorem setOf?_of_node? {n : FailureNode} (h : g.node? id = some n) : g.setOf? id = some n.traversed :=
  setOf?_eq_some_iff.2 ⟨n, h, rfl⟩

theorem lt_size_of_setOf? (h : g.setOf? id = some X) : id < g.size := by
  obtain ⟨n, hn, -⟩ := setOf?_eq_some_iff.1 h
  exact (List.getElem?_eq_some_iff.1 hn).1

/-- The graph has just this content, laid out without doubles. -/
structure Holds (g : FailureGraph) (c : Content) : Prop where
  setOf?_inj : ∀ i j X, g.setOf? i = some X → g.setOf? j = some X → i = j
  vertex_iff : ∀ X, c.vertex X ↔ ∃ id, g.setOf? id = some X
  entry_iff : ∀ x id, g.entry? x = some id ↔ c.entry x ∧ g.setOf? id = some (.ofList [x])
  next_iff : ∀ id X x t, g.setOf? id = some X →
    (g.next? id x = some t ↔ c.link X x ∧ x ∉ X ∧ g.setOf? t = some (X.insert x))

theorem next?_eq (n : FailureNode) (hn : g.node? id = some n) : g.next? id x = n.next.get? x := by
  simp [next?, hn]

theorem Holds.exists_node_iff (hg : g.Holds c) :
    (∃ id n, g.node? id = some n ∧ n.traversed = X) ↔ c.vertex X := by
  rw [hg.vertex_iff]
  constructor
  · rintro ⟨id, n, hn, rfl⟩
    exact ⟨id, setOf?_of_node? hn⟩
  · rintro ⟨id, hid⟩
    exact ⟨id, setOf?_eq_some_iff.1 hid⟩

/-- The links of a vertex, by what the graph holds. -/
theorem Holds.next_iff_of_node (hg : g.Holds c) {n : FailureNode} (hn : g.node? id = some n) {t : Nat} :
    n.next.get? x = some t ↔ c.link n.traversed x ∧ x ∉ n.traversed ∧ g.setOf? t = some (n.traversed.insert x) := by
  rw [← next?_eq n hn]
  exact hg.next_iff id _ x t (setOf?_of_node? hn)

/-- From the vertex of a set, further names of a spanned list lead to the vertex of the union. -/
theorem foldlM_next?_of_holds (h : g.Holds c) {names w : List String} (hspan : c.Spans names)
    (hid : g.setOf? id = some X) (hX : X ≠ .empty) (hw : w.Nodup) (hdisj : ∀ x ∈ w, x ∉ X)
    (hsub : ∀ x ∈ X, x ∈ names) (hwsub : ∀ x ∈ w, x ∈ names) :
    ∃ t, w.foldlM g.next? id = some t ∧ g.setOf? t = some (X.union w) := by
  induction w generalizing id X with
  | nil => exact ⟨id, rfl, hid⟩
  | cons x w ih =>
    rw [List.nodup_cons] at hw
    have hx : x ∉ X := hdisj x List.mem_cons_self
    have hsub' : ∀ y ∈ X.insert x, y ∈ names := by
      intro y hy
      rcases NameSet.mem_insert.1 hy with rfl | hy
      · exact hwsub y List.mem_cons_self
      · exact hsub y hy
    obtain ⟨hlink, hvertex⟩ := hspan X x ⟨hX, hx, hsub'⟩
    obtain ⟨t, ht⟩ := (h.vertex_iff _).1 hvertex
    have hdisj' : ∀ y ∈ w, y ∉ X.insert x := by
      intro y hy hmem
      rcases NameSet.mem_insert.1 hmem with rfl | hmem
      · exact hw.1 hy
      · exact hdisj y (List.mem_cons_of_mem _ hy) hmem
    obtain ⟨t', hwalk, ht'⟩ := ih ht (NameSet.insert_ne_empty X x) hw.2 hdisj' hsub'
      fun y hy => hwsub y (List.mem_cons_of_mem _ hy)
    refine ⟨t', ?_, ht'⟩
    rw [List.foldlM_cons, (h.next_iff id X x t hid).2 ⟨hlink, hx, ht⟩]
    exact hwalk

/-- Distinct names of a spanned list are walked to the vertex of their set. -/
theorem walk?_of_holds (h : g.Holds c) {names w : List String} (hspan : c.Spans names)
    (hentry : ∀ x ∈ names, c.entry x ∧ c.vertex (.ofList [x])) (hne : w ≠ []) (hw : w.Nodup)
    (hwsub : ∀ x ∈ w, x ∈ names) : ∃ id, g.walk? w = some id ∧ g.setOf? id = some (.ofList w) := by
  cases w with
  | nil => exact absurd rfl hne
  | cons x w =>
    rw [List.nodup_cons] at hw
    obtain ⟨hx, hvertex⟩ := hentry x (hwsub x List.mem_cons_self)
    obtain ⟨i, hi⟩ := (h.vertex_iff _).1 hvertex
    have hdisj : ∀ y ∈ w, y ∉ NameSet.ofList [x] := fun y hy hmem => hw.1 (NameSet.mem_singleton.1 hmem ▸ hy)
    have hsub : ∀ y ∈ NameSet.ofList [x], y ∈ names := fun y hy =>
      NameSet.mem_singleton.1 hy ▸ hwsub x List.mem_cons_self
    obtain ⟨t, hwalk, ht⟩ := foldlM_next?_of_holds h hspan hi (NameSet.insert_ne_empty .empty x) hw.2 hdisj hsub
      fun y hy => hwsub y (List.mem_cons_of_mem _ hy)
    refine ⟨t, ?_, ht⟩
    rw [walk?, (h.entry_iff x i).2 ⟨hx, hi⟩]
    exact hwalk

end FailureGraph

/-! ## Rules -/

namespace Content

/-- The lattices of the nodes of some rules, in one. -/
def ofRules (rules : List FailureRule) : Content where
  vertex X := ∃ r ∈ rules, (lattice r.nodes).vertex X
  link X x := ∃ r ∈ rules, (lattice r.nodes).link X x
  entry x := ∃ r ∈ rules, (lattice r.nodes).entry x

theorem ofRules_nil : ofRules [] = none :=
  ext_iff' (by simp [ofRules]) (by simp [ofRules]) (by simp [ofRules])

theorem ofRules_append (rules : List FailureRule) (r : FailureRule) :
    ofRules (rules ++ [r]) = ofRules rules ∪ lattice r.nodes :=
  ext_iff' (by simp [ofRules, or_and_right, exists_or]) (by simp [ofRules, or_and_right, exists_or])
    (by simp [ofRules, or_and_right, exists_or])

end Content

/-- The fallbacks of the rules for just this set of nodes, in the order of the rules. -/
def FailureRule.entriesFor (rules : List FailureRule) (X : NameSet) : List FallbackEntry :=
  (rules.filter fun r => NameSet.ofList r.nodes = X).map FallbackEntry.ofRule

theorem FailureRule.entriesFor_append (rules : List FailureRule) (r : FailureRule) (X : NameSet) :
    entriesFor (rules ++ [r]) X = entriesFor rules X ++ if NameSet.ofList r.nodes = X then [.ofRule r] else [] := by
  rw [entriesFor, List.filter_append, List.map_append]
  congr 1
  by_cases hX : NameSet.ofList r.nodes = X <;> simp [hX]

namespace FailureBuilder

variable {b : FailureBuilder} {c : Content} {id : Nat} {rules : List FailureRule}

theorem graph_node? (b : FailureBuilder) (id : Nat) : b.graph.node? id = b.nodes[id]? := Array.getElem?_toList

theorem graph_setOf? (b : FailureBuilder) (id : Nat) : b.graph.setOf? id = b.setOf? id := by
  rw [FailureGraph.setOf?, graph_node?]
  rfl

/-- The graph of a sound builder holds the content of the builder. -/
theorem Sound.holds (hb : b.Sound) : b.graph.Holds b.content where
  setOf?_inj i j X hi hj := by
    rw [graph_setOf?] at hi hj
    exact hb.setOf?_inj hi hj
  vertex_iff X := by simp only [graph_setOf?]; rfl
  entry_iff x id := by
    rw [graph_setOf?]
    constructor
    · intro h
      exact ⟨Option.isSome_of_eq_some h, hb.entry_at x id h⟩
    · rintro ⟨h, hid⟩
      obtain ⟨i, hi⟩ := Option.isSome_iff_exists.1 h
      rw [← hb.setOf?_inj (hb.entry_at x i hi) hid]
      exact hi
  next_iff id X x t hid := by
    rw [graph_setOf?] at hid ⊢
    obtain ⟨n, hn, rfl⟩ := Option.map_eq_some_iff.1 hid
    rw [FailureGraph.next?_eq n (by rw [graph_node?, hn])]
    constructor
    · intro h
      exact ⟨⟨id, n, hn, rfl, Option.isSome_of_eq_some h⟩, hb.link_at id n x t hn h⟩
    · rintro ⟨⟨i, m, hm, hmn, hx⟩, -, ht⟩
      have hi : i = id := hb.setOf?_inj (by rw [setOf?, hm, ← hmn]; rfl) hid
      subst hi
      cases hm.symm.trans hn
      obtain ⟨t', ht'⟩ := Option.isSome_iff_exists.1 hx
      rw [← hb.setOf?_inj (hb.link_at _ n x t' hn ht').2 ht]
      exact ht'

/-- A fallback put at a vertex. -/
def withFallback (b : FailureBuilder) (id : Nat) (e : FallbackEntry) : FailureBuilder :=
  b.modifyNode id fun n => { n with fallbacks := n.fallbacks ++ [e] }

theorem node_withFallback {e : FallbackEntry} {i : Nat} {n : FailureNode} :
    (b.withFallback id e).nodes[i]? = some n ↔
      ∃ m, b.nodes[i]? = some m ∧ n = if id = i then { m with fallbacks := m.fallbacks ++ [e] } else m := by
  rw [withFallback, node_modifyNode]
  split
  · rw [Option.map_eq_some_iff]
    simp only [eq_comm]
  · simp

theorem setOf?_withFallback (e : FallbackEntry) (i : Nat) : (b.withFallback id e).setOf? i = b.setOf? i :=
  setOf?_modifyNode (f := fun n => { n with fallbacks := n.fallbacks ++ [e] }) (fun _ => rfl) i

/-- A fallback changes neither the sets nor the links. -/
theorem withFallback_sound (hb : b.Sound) (e : FallbackEntry) : (b.withFallback id e).Sound where
  index_iff X i := by rw [setOf?_withFallback]; exact hb.index_iff X i
  entry_at x i h := by rw [setOf?_withFallback]; exact hb.entry_at x i h
  link_at i n x t hn ht := by
    obtain ⟨m, hm, rfl⟩ := node_withFallback.1 hn
    rw [setOf?_withFallback]
    by_cases hi : id = i
    · simp only [if_pos hi] at ht ⊢
      exact hb.link_at i m x t hm ht
    · simp only [if_neg hi] at ht ⊢
      exact hb.link_at i m x t hm ht

theorem withFallback_content (e : FallbackEntry) : (b.withFallback id e).content = b.content := by
  refine Content.ext_iff' (fun X => ?_) (fun X x => ⟨?_, ?_⟩) fun _ => Iff.rfl
  · simp only [content, setOf?_withFallback]
  · rintro ⟨i, n, hn, hX, hx⟩
    obtain ⟨m, hm, rfl⟩ := node_withFallback.1 hn
    refine ⟨i, m, hm, ?_, ?_⟩
    · rw [← hX]; split <;> rfl
    · split at hx <;> exact hx
  · rintro ⟨i, m, hm, hX, hx⟩
    refine ⟨i, _, node_withFallback.2 ⟨m, hm, rfl⟩, ?_, ?_⟩
    · rw [← hX]; split <;> rfl
    · split <;> exact hx

/-- A rule adds the lattice of its nodes. -/
theorem addRule_content (hb : b.Sound) (r : FailureRule) :
    (b.addRule r).Sound ∧ (b.addRule r).content = b.content ∪ .lattice r.nodes := by
  have hadds := addSubsets_adds hb r.nodes
  simp only [addRule]
  split
  · exact ⟨hadds.sound, hadds.content_eq⟩
  · exact ⟨withFallback_sound hadds.sound _, (withFallback_content _).trans hadds.content_eq⟩

theorem empty_sound : ({} : FailureBuilder).Sound where
  index_iff X id := by simp [setOf?]
  entry_at x id h := by cases h
  link_at id n x t hn := by simp at hn

theorem empty_content : ({} : FailureBuilder).content = .ofRules [] := by
  rw [Content.ofRules_nil]
  exact Content.ext_iff' (by simp [content, setOf?]) (by simp [content]) (by simp [content])

/-- Further rules add their lattices to those of the rules in front. -/
theorem foldl_addRule_content (hb : b.Sound) (hcontent : b.content = .ofRules rules) (rest : List FailureRule) :
    (rest.foldl addRule b).Sound ∧ (rest.foldl addRule b).content = .ofRules (rules ++ rest) := by
  induction rest generalizing b rules with
  | nil => exact ⟨hb, by rwa [List.append_nil]⟩
  | cons r rest ih =>
    obtain ⟨hsound, hnew⟩ := addRule_content hb r
    rw [hcontent, ← Content.ofRules_append] at hnew
    have := ih hsound hnew
    rwa [List.append_assoc] at this

/-! ## Fallbacks -/

/-- Every vertex has the fallbacks of the rules for its set. -/
def Filed (rules : List FailureRule) (b : FailureBuilder) : Prop :=
  ∀ (id : Nat) (n : FailureNode), b.nodes[id]? = some n → n.fallbacks = FailureRule.entriesFor rules n.traversed

/-- Distinct nodes of a rule are walked once its lattice is there. -/
theorem walk?_addSubsets (hb : b.Sound) {names : List String} (hne : names ≠ []) (hnodup : names.Nodup) :
    ∃ id, (b.addSubsets names).graph.walk? names = some id ∧ (b.addSubsets names).setOf? id = some (.ofList names) := by
  have hadds := addSubsets_adds hb names
  have hspan : (b.addSubsets names).content.Spans names := by
    intro X x hlink
    rw [hadds.content_eq]
    exact ⟨Or.inr hlink, Or.inr (Content.vertex_of_link_lattice hlink)⟩
  have hentry : ∀ x ∈ names,
      (b.addSubsets names).content.entry x ∧ (b.addSubsets names).content.vertex (.ofList [x]) := by
    intro x hx
    rw [hadds.content_eq]
    exact ⟨Or.inr hx, Or.inr (Content.vertex_of_entry_lattice hx)⟩
  obtain ⟨id, hwalk, hid⟩ := FailureGraph.walk?_of_holds hadds.sound.holds hspan hentry hne hnodup fun _ hx => hx
  rw [graph_setOf?] at hid
  exact ⟨id, hwalk, hid⟩

/-- The lattice of a further rule leaves the fallbacks as they are. -/
theorem addSubsets_filed (hb : b.Sound) (hcontent : b.content = .ofRules rules) (hfiled : b.Filed rules)
    (names : List String) : (b.addSubsets names).Filed rules := by
  have hadds := addSubsets_adds hb names
  intro i n hn
  cases hi : b.nodes[i]? with
  | some m =>
    obtain ⟨n', hn', ht, hf⟩ := hadds.keeps i m hi
    cases hn.symm.trans hn'
    rw [hf, ht, hfiled i m hi]
  | none =>
    -- a new vertex has no fallback, and no rule in front is for its set, which would have a vertex already
    have hset : (b.addSubsets names).setOf? i = some n.traversed := by rw [setOf?, hn]; rfl
    have hvertex : (b.content ∪ .lattice names).vertex n.traversed := hadds.content_eq ▸ ⟨i, hset⟩
    rw [hcontent] at hvertex
    have hne : n.traversed ≠ .empty := by
      rcases hvertex with ⟨r, -, h⟩ | h
      · exact h.1
      · exact h.1
    rw [hadds.fresh i n hn hi, FailureRule.entriesFor, List.filter_eq_nil_iff.2, List.map_nil]
    intro r hr hX
    rw [decide_eq_true_iff] at hX
    have hold : b.content.vertex n.traversed := by
      rw [hcontent]
      exact ⟨r, hr, hne, fun x hx => NameSet.mem_ofList.1 (hX ▸ hx)⟩
    obtain ⟨j, hj⟩ := hold
    obtain ⟨m, hm, -⟩ := Option.map_eq_some_iff.1 hj
    cases hadds.sound.setOf?_inj (hadds.setOf? hj) hset
    rw [hi] at hm
    cases hm

/-- A rule is filed at the vertex of its set, behind the rules in front of it, and nowhere else. -/
theorem addRule_filed (hb : b.Sound) (hcontent : b.content = .ofRules rules) (hfiled : b.Filed rules) {r : FailureRule}
    (hne : r.nodes ≠ []) (hnodup : r.nodes.Nodup) : (b.addRule r).Filed (rules ++ [r]) := by
  have hold := addSubsets_filed hb hcontent hfiled r.nodes
  have hsound := (addSubsets_adds hb r.nodes).sound
  obtain ⟨id, hwalk, hid⟩ := walk?_addSubsets hb hne hnodup
  have hadd : b.addRule r = (b.addSubsets r.nodes).withFallback id (.ofRule r) := by
    simp only [addRule, hwalk]
    rfl
  rw [hadd]
  intro i n hn
  obtain ⟨m, hm, rfl⟩ := node_withFallback.1 hn
  have hset : (b.addSubsets r.nodes).setOf? i = some m.traversed := by rw [setOf?, hm]; rfl
  by_cases hi : id = i
  · subst hi
    have hX : NameSet.ofList r.nodes = m.traversed := Option.some.inj (hid.symm.trans hset)
    simp only [if_true, hold _ m hm, FailureRule.entriesFor_append, if_pos hX]
  · have hX : NameSet.ofList r.nodes ≠ m.traversed := by
      intro hX
      rw [← hX] at hset
      exact hi (hsound.setOf?_inj hid hset)
    simp only [if_neg hi, hold _ m hm, FailureRule.entriesFor_append, if_neg hX, List.append_nil]

theorem foldl_addRule_filed (hb : b.Sound) (hcontent : b.content = .ofRules rules) (hfiled : b.Filed rules)
    {rest : List FailureRule} (hrest : ∀ r ∈ rest, r.nodes ≠ [] ∧ r.nodes.Nodup) :
    (rest.foldl addRule b).Filed (rules ++ rest) := by
  induction rest generalizing b rules with
  | nil => rwa [List.append_nil]
  | cons r rest ih =>
    obtain ⟨hne, hnodup⟩ := hrest r List.mem_cons_self
    obtain ⟨hsound, hnew⟩ := addRule_content hb r
    rw [hcontent, ← Content.ofRules_append] at hnew
    have hfiled' := addRule_filed hb hcontent hfiled hne hnodup
    have := ih hsound hnew hfiled' fun q hq => hrest q (List.mem_cons_of_mem _ hq)
    rwa [List.append_assoc] at this

end FailureBuilder

namespace FailureGraph

/-- The graph of some rules holds the lattices of their nodes. -/
theorem holds_ofRules (rules : List FailureRule) : (ofRules rules).Holds (.ofRules rules) := by
  obtain ⟨hsound, hcontent⟩ :=
    FailureBuilder.foldl_addRule_content FailureBuilder.empty_sound FailureBuilder.empty_content rules
  rw [List.nil_append] at hcontent
  rw [← hcontent]
  exact hsound.holds

/-- The fallbacks of a vertex are those of the rules for its set, in the order of the rules. -/
theorem fallbacks_ofRules {rules : List FailureRule} (hrules : ∀ r ∈ rules, r.nodes ≠ [] ∧ r.nodes.Nodup) {id : Nat}
    {n : FailureNode} (hn : (ofRules rules).node? id = some n) :
    n.fallbacks = FailureRule.entriesFor rules n.traversed := by
  have hempty : FailureBuilder.Filed [] {} := fun i m hm => by simp at hm
  rw [ofRules, FailureBuilder.graph_node?] at hn
  exact FailureBuilder.foldl_addRule_filed FailureBuilder.empty_sound FailureBuilder.empty_content hempty hrules id n hn

/-! ## The union of the lattices -/

/-- A node has an entry just if it is in a rule. -/
theorem isSome_starting_ofRules_iff (rules : List FailureRule) (x : String) :
    ((ofRules rules).starting.get? x).isSome ↔ ∃ r ∈ rules, x ∈ r.nodes := by
  have hg := holds_ofRules rules
  constructor
  · intro h
    obtain ⟨id, hid⟩ := Option.isSome_iff_exists.1 h
    exact ((hg.entry_iff x id).1 hid).1
  · rintro ⟨r, hr, hx⟩
    have hvertex : (Content.ofRules rules).vertex (.ofList [x]) := ⟨r, hr, Content.vertex_of_entry_lattice hx⟩
    obtain ⟨id, hid⟩ := (hg.vertex_iff _).1 hvertex
    exact Option.isSome_of_eq_some ((hg.entry_iff x id).2 ⟨⟨r, hr, hx⟩, hid⟩)

/-- A vertex has a link for one more node just if a rule has them all. -/
theorem isSome_next_ofRules_iff {rules : List FailureRule} {id : Nat} {n : FailureNode}
    (hn : (ofRules rules).node? id = some n) (x : String) :
    (n.next.get? x).isSome ↔ x ∉ n.traversed ∧ ∃ r ∈ rules, ∀ y ∈ n.traversed.insert x, y ∈ r.nodes := by
  have hg := holds_ofRules rules
  constructor
  · intro h
    obtain ⟨t, ht⟩ := Option.isSome_iff_exists.1 h
    obtain ⟨⟨r, hr, -, hx, hsub⟩, -⟩ := (hg.next_iff_of_node hn).1 ht
    exact ⟨hx, r, hr, hsub⟩
  · rintro ⟨hx, r, hr, hsub⟩
    have hne : n.traversed ≠ .empty := by
      obtain ⟨_, _, hne, -⟩ := (hg.vertex_iff n.traversed).2 ⟨id, setOf?_of_node? hn⟩
      exact hne
    obtain ⟨t, ht⟩ := (hg.vertex_iff _).1 ⟨r, hr, Content.vertex_of_link_lattice ⟨hne, hx, hsub⟩⟩
    exact Option.isSome_of_eq_some ((hg.next_iff_of_node hn).2 ⟨⟨r, hr, hne, hx, hsub⟩, hx, ht⟩)

/-- The set of a vertex lies inside a rule. -/
theorem exists_rule_of_node {rules : List FailureRule} {v : FailureNode} (hv : v ∈ (ofRules rules).nodes) :
    ∃ r ∈ rules, ∀ x ∈ v.traversed, x ∈ r.nodes := by
  obtain ⟨id, hid⟩ := List.mem_iff_getElem?.1 hv
  obtain ⟨r, hr, -, hsub⟩ := ((holds_ofRules rules).vertex_iff v.traversed).2 ⟨id, setOf?_of_node? hid⟩
  exact ⟨r, hr, hsub⟩

/-- A link is for a node of a rule and leads to a vertex. -/
theorem exists_rule_of_next {rules : List FailureRule} {v : FailureNode} (hv : v ∈ (ofRules rules).nodes) {t : Nat}
    (ht : v.next.get? x = some t) : (∃ r ∈ rules, x ∈ r.nodes) ∧ t < (ofRules rules).size := by
  obtain ⟨id, hid⟩ := List.mem_iff_getElem?.1 hv
  obtain ⟨⟨r, hr, -, -, hsub⟩, -, hset⟩ := ((holds_ofRules rules).next_iff_of_node hid).1 ht
  exact ⟨⟨r, hr, hsub x (NameSet.mem_insert.2 (Or.inl rfl))⟩, lt_size_of_setOf? hset⟩

/-- An entry is for a node of a rule and leads to a vertex. -/
theorem exists_rule_of_starting {rules : List FailureRule} {id : Nat} (h : (ofRules rules).starting.get? x = some id) :
    (∃ r ∈ rules, x ∈ r.nodes) ∧ id < (ofRules rules).size := by
  obtain ⟨hentry, hset⟩ := ((holds_ofRules rules).entry_iff x id).1 h
  exact ⟨hentry, lt_size_of_setOf? hset⟩

/-- A fallback of a failure graph is that of a rule. -/
theorem exists_rule_of_mem_fallbacks {rules : List FailureRule} (hrules : ∀ r ∈ rules, r.nodes ≠ [] ∧ r.nodes.Nodup)
    {v : FailureNode} (hv : v ∈ (ofRules rules).nodes) {entry : FallbackEntry} (hentry : entry ∈ v.fallbacks) :
    ∃ r ∈ rules, entry = .ofRule r := by
  obtain ⟨id, hid⟩ := List.mem_iff_getElem?.1 hv
  rw [fallbacks_ofRules hrules hid, FailureRule.entriesFor, List.mem_map] at hentry
  obtain ⟨r, hr, rfl⟩ := hentry
  exact ⟨r, (List.mem_filter.1 hr).1, rfl⟩

/-- Every rule has its fallback at the vertex of its nodes. -/
theorem exists_mem_fallbacks_of_rule {rules : List FailureRule} (hrules : ∀ r ∈ rules, r.nodes ≠ [] ∧ r.nodes.Nodup)
    {r : FailureRule} (hr : r ∈ rules) :
    ∃ v ∈ (ofRules rules).nodes, v.traversed = .ofList r.nodes ∧ .ofRule r ∈ v.fallbacks := by
  have hne : NameSet.ofList r.nodes ≠ .empty := by
    obtain ⟨x, hx⟩ := List.exists_mem_of_ne_nil _ (hrules r hr).1
    exact NameSet.ne_empty_iff.2 ⟨x, NameSet.mem_ofList.2 hx⟩
  obtain ⟨id, hid⟩ := ((holds_ofRules rules).vertex_iff (.ofList r.nodes)).1
    ⟨r, hr, hne, fun x hx => NameSet.mem_ofList.1 hx⟩
  obtain ⟨v, hv, htraversed⟩ := setOf?_eq_some_iff.1 hid
  refine ⟨v, List.mem_of_getElem? hv, htraversed, ?_⟩
  rw [fallbacks_ofRules hrules hv, FailureRule.entriesFor, List.mem_map]
  exact ⟨r, List.mem_filter.2 ⟨hr, by simp [htraversed]⟩, rfl⟩

/-- **The graph of some rules is the union of their lattices**: one vertex for each non-empty set inside a rule, an
entry for each node of a rule, and a link for one more node just where a rule has room for it. -/
theorem ofRules_unites_lattices (rules : List FailureRule) :
    let g := ofRules rules
    (∀ X, (∃ id n, g.node? id = some n ∧ n.traversed = X) ↔ X ≠ .empty ∧ ∃ r ∈ rules, ∀ x ∈ X, x ∈ r.nodes) ∧
    (∀ i j n m, g.node? i = some n → g.node? j = some m → n.traversed = m.traversed → i = j) ∧
    (∀ x, (g.starting.get? x).isSome ↔ ∃ r ∈ rules, x ∈ r.nodes) ∧
    (∀ x id, g.starting.get? x = some id → ∃ n, g.node? id = some n ∧ n.traversed = .ofList [x]) ∧
    (∀ id n x, g.node? id = some n →
      ((n.next.get? x).isSome ↔ x ∉ n.traversed ∧ ∃ r ∈ rules, ∀ y ∈ n.traversed.insert x, y ∈ r.nodes)) ∧
    (∀ id n x t, g.node? id = some n → n.next.get? x = some t →
      ∃ m, g.node? t = some m ∧ m.traversed = n.traversed.insert x) := by
  intro g
  have hg : g.Holds (.ofRules rules) := holds_ofRules rules
  refine ⟨fun X => ?_, ?_, isSome_starting_ofRules_iff rules, ?_, fun id n x hn => isSome_next_ofRules_iff hn x, ?_⟩
  · show (∃ id n, g.node? id = some n ∧ n.traversed = X) ↔ _
    rw [hg.exists_node_iff]
    constructor
    · rintro ⟨r, hr, hne, h⟩
      exact ⟨hne, r, hr, h⟩
    · rintro ⟨hne, r, hr, h⟩
      exact ⟨r, hr, hne, h⟩
  · intro i j n m hn hm h
    exact hg.setOf?_inj i j n.traversed (setOf?_of_node? hn) (h ▸ setOf?_of_node? hm)
  · intro x id h
    exact setOf?_eq_some_iff.1 ((hg.entry_iff x id).1 h).2
  · intro id n x t hn ht
    exact setOf?_eq_some_iff.1 ((hg.next_iff_of_node hn).1 ht).2.2

end FailureGraph

end TaskFlow
