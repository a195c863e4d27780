import TaskFlow.Proofs.Failure.Builder

/-!
# A failure graph is a union of subset lattices

- `linkLevel_adds`: a level of vertices yields all links for one more node and the level of the sets behind them;
- `addSubsets_adds`: level by level, a rule adds the lattice of the non-empty subsets of its nodes
  (`Content.lattice`), whatever is there already.
-/

namespace TaskFlow

namespace Content

/-- One node more for each of the sets: the sets with it and the links to them. -/
def extensions (Xs : List NameSet) (names : List String) : Content where
  vertex Y := ∃ X ∈ Xs, ∃ x ∈ names, x ∉ X ∧ Y = X.insert x
  link X x := X ∈ Xs ∧ x ∈ names ∧ x ∉ X
  entry _ := False

/-- The subsets of some nodes of more than `k` up to `k + n` of them, and the links to them. -/
def layers (names : List String) (k n : Nat) : Content where
  vertex Y := k < Y.size ∧ Y.size ≤ k + n ∧ ∀ y ∈ Y, y ∈ names
  link X x := k ≤ X.size ∧ X.size < k + n ∧ x ∉ X ∧ ∀ y ∈ X.insert x, y ∈ names
  entry _ := False

/-- The non-empty subsets of some nodes, the links between them, and the entries to the singletons. -/
def lattice (names : List String) : Content where
  vertex X := X ≠ .empty ∧ ∀ x ∈ X, x ∈ names
  link X x := X ≠ .empty ∧ x ∉ X ∧ ∀ y ∈ X.insert x, y ∈ names
  entry x := x ∈ names

/-- A link of a lattice leads to one of its vertices. -/
theorem vertex_of_link_lattice {names : List String} {X : NameSet} {x : String} (h : (lattice names).link X x) :
    (lattice names).vertex (X.insert x) :=
  ⟨NameSet.insert_ne_empty X x, h.2.2⟩

/-- An entry of a lattice leads to one of its vertices. -/
theorem vertex_of_entry_lattice {names : List String} {x : String} (h : (lattice names).entry x) :
    (lattice names).vertex (.ofList [x]) :=
  ⟨NameSet.insert_ne_empty .empty x, fun _ hy => NameSet.mem_singleton.1 hy ▸ h⟩

theorem extensions_cons (X : NameSet) (Xs : List NameSet) (names : List String) :
    extensions (X :: Xs) names = extensions [X] names ∪ extensions Xs names := by
  refine ext_iff' (fun Y => ?_) (fun Y y => ?_) fun _ => ?_
  · simp [extensions]
  · simp only [extensions, link_union, List.mem_cons, List.not_mem_nil, or_false, or_and_right]
  · simp [extensions]

theorem extensions_names_cons (X : NameSet) (x : String) (names : List String) :
    extensions [X] (x :: names) = extensions [X] [x] ∪ extensions [X] names := by
  refine ext_iff' (fun Y => ?_) (fun Y y => ?_) fun _ => ?_
  · simp [extensions]
  · simp only [extensions, link_union, List.mem_cons, List.not_mem_nil, or_false]
    tauto
  · simp [extensions]

theorem extensions_of_mem {X : NameSet} {x : String} (hx : x ∈ X) : extensions [X] [x] = none := by
  refine ext_iff' (fun Y => iff_of_false ?_ not_false) (fun Y y => iff_of_false ?_ not_false) fun _ => Iff.rfl
  · rintro ⟨_, hX, _, hy, hmem, -⟩
    rw [List.mem_singleton] at hX hy
    exact hmem (hX ▸ hy ▸ hx)
  · rintro ⟨hX, hy, hmem⟩
    rw [List.mem_singleton] at hX hy
    exact hmem (hX ▸ hy ▸ hx)

theorem extensions_of_notMem {X : NameSet} {x : String} (hx : x ∉ X) :
    ofVertex (X.insert x) ∪ ofLink X x = extensions [X] [x] := by
  refine ext_iff' (fun Y => ?_) (fun Y y => ?_) fun _ => or_iff_left not_false
  · simp [extensions, ofVertex, ofLink, hx]
  · simp only [extensions, ofVertex, ofLink, link_union, link_none, false_or, List.mem_singleton]
    constructor
    · rintro ⟨rfl, rfl⟩
      exact ⟨rfl, rfl, hx⟩
    · rintro ⟨rfl, rfl, -⟩
      exact ⟨rfl, rfl⟩

/-- One more layer. -/
theorem layers_succ (names : List String) (k n : Nat) :
    layers names k 1 ∪ layers names (k + 1) n = layers names k (n + 1) := by
  refine ext_iff' (fun Y => ?_) (fun Y y => ?_) fun _ => or_iff_left not_false
  · simp only [layers, vertex_union]
    constructor
    · rintro (⟨h₁, h₂, h⟩ | ⟨h₁, h₂, h⟩)
      · exact ⟨h₁, by omega, h⟩
      · exact ⟨by omega, by omega, h⟩
    · rintro ⟨h₁, h₂, h⟩
      by_cases hk : Y.size ≤ k + 1
      · exact Or.inl ⟨h₁, hk, h⟩
      · exact Or.inr ⟨by omega, by omega, h⟩
  · simp only [layers, link_union]
    constructor
    · rintro (⟨h₁, h₂, h⟩ | ⟨h₁, h₂, h⟩)
      · exact ⟨h₁, by omega, h⟩
      · exact ⟨by omega, by omega, h⟩
    · rintro ⟨h₁, h₂, h⟩
      by_cases hk : Y.size = k
      · exact Or.inl ⟨h₁, by omega, h⟩
      · exact Or.inr ⟨by omega, by omega, h⟩

/-- The extensions of all subsets of one size are a layer. -/
theorem extensions_eq_layers {Xs : List NameSet} {names : List String} {k : Nat}
    (hXs : ∀ X, X ∈ Xs ↔ X.size = k ∧ ∀ x ∈ X, x ∈ names) : extensions Xs names = layers names k 1 := by
  refine ext_iff' (fun Y => ?_) (fun X x => ?_) fun _ => Iff.rfl
  · simp only [extensions, layers]
    constructor
    · rintro ⟨X, hX, x, hx, hxX, rfl⟩
      obtain ⟨hk, hsub⟩ := (hXs X).1 hX
      rw [NameSet.size_insert hxX]
      refine ⟨by omega, by omega, fun y hy => ?_⟩
      rcases NameSet.mem_insert.1 hy with rfl | hy
      · exact hx
      · exact hsub y hy
    · rintro ⟨hlt, hle, hsub⟩
      obtain ⟨X, x, hx, rfl⟩ := NameSet.exists_insert (NameSet.size_pos_iff.1 (Nat.zero_lt_of_lt hlt))
      rw [NameSet.size_insert hx] at hlt hle
      exact ⟨X, (hXs X).2 ⟨by omega, fun y hy => hsub y (NameSet.subset_insert X x y hy)⟩, x,
        hsub x (NameSet.mem_insert.2 (Or.inl rfl)), hx, rfl⟩
  · simp only [extensions, layers, hXs]
    constructor
    · rintro ⟨⟨hk, hsub⟩, hx, hxX⟩
      refine ⟨by omega, by omega, hxX, fun y hy => ?_⟩
      rcases NameSet.mem_insert.1 hy with rfl | hy
      · exact hx
      · exact hsub y hy
    · rintro ⟨h₁, h₂, hxX, hsub⟩
      exact ⟨⟨by omega, fun y hy => hsub y (NameSet.subset_insert X x y hy)⟩,
        hsub x (NameSet.mem_insert.2 (Or.inl rfl)), hxX⟩

/-- The sets of single nodes, by their size. -/
theorem vertex_singles (names : List String) (X : NameSet) :
    (singles names).vertex X ↔ X.size = 1 ∧ ∀ x ∈ X, x ∈ names := by
  rw [NameSet.size_eq_one_iff]
  constructor
  · rintro ⟨x, hx, rfl⟩
    exact ⟨⟨x, rfl⟩, fun y hy => NameSet.mem_singleton.1 hy ▸ hx⟩
  · rintro ⟨⟨x, rfl⟩, hsub⟩
    exact ⟨x, hsub x (NameSet.mem_singleton.2 rfl), rfl⟩

/-- The singletons and all layers above them. -/
theorem singles_union_layers (names : List String) :
    singles names ∪ layers names 1 (names.length - 1) = lattice names := by
  refine ext_iff' (fun X => ?_) (fun X x => ?_) fun _ => or_iff_left not_false
  · simp only [vertex_union, vertex_singles, layers, lattice, ← NameSet.size_pos_iff]
    constructor
    · rintro (⟨hX, hsub⟩ | ⟨hlt, -, hsub⟩)
      · exact ⟨by omega, hsub⟩
      · exact ⟨by omega, hsub⟩
    · rintro ⟨hpos, hsub⟩
      have hle : X.size ≤ names.length := NameSet.size_le_length hsub
      by_cases hX : X.size = 1
      · exact Or.inl ⟨hX, hsub⟩
      · exact Or.inr ⟨by omega, by omega, hsub⟩
  · simp only [singles, layers, lattice, link_union, false_or, ← NameSet.size_pos_iff]
    constructor
    · rintro ⟨hlt, -, hx, hsub⟩
      exact ⟨by omega, hx, hsub⟩
    · rintro ⟨hpos, hx, hsub⟩
      have hle := NameSet.size_le_length hsub
      rw [NameSet.size_insert hx] at hle
      exact ⟨by omega, by omega, hx, hsub⟩

end Content

namespace FailureBuilder

variable {b : FailureBuilder} {X : NameSet} {Xs Ys : List NameSet} {level : List Nat} {id : Nat}

/-! ## One level -/

/-- One link, with the set behind it put on the next level. -/
theorem link_adds (hb : b.Sound) (hid : b.setOf? id = some X) (hlevel : b.Level level Ys) (x : String) :
    Adds b (link id (level, b) x).2 (.extensions [X] [x]) ∧
      ∃ Zs, (link id (level, b) x).2.Level (link id (level, b) x).1 Zs ∧
        ∀ Z, Z ∈ Zs ↔ Z ∈ Ys ∨ (Content.extensions [X] [x]).vertex Z := by
  obtain ⟨n, hn, rfl⟩ := Option.map_eq_some_iff.1 hid
  simp only [link, hn]
  by_cases hx : x ∈ n.traversed
  · rw [if_pos (NameSet.contains_iff.2 hx), Content.extensions_of_mem hx]
    exact ⟨Adds.refl hb Content.union_none, Ys, hlevel, fun Z => (or_iff_left not_false).symm⟩
  · rw [if_neg (mt NameSet.contains_iff.1 hx), ← Content.extensions_of_notMem hx]
    obtain ⟨hadds, htarget⟩ := vertexFor_adds hb (n.traversed.insert x)
    have hlink := withLink_adds hadds.sound (hadds.setOf? hid) hx htarget
    have hall := hadds.trans hlink
    have htarget' := hlink.setOf? htarget
    have hold := hlevel.mono hall
    refine ⟨hall, ?_⟩
    by_cases hmem : (b.vertexFor (n.traversed.insert x)).1 ∈ level
    · rw [if_pos (List.contains_iff_mem.2 hmem)]
      refine ⟨Ys, hold, fun Z => (or_iff_left_of_imp ?_).symm⟩
      rintro (rfl | h)
      · exact hold.mem hmem htarget'
      · exact h.elim
    · rw [if_neg (mt List.contains_iff_mem.1 hmem)]
      refine ⟨Ys ++ [n.traversed.insert x], List.rel_append hold (.cons htarget' .nil), fun Z => ?_⟩
      rw [List.mem_append, List.mem_singleton]
      exact or_congr_right (or_iff_left not_false).symm

/-- All links of one vertex. -/
theorem foldl_link_adds (hb : b.Sound) (hid : b.setOf? id = some X) (hlevel : b.Level level Ys) (names : List String) :
    Adds b (names.foldl (link id) (level, b)).2 (.extensions [X] names) ∧
      ∃ Zs, (names.foldl (link id) (level, b)).2.Level (names.foldl (link id) (level, b)).1 Zs ∧
        ∀ Z, Z ∈ Zs ↔ Z ∈ Ys ∨ (Content.extensions [X] names).vertex Z := by
  induction names generalizing b level Ys with
  | nil =>
    have hnone : Content.extensions [X] [] = .none :=
      Content.ext_iff' (by simp [Content.extensions]) (by simp [Content.extensions]) (by simp [Content.extensions])
    rw [hnone]
    exact ⟨Adds.refl hb Content.union_none, Ys, hlevel, fun Z => (or_iff_left not_false).symm⟩
  | cons x names ih =>
    obtain ⟨hadds, Zs, hZs, hmem⟩ := link_adds hb hid hlevel x
    obtain ⟨hrest, Ws, hWs, hmem'⟩ := ih hadds.sound (hadds.setOf? hid) hZs
    rw [Content.extensions_names_cons, List.foldl_cons]
    refine ⟨hadds.trans hrest, Ws, hWs, fun Z => ?_⟩
    rw [hmem', hmem, Content.vertex_union, or_assoc]

/-- The links of some vertices of a level, with the next level as far as it is found already. -/
theorem foldl_level_adds (hb : b.Sound) {next : List Nat} (hlevel : b.Level level Xs) (hnext : b.Level next Ys)
    (names : List String) :
    Adds b (level.foldl (fun state id => names.foldl (link id) state) (next, b)).2 (.extensions Xs names) ∧
      ∃ Zs, (level.foldl (fun state id => names.foldl (link id) state) (next, b)).2.Level
          (level.foldl (fun state id => names.foldl (link id) state) (next, b)).1 Zs ∧
        ∀ Z, Z ∈ Zs ↔ Z ∈ Ys ∨ (Content.extensions Xs names).vertex Z := by
  induction level generalizing b next Xs Ys with
  | nil =>
    cases hlevel
    have hnone : Content.extensions [] names = .none :=
      Content.ext_iff' (by simp [Content.extensions]) (by simp [Content.extensions]) (by simp [Content.extensions])
    rw [hnone]
    exact ⟨Adds.refl hb Content.union_none, Ys, hnext, fun Z => (or_iff_left not_false).symm⟩
  | cons i level ih =>
    cases hlevel with
    | cons hi hlevel =>
      obtain ⟨hadds, Zs, hZs, hmem⟩ := foldl_link_adds hb hi hnext names
      obtain ⟨hrest, Ws, hWs, hmem'⟩ := ih hadds.sound (Level.mono hlevel hadds) hZs
      rw [Content.extensions_cons, List.foldl_cons]
      refine ⟨hadds.trans hrest, Ws, hWs, fun Z => ?_⟩
      rw [hmem', hmem, Content.vertex_union, or_assoc]

/-- **One level.** Every set of the level is linked to the sets with one node more, which are the next level. -/
theorem linkLevel_adds (hb : b.Sound) (hlevel : b.Level level Xs) (names : List String) :
    Adds b (linkLevel names level b).2 (.extensions Xs names) ∧
      ∃ Zs, (linkLevel names level b).2.Level (linkLevel names level b).1 Zs ∧
        ∀ Z, Z ∈ Zs ↔ (Content.extensions Xs names).vertex Z := by
  obtain ⟨hadds, Zs, hZs, hmem⟩ := foldl_level_adds hb hlevel (.nil : b.Level [] []) names
  exact ⟨hadds, Zs, hZs, fun Z => (hmem Z).trans (or_iff_right List.not_mem_nil)⟩

/-! ## All levels -/

/-- Linking `n` levels, from all subsets of `k` nodes on, adds `n` layers. -/
theorem linkLevels_adds (hb : b.Sound) {names : List String} {k : Nat} (hlevel : b.Level level Xs)
    (hXs : ∀ X, X ∈ Xs ↔ X.size = k ∧ ∀ x ∈ X, x ∈ names) (n : Nat) :
    Adds b (linkLevels names n level b) (.layers names k n) := by
  induction n generalizing b level Xs k with
  | zero =>
    refine Adds.refl hb (Content.ext_iff' (fun Y => or_iff_left ?_) (fun Y y => or_iff_left ?_) fun _ =>
      or_iff_left not_false)
    · rintro ⟨h₁, h₂, -⟩
      omega
    · rintro ⟨h₁, h₂, -⟩
      omega
  | succ n ih =>
    obtain ⟨hadds, Zs, hZs, hmem⟩ := linkLevel_adds hb hlevel names
    rw [Content.extensions_eq_layers hXs] at hadds hmem
    have hlayer : ∀ Z, Z ∈ Zs ↔ Z.size = k + 1 ∧ ∀ z ∈ Z, z ∈ names := fun Z => by
      rw [hmem]
      constructor
      · rintro ⟨h₁, h₂, h⟩
        exact ⟨by omega, h⟩
      · rintro ⟨hk, h⟩
        exact ⟨by omega, by omega, h⟩
    rw [← Content.layers_succ]
    exact hadds.trans (ih hadds.sound hZs hlayer)

/-- **One rule.** The lattice of the subsets of its nodes is there afterwards, and nothing else is new. -/
theorem addSubsets_adds (hb : b.Sound) (names : List String) : Adds b (b.addSubsets names) (.lattice names) := by
  obtain ⟨hsingles, hlevel⟩ := singletons_adds hb names
  have hsets : ∀ X, X ∈ names.map (fun x => NameSet.ofList [x]) ↔ X.size = 1 ∧ ∀ x ∈ X, x ∈ names := by
    intro X
    rw [← Content.vertex_singles, List.mem_map]
    simp only [Content.singles, eq_comm]
  rw [← Content.singles_union_layers]
  exact hsingles.trans (linkLevels_adds hsingles.sound hlevel hsets _)

end FailureBuilder

end TaskFlow
