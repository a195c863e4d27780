import TaskFlow.Failure.Graph
import TaskFlow.Proofs.Data.NameSet

/-!
# What the builder of a failure graph adds

- `Sound`: the invariant of the builder: the index knows the one vertex of each set, and entries and links lead to the
  vertices of the sets that they stand for;
- `Content`: the sets with a vertex, the links between sets and the entries, without vertex numbers;
- `Adds b b' c`: `b'` is sound, holds `c` besides what `b` holds, and leaves the sets and the fallbacks of old vertices
  as they are. Each operation of the builder has one lemma of this form, and they compose (`Adds.trans`).
-/

namespace TaskFlow

/-- What a failure graph holds: sets with a vertex, links from a set by a name, and entries. -/
@[ext] structure Content where
  vertex : NameSet → Prop
  link : NameSet → String → Prop
  entry : String → Prop

namespace Content

def none : Content := ⟨fun _ => False, fun _ _ => False, fun _ => False⟩

instance : Union Content :=
  ⟨fun c d => ⟨fun X => c.vertex X ∨ d.vertex X, fun X x => c.link X x ∨ d.link X x, fun x => c.entry x ∨ d.entry x⟩⟩

/-- A single vertex. -/
def ofVertex (X : NameSet) : Content := { none with vertex := (· = X) }

/-- A single link. -/
def ofLink (X : NameSet) (x : String) : Content := { none with link := fun Y y => Y = X ∧ y = x }

/-- A single entry. -/
def ofEntry (x : String) : Content := { none with entry := (· = x) }

/-- The vertices and the entries of single nodes. -/
def singles (names : List String) : Content where
  vertex X := ∃ x ∈ names, X = .ofList [x]
  link _ _ := False
  entry x := x ∈ names

variable {c d e : Content}

@[simp] theorem vertex_none (X : NameSet) : none.vertex X ↔ False := Iff.rfl

@[simp] theorem link_none (X : NameSet) (x : String) : none.link X x ↔ False := Iff.rfl

@[simp] theorem entry_none (x : String) : none.entry x ↔ False := Iff.rfl

@[simp] theorem vertex_union (X : NameSet) : (c ∪ d).vertex X ↔ c.vertex X ∨ d.vertex X := Iff.rfl

@[simp] theorem link_union (X : NameSet) (x : String) : (c ∪ d).link X x ↔ c.link X x ∨ d.link X x := Iff.rfl

@[simp] theorem entry_union (x : String) : (c ∪ d).entry x ↔ c.entry x ∨ d.entry x := Iff.rfl

/-- Contents with the same members are equal. -/
theorem ext_iff' (hv : ∀ X, c.vertex X ↔ d.vertex X) (hl : ∀ X x, c.link X x ↔ d.link X x)
    (he : ∀ x, c.entry x ↔ d.entry x) : c = d :=
  Content.ext (funext fun X => propext (hv X)) (funext fun X => funext fun x => propext (hl X x))
    (funext fun x => propext (he x))

theorem union_assoc : c ∪ d ∪ e = c ∪ (d ∪ e) :=
  ext_iff' (fun _ => or_assoc) (fun _ _ => or_assoc) (fun _ => or_assoc)

@[simp] theorem union_none : c ∪ none = c :=
  ext_iff' (fun _ => or_iff_left id) (fun _ _ => or_iff_left id) (fun _ => or_iff_left id)

end Content

namespace FailureBuilder

variable {b b' b'' : FailureBuilder} {c d : Content} {X : NameSet} {x : String} {id : Nat}

/-- The set of a vertex. -/
def setOf? (b : FailureBuilder) (id : Nat) : Option NameSet := b.nodes[id]?.map FailureNode.traversed

/-- The invariant of the builder. -/
structure Sound (b : FailureBuilder) : Prop where
  index_iff : ∀ X id, b.index.find? X.names = some id ↔ b.setOf? id = some X
  entry_at : ∀ x id, b.starting.get? x = some id → b.setOf? id = some (.ofList [x])
  link_at : ∀ (id : Nat) (n : FailureNode) x t, b.nodes[id]? = some n → n.next.get? x = some t →
    x ∉ n.traversed ∧ b.setOf? t = some (n.traversed.insert x)

/-- No two vertices have the same set. -/
theorem Sound.setOf?_inj (hb : b.Sound) {i j : Nat} (hi : b.setOf? i = some X) (hj : b.setOf? j = some X) : i = j := by
  rw [← hb.index_iff] at hi hj
  exact Option.some.inj (hi.symm.trans hj)

def content (b : FailureBuilder) : Content where
  vertex X := ∃ id, b.setOf? id = some X
  link X x := ∃ (id : Nat) (n : FailureNode), b.nodes[id]? = some n ∧ n.traversed = X ∧ (n.next.get? x).isSome
  entry x := (b.starting.get? x).isSome

/-- The builder `b'` is sound and holds just `c` besides what `b` holds. -/
structure Adds (b b' : FailureBuilder) (c : Content) : Prop where
  sound : b'.Sound
  content_eq : b'.content = b.content ∪ c
  keeps : ∀ (id : Nat) (n : FailureNode), b.nodes[id]? = some n →
    ∃ n', b'.nodes[id]? = some n' ∧ n'.traversed = n.traversed ∧ n'.fallbacks = n.fallbacks
  fresh : ∀ (id : Nat) (n : FailureNode), b'.nodes[id]? = some n → b.nodes[id]? = none → n.fallbacks = []

namespace Adds

theorem setOf? (h : Adds b b' c) (hid : b.setOf? id = some X) : b'.setOf? id = some X := by
  obtain ⟨n, hn, rfl⟩ := Option.map_eq_some_iff.1 hid
  obtain ⟨n', hn', ht, -⟩ := h.keeps id n hn
  exact Option.map_eq_some_iff.2 ⟨n', hn', ht⟩

theorem refl (hb : b.Sound) (hc : b.content ∪ c = b.content) : Adds b b c :=
  ⟨hb, hc.symm, fun _ n hn => ⟨n, hn, rfl, rfl⟩, fun _ _ hn hnone => by rw [hnone] at hn; cases hn⟩

theorem trans (h : Adds b b' c) (h' : Adds b' b'' d) : Adds b b'' (c ∪ d) where
  sound := h'.sound
  content_eq := by rw [h'.content_eq, h.content_eq, Content.union_assoc]
  keeps id n hn := by
    obtain ⟨n', hn', ht, hf⟩ := h.keeps id n hn
    obtain ⟨n'', hn'', ht', hf'⟩ := h'.keeps id n' hn'
    exact ⟨n'', hn'', ht'.trans ht, hf'.trans hf⟩
  fresh id n hn hnone := by
    cases hmid : b'.nodes[id]? with
    | none => exact h'.fresh id n hn hmid
    | some n' =>
      obtain ⟨n'', hn'', -, hf⟩ := h'.keeps id n' hmid
      cases hn.symm.trans hn''
      exact hf.trans (h.fresh id n' hmid hnone)

end Adds

/-! ## Vertices -/

/-- A vertex at the end, for a set that has none. -/
def withVertex (b : FailureBuilder) (X : NameSet) : FailureBuilder :=
  { b with nodes := b.nodes.push { traversed := X }, index := b.index.insert X.names b.nodes.size }

theorem node_withVertex (b : FailureBuilder) (X : NameSet) (id : Nat) :
    (b.withVertex X).nodes[id]? = if id = b.nodes.size then some { traversed := X } else b.nodes[id]? :=
  Array.getElem?_push

theorem setOf?_withVertex (b : FailureBuilder) (X : NameSet) (id : Nat) :
    (b.withVertex X).setOf? id = if id = b.nodes.size then some X else b.setOf? id := by
  rw [setOf?, node_withVertex]
  split <;> rfl

theorem lt_size_of_node {n : FailureNode} (hn : b.nodes[id]? = some n) : id < b.nodes.size :=
  (Array.getElem?_eq_some_iff.1 hn).1

theorem lt_size_of_setOf? (h : b.setOf? id = some X) : id < b.nodes.size := by
  obtain ⟨n, hn, -⟩ := Option.map_eq_some_iff.1 h
  exact lt_size_of_node hn

theorem node_withVertex_old {n : FailureNode} (hn : b.nodes[id]? = some n) : (b.withVertex X).nodes[id]? = some n := by
  rw [node_withVertex, if_neg (Nat.ne_of_lt (lt_size_of_node hn)), hn]

theorem setOf?_withVertex_old {Y : NameSet} (h : b.setOf? id = some Y) : (b.withVertex X).setOf? id = some Y := by
  rw [setOf?_withVertex, if_neg (Nat.ne_of_lt (lt_size_of_setOf? h)), h]

/-- A vertex of the longer list is the new one, which is bare, or an old one. -/
theorem node_withVertex_cases {n : FailureNode} (hn : (b.withVertex X).nodes[id]? = some n) :
    (id = b.nodes.size ∧ n = { traversed := X }) ∨ b.nodes[id]? = some n := by
  rw [node_withVertex] at hn
  split at hn
  · exact Or.inl ⟨‹_›, (Option.some.inj hn).symm⟩
  · exact Or.inr hn

theorem withVertex_sound (hb : b.Sound) (hX : b.index.find? X.names = none) : (b.withVertex X).Sound where
  index_iff Y id := by
    rw [setOf?_withVertex]
    show (b.index.insert X.names b.nodes.size).find? Y.names = some id ↔ _
    rw [Trie.find?_insert]
    have hend : b.setOf? b.nodes.size = none := Option.eq_none_iff_forall_ne_some.2 fun Z hZ =>
      Nat.lt_irrefl _ (lt_size_of_setOf? hZ)
    by_cases hY : Y = X
    · subst hY
      have hnew : b.setOf? id ≠ some Y := fun h => by
        rw [(hb.index_iff Y id).2 h] at hX
        cases hX
      by_cases hid : id = b.nodes.size
      · simp [hid]
      · rw [if_pos rfl, if_neg hid]
        exact iff_of_false (fun h => hid (Option.some.inj h).symm) hnew
    · rw [if_neg fun he => hY (NameSet.ext he), hb.index_iff]
      by_cases hid : id = b.nodes.size
      · rw [if_pos hid, hid, hend]
        exact iff_of_false nofun fun h => hY (Option.some.inj h).symm
      · rw [if_neg hid]
  entry_at x id h := setOf?_withVertex_old (hb.entry_at x id h)
  link_at id n x t hn ht := by
    rcases node_withVertex_cases hn with ⟨-, rfl⟩ | hn
    · cases ht
    · obtain ⟨hx, ht⟩ := hb.link_at id n x t hn ht
      exact ⟨hx, setOf?_withVertex_old ht⟩

theorem withVertex_content (b : FailureBuilder) (X : NameSet) :
    (b.withVertex X).content = b.content ∪ .ofVertex X := by
  refine Content.ext_iff' (fun Y => ⟨?_, ?_⟩) (fun Y y => ⟨?_, ?_⟩) fun y => (or_iff_left not_false).symm
  · rintro ⟨id, hid⟩
    rw [setOf?_withVertex] at hid
    split at hid
    · exact Or.inr (Option.some.inj hid).symm
    · exact Or.inl ⟨id, hid⟩
  · rintro (⟨id, hid⟩ | rfl)
    · exact ⟨id, setOf?_withVertex_old hid⟩
    · exact ⟨b.nodes.size, by rw [setOf?_withVertex, if_pos rfl]⟩
  · rintro ⟨id, n, hn, hY, hy⟩
    rcases node_withVertex_cases hn with ⟨-, rfl⟩ | hn
    · cases hy
    · exact Or.inl ⟨id, n, hn, hY, hy⟩
  · rintro (⟨id, n, hn, hY, hy⟩ | h)
    · exact ⟨id, n, node_withVertex_old hn, hY, hy⟩
    · exact h.elim

theorem withVertex_adds (hb : b.Sound) (hX : b.index.find? X.names = none) :
    Adds b (b.withVertex X) (.ofVertex X) where
  sound := withVertex_sound hb hX
  content_eq := withVertex_content b X
  keeps _ n hn := ⟨n, node_withVertex_old hn, rfl, rfl⟩
  fresh id n hn hnone := by
    rcases node_withVertex_cases hn with ⟨-, rfl⟩ | hn
    · rfl
    · rw [hnone] at hn
      cases hn

/-- The vertex of a set is there afterwards, and nothing else is new. -/
theorem vertexFor_adds (hb : b.Sound) (X : NameSet) :
    Adds b (b.vertexFor X).2 (.ofVertex X) ∧ (b.vertexFor X).2.setOf? (b.vertexFor X).1 = some X := by
  unfold vertexFor
  cases hX : b.index.find? X.names with
  | some id =>
    have hid : b.setOf? id = some X := (hb.index_iff X id).1 hX
    have hold : b.content ∪ .ofVertex X = b.content :=
      Content.ext_iff' (fun Y => or_iff_left_of_imp fun hY => hY ▸ ⟨id, hid⟩) (fun _ _ => or_iff_left not_false)
        fun _ => or_iff_left not_false
    exact ⟨Adds.refl hb hold, hid⟩
  | none =>
    refine ⟨withVertex_adds hb hX, ?_⟩
    show (b.withVertex X).setOf? b.nodes.size = some X
    rw [setOf?_withVertex, if_pos rfl]

/-! ## Entries -/

/-- An entry to a vertex. -/
def withEntry (b : FailureBuilder) (x : String) (id : Nat) : FailureBuilder :=
  { b with starting := b.starting.insert x id }

theorem withEntry_adds (hb : b.Sound) (hid : b.setOf? id = some (.ofList [x])) :
    Adds b (b.withEntry x id) (.ofEntry x) where
  sound := {
    index_iff := hb.index_iff
    entry_at := fun y i hy => by
      simp only [withEntry, Dict.get?_insert] at hy
      split at hy
      · cases hy
        subst y
        exact hid
      · exact hb.entry_at y i hy
    link_at := hb.link_at }
  content_eq := by
    refine Content.ext_iff' (fun _ => (or_iff_left not_false).symm) (fun _ _ => (or_iff_left not_false).symm) ?_
    intro y
    simp only [content, withEntry, Dict.get?_insert, Content.entry_union, Content.ofEntry]
    by_cases hy : y = x <;> simp [hy]
  keeps _ n hn := ⟨n, hn, rfl, rfl⟩
  fresh _ n hn hnone := by
    rw [show b.nodes[_]? = some n from hn] at hnone
    cases hnone

/-- A single node has its vertex and its entry afterwards. -/
theorem singleton_adds (hb : b.Sound) (x : String) :
    Adds b (b.singleton x).2 (.ofVertex (.ofList [x]) ∪ .ofEntry x) ∧
      (b.singleton x).2.setOf? (b.singleton x).1 = some (.ofList [x]) := by
  unfold singleton
  cases hx : b.starting.get? x with
  | some id =>
    have hid := hb.entry_at x id hx
    refine ⟨Adds.refl hb (Content.ext_iff' (fun Y => or_iff_left_of_imp ?_) (fun _ _ => or_iff_left ?_) fun y =>
      or_iff_left_of_imp ?_), hid⟩
    · rintro (rfl | h)
      · exact ⟨id, hid⟩
      · exact h.elim
    · exact fun h => h.elim (fun h => h) fun h => h
    · rintro (h | rfl)
      · exact h.elim
      · exact Option.isSome_of_eq_some hx
  | none =>
    obtain ⟨hadds, hid⟩ := vertexFor_adds hb (.ofList [x])
    have hentry := withEntry_adds hadds.sound hid
    exact ⟨hadds.trans hentry, hentry.setOf? hid⟩

/-- The vertices of a level and their sets, one for one. -/
def Level (b : FailureBuilder) (level : List Nat) (Xs : List NameSet) : Prop :=
  List.Forall₂ (fun id X => b.setOf? id = some X) level Xs

theorem Level.mono {level : List Nat} {Xs : List NameSet} (h : b.Level level Xs) (hadds : Adds b b' c) :
    b'.Level level Xs :=
  List.Forall₂.imp (fun _ _ hid => hadds.setOf? hid) h

/-- The set of a vertex of a level. -/
theorem Level.mem {level : List Nat} {Xs : List NameSet} (h : b.Level level Xs) (hid : id ∈ level)
    (hX : b.setOf? id = some X) : X ∈ Xs := by
  induction h with
  | nil => cases hid
  | cons hhead _ ih =>
    rcases List.mem_cons.1 hid with rfl | hid
    · cases hX.symm.trans hhead
      exact List.mem_cons_self
    · exact List.mem_cons_of_mem _ (ih hid)

theorem singletons_adds (hb : b.Sound) (names : List String) :
    Adds b (b.singletons names).2 (.singles names) ∧
      (b.singletons names).2.Level (b.singletons names).1 (names.map fun x => .ofList [x]) := by
  induction names generalizing b with
  | nil => exact ⟨Adds.refl hb (Content.ext_iff' (by simp [Content.singles]) (by simp [Content.singles])
      (by simp [Content.singles])), .nil⟩
  | cons x names ih =>
    obtain ⟨hx, hid⟩ := singleton_adds hb x
    obtain ⟨hnames, hlevel⟩ := ih hx.sound
    have hall : Adds b (b.singletons (x :: names)).2 _ := hx.trans hnames
    refine ⟨?_, .cons (hnames.setOf? hid) hlevel⟩
    convert hall using 1
    refine Content.ext_iff' (fun Y => ?_) (fun _ _ => ?_) fun y => ?_
    · simp [Content.singles, Content.ofVertex, Content.ofEntry]
    · simp [Content.singles, Content.ofVertex, Content.ofEntry]
    · simp [Content.singles, Content.ofVertex, Content.ofEntry]

/-! ## Links -/

/-- A link from a vertex to another one. -/
def withLink (b : FailureBuilder) (id : Nat) (x : String) (target : Nat) : FailureBuilder :=
  b.modifyNode id fun n => { n with next := n.next.insert x target }

theorem node_modifyNode (b : FailureBuilder) (f : FailureNode → FailureNode) (i : Nat) :
    (b.modifyNode id f).nodes[i]? = if id = i then b.nodes[i]?.map f else b.nodes[i]? :=
  Array.getElem?_modify

/-- A changed vertex that covers the same nodes does not show in the sets. -/
theorem setOf?_modifyNode {f : FailureNode → FailureNode} (hf : ∀ n, (f n).traversed = n.traversed) (i : Nat) :
    (b.modifyNode id f).setOf? i = b.setOf? i := by
  rw [setOf?, node_modifyNode, setOf?]
  split
  · rw [Option.map_map, show FailureNode.traversed ∘ f = FailureNode.traversed from funext hf]
  · rfl

theorem setOf?_withLink (target i : Nat) : (b.withLink id x target).setOf? i = b.setOf? i :=
  setOf?_modifyNode (f := fun n => { n with next := n.next.insert x target }) (fun _ => rfl) i

theorem node_withLink {target i : Nat} {n : FailureNode} (hn : b.nodes[i]? = some n) :
    (b.withLink id x target).nodes[i]? = some (if id = i then { n with next := n.next.insert x target } else n) := by
  rw [withLink, node_modifyNode, hn]
  split <;> rfl

/-- Vertices with a link added come from vertices without. -/
theorem node_of_withLink {target i : Nat} {n : FailureNode} (hn : (b.withLink id x target).nodes[i]? = some n) :
    ∃ m, b.nodes[i]? = some m ∧ n = if id = i then { m with next := m.next.insert x target } else m := by
  rw [withLink, node_modifyNode] at hn
  split at hn
  · obtain ⟨m, hm, rfl⟩ := Option.map_eq_some_iff.1 hn
    exact ⟨m, hm, by rw [if_pos ‹_›]⟩
  · exact ⟨n, hn, by rw [if_neg ‹_›]⟩

theorem withLink_sound (hb : b.Sound) {target : Nat} (hid : b.setOf? id = some X) (hx : x ∉ X)
    (htarget : b.setOf? target = some (X.insert x)) : (b.withLink id x target).Sound where
  index_iff Y i := by
    rw [setOf?_withLink]
    exact hb.index_iff Y i
  entry_at y i hy := by
    rw [setOf?_withLink]
    exact hb.entry_at y i hy
  link_at i n y t hn ht := by
    obtain ⟨m, hm, rfl⟩ := node_of_withLink hn
    rw [setOf?_withLink]
    by_cases hi : id = i
    · subst hi
      rw [setOf?, hm] at hid
      cases hid
      simp only [if_true, Dict.get?_insert] at ht ⊢
      split at ht
      · cases ht
        subst y
        exact ⟨hx, htarget⟩
      · exact hb.link_at _ m y t hm ht
    · simp only [if_neg hi] at ht ⊢
      exact hb.link_at _ m y t hm ht

/-- The links are the old ones and the new one. -/
theorem link_withLink_iff {target : Nat} (hid : b.setOf? id = some X) {Y : NameSet} {y : String} :
    (b.withLink id x target).content.link Y y ↔ b.content.link Y y ∨ Y = X ∧ y = x := by
  constructor
  · rintro ⟨i, n, hn, rfl, hy⟩
    obtain ⟨m, hm, rfl⟩ := node_of_withLink hn
    split at hy
    · rename_i hi
      subst hi
      rw [setOf?, hm] at hid
      cases hid
      by_cases hxy : y = x
      · exact Or.inr ⟨by simp, hxy⟩
      · rw [Dict.get?_insert, if_neg hxy] at hy
        exact Or.inl ⟨_, m, hm, by simp, hy⟩
    · rename_i hi
      exact Or.inl ⟨i, m, hm, by simp [hi], hy⟩
  · rintro (⟨i, n, hn, rfl, hy⟩ | ⟨rfl, rfl⟩)
    · refine ⟨i, _, node_withLink hn, by split <;> rfl, ?_⟩
      split
      · rw [Dict.get?_insert]
        split
        · rfl
        · exact hy
      · exact hy
    · obtain ⟨n, hn, rfl⟩ := Option.map_eq_some_iff.1 hid
      refine ⟨id, _, node_withLink hn, by split <;> rfl, ?_⟩
      rw [if_pos rfl, Dict.get?_insert, if_pos rfl]
      rfl

theorem withLink_content {target : Nat} (hid : b.setOf? id = some X) :
    (b.withLink id x target).content = b.content ∪ .ofLink X x := by
  refine Content.ext_iff' (fun Y => ?_) (fun Y y => link_withLink_iff hid) fun _ => (or_iff_left not_false).symm
  simp only [content, setOf?_withLink]
  exact (or_iff_left not_false).symm

theorem withLink_adds (hb : b.Sound) {target : Nat} (hid : b.setOf? id = some X) (hx : x ∉ X)
    (htarget : b.setOf? target = some (X.insert x)) : Adds b (b.withLink id x target) (.ofLink X x) where
  sound := withLink_sound hb hid hx htarget
  content_eq := withLink_content hid
  keeps i n hn := ⟨_, node_withLink hn, by split <;> rfl, by split <;> rfl⟩
  fresh i n hn hnone := by
    obtain ⟨m, hm, -⟩ := node_of_withLink hn
    rw [hnone] at hm
    cases hm

end FailureBuilder

end TaskFlow
