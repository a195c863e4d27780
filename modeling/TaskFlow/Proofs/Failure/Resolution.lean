import TaskFlow.Failure.Resolution
import TaskFlow.Proofs.Data.Dict
import TaskFlow.Proofs.Data.Reach
import TaskFlow.Proofs.Failure.Graph

/-!
# Which fallback a set of failures gets

- `mem_covered_iff`: the search along links finds just the vertices inside a set of failures, although it enters only
  at single nodes;
- `candidates_perm`, `candidates_congr`: the fallbacks that are offered are those of these vertices and depend on
  nothing else;
- `Resolution.Settles`: what asking fallbacks one after the other comes to, with the entries asked;
- `resolve_ofRules_settles`: `resolve` asks the fallbacks of all vertices inside the failures, larger sets first, then
  by number, then in the order of the rules, and stops at the first that is accepted or in error.
-/

namespace TaskFlow

namespace FailureGraph

variable {g : FailureGraph} {failed X : NameSet} {x : String} {id t : Nat} {rules : List FailureRule}

theorem mem_failedLinks_iff : t ∈ g.failedLinks failed id ↔ ∃ x ∈ failed, g.next? id x = some t := by
  unfold failedLinks next?
  cases g.node? id with
  | none => simp
  | some n =>
    simp only [List.mem_filterMap, Prod.exists, Dict.mem_entries_iff, Option.bind_eq_bind, Option.bind_some]
    constructor
    · rintro ⟨x, t', hnext, h⟩
      split at h
      · rename_i hx
        cases h
        exact ⟨x, NameSet.contains_iff.1 hx, hnext⟩
      · cases h
    · rintro ⟨x, hx, hnext⟩
      exact ⟨x, t, hnext, if_pos (NameSet.contains_iff.2 hx)⟩

theorem mem_entries_iff : id ∈ failed.names.filterMap g.entry? ↔ ∃ x ∈ failed, g.entry? x = some id :=
  List.mem_filterMap

/-! ## The search -/

/-- The search enters at vertices inside the failures. -/
theorem setOf?_of_mem_entries (hg : g.Holds (.ofRules rules)) (h : id ∈ failed.names.filterMap g.entry?) :
    ∃ X, g.setOf? id = some X ∧ X ⊆ failed := by
  obtain ⟨x, hx, hid⟩ := mem_entries_iff.1 h
  exact ⟨_, ((hg.entry_iff x id).1 hid).2, fun y hy => NameSet.mem_singleton.1 hy ▸ hx⟩

/-- A link for a failed node leads from a vertex inside the failures to another one. -/
theorem setOf?_of_mem_failedLinks (hg : g.Holds (.ofRules rules)) (hid : g.setOf? id = some X) (hX : X ⊆ failed)
    (h : t ∈ g.failedLinks failed id) : ∃ Y, g.setOf? t = some Y ∧ Y ⊆ failed := by
  obtain ⟨x, hx, hnext⟩ := mem_failedLinks_iff.1 h
  refine ⟨X.insert x, ((hg.next_iff id X x t hid).1 hnext).2.2, fun y hy => ?_⟩
  rcases NameSet.mem_insert.1 hy with rfl | hy
  · exact hx
  · exact hX y hy

/-- No link leaves the graph. -/
theorem lt_size_of_mem_failedLinks (hg : g.Holds (.ofRules rules)) (h : t ∈ g.failedLinks failed id) : t < g.size := by
  obtain ⟨x, -, hnext⟩ := mem_failedLinks_iff.1 h
  obtain ⟨n, hn, -⟩ := Option.bind_eq_some_iff.1 hnext
  exact lt_size_of_setOf? ((hg.next_iff id _ x t (setOf?_of_node? hn)).1 hnext).2.2

/-- The vertex of any set inside the failures is linked from the entries, one failed node after the other. -/
theorem reflTransGen_of_subset (hg : g.Holds (.ofRules rules)) (hid : g.setOf? id = some X) (hX : X ⊆ failed) :
    ∃ p ∈ failed.names.filterMap g.entry?, Relation.ReflTransGen (fun i t => t ∈ g.failedLinks failed i) p id := by
  -- on the size of the set: the same without one node, then the link for that node
  induction hsize : X.size generalizing X id with
  | zero =>
    obtain ⟨r, -, hne, -⟩ := (hg.vertex_iff X).2 ⟨id, hid⟩
    exact absurd (NameSet.size_eq_zero_iff.1 hsize) hne
  | succ k ih =>
    obtain ⟨r, hr, hne, hsub⟩ := (hg.vertex_iff X).2 ⟨id, hid⟩
    obtain ⟨Y, x, hx, rfl⟩ := NameSet.exists_insert hne
    have hxfailed : x ∈ failed := hX x (NameSet.mem_insert.2 (Or.inl rfl))
    have hYsub : ∀ y ∈ Y, y ∈ r.nodes := fun y hy => hsub y (NameSet.subset_insert Y x y hy)
    rw [NameSet.size_insert hx] at hsize
    by_cases hY : Y = .empty
    · subst hY
      rw [NameSet.insert_empty] at hid
      have hentry : g.entry? x = some id :=
        (hg.entry_iff x id).2 ⟨⟨r, hr, hsub x (NameSet.mem_insert.2 (Or.inl rfl))⟩, hid⟩
      exact ⟨id, mem_entries_iff.2 ⟨x, hxfailed, hentry⟩, .refl⟩
    · obtain ⟨i, hi⟩ := (hg.vertex_iff Y).1 ⟨r, hr, hY, hYsub⟩
      obtain ⟨p, hp, hpath⟩ := ih hi (fun y hy => hX y (NameSet.subset_insert Y x y hy)) (by omega)
      have hnext : g.next? i x = some id := (hg.next_iff i Y x id hi).2 ⟨⟨r, hr, hY, hx, hsub⟩, hx, hid⟩
      exact ⟨p, hp, hpath.tail (mem_failedLinks_iff.2 ⟨x, hxfailed, hnext⟩)⟩

/-- The search finds just the vertices inside the failures. -/
theorem mem_covered_iff (hg : g.Holds (.ofRules rules)) :
    id ∈ g.covered failed ↔ ∃ X, g.setOf? id = some X ∧ X ⊆ failed := by
  have hclosed : ∀ i ∈ List.range g.size, ∀ t ∈ g.failedLinks failed i, t ∈ List.range g.size :=
    fun i _ t ht => List.mem_range.2 (lt_size_of_mem_failedLinks hg ht)
  have hentries : ∀ i ∈ failed.names.filterMap g.entry?, i ∈ List.range g.size := by
    intro i hi
    obtain ⟨X, hX, -⟩ := setOf?_of_mem_entries hg hi
    exact List.mem_range.2 (lt_size_of_setOf? hX)
  rw [covered, mem_gather_iff_of_closed hclosed hentries]
  constructor
  · rintro ⟨p, hp, hpath⟩
    induction hpath with
    | refl => exact setOf?_of_mem_entries hg hp
    | tail _ hstep ih =>
      obtain ⟨X, hX, hsub⟩ := ih
      exact setOf?_of_mem_failedLinks hg hX hsub hstep
  · rintro ⟨X, hX, hsub⟩
    exact reflTransGen_of_subset hg hX hsub

theorem nodup_covered (g : FailureGraph) (failed : NameSet) : (g.covered failed).Nodup := nodup_gather List.nodup_range

/-! ## The order -/

theorem precedes_iff (g : FailureGraph) (i j : Nat) :
    g.precedes i j = true ↔ g.weight j < g.weight i ∨ g.weight i = g.weight j ∧ i ≤ j := by
  simp [precedes]

/-- The vertices inside the failures in the order in which they are asked. -/
def ranked (g : FailureGraph) (failed : NameSet) : List Nat := (g.covered failed).mergeSort g.precedes

theorem ranked_perm (g : FailureGraph) (failed : NameSet) : (g.ranked failed).Perm (g.covered failed) :=
  List.mergeSort_perm _ _

theorem mem_ranked_iff : id ∈ g.ranked failed ↔ id ∈ g.covered failed := (ranked_perm g failed).mem_iff

/-- In whatever order, the fallbacks of all vertices inside the failures are offered. -/
theorem candidates_perm (g : FailureGraph) (failed : NameSet) :
    (g.candidates failed).Perm ((g.covered failed).flatMap g.resolutionsAt) :=
  (ranked_perm g failed).flatMap_right _

/-- Larger sets stand in front, and of equal ones the vertex with the smaller number. -/
theorem pairwise_ranked (g : FailureGraph) (failed : NameSet) :
    (g.ranked failed).Pairwise fun i j => g.weight j < g.weight i ∨ g.weight i = g.weight j ∧ i < j := by
  have hsorted : (g.ranked failed).Pairwise fun i j => g.precedes i j = true := by
    apply List.pairwise_mergeSort
    · intro i j k hij hjk
      rw [precedes_iff] at *
      omega
    · intro i j
      rw [Bool.or_eq_true, precedes_iff, precedes_iff]
      omega
  have hnodup : (g.ranked failed).Nodup := (ranked_perm g failed).nodup_iff.2 (nodup_covered g failed)
  refine (hsorted.and hnodup).imp ?_
  rintro i j ⟨hij, hne⟩
  rw [precedes_iff] at hij
  omega

/-- Failures with the same vertices inside them are asked in the same order. -/
theorem ranked_congr {failed' : NameSet} (hg : g.Holds (.ofRules rules))
    (h : ∀ id X, g.setOf? id = some X → (X ⊆ failed ↔ X ⊆ failed')) : g.ranked failed = g.ranked failed' := by
  have hmem : ∀ id, id ∈ g.covered failed ↔ id ∈ g.covered failed' := by
    intro id
    rw [mem_covered_iff hg, mem_covered_iff hg]
    exact exists_congr fun X => and_congr_right fun hX => h id X hX
  have hcovered : (g.covered failed).Perm (g.covered failed') :=
    (List.perm_ext_iff_of_nodup (nodup_covered g failed) (nodup_covered g failed')).2 hmem
  have hperm : (g.ranked failed).Perm (g.ranked failed') :=
    (ranked_perm g failed).trans (hcovered.trans (ranked_perm g failed').symm)
  refine hperm.eq_of_pairwise (fun i j _ _ hij hji => ?_) (pairwise_ranked g failed) (pairwise_ranked g failed')
  omega

/-- The fallbacks that are offered depend on the failures only through the vertices inside them. -/
theorem candidates_congr {failed' : NameSet} (hg : g.Holds (.ofRules rules))
    (h : ∀ id X, g.setOf? id = some X → (X ⊆ failed ↔ X ⊆ failed')) : g.candidates failed = g.candidates failed' :=
  congrArg (List.flatMap g.resolutionsAt) (ranked_congr hg h)

theorem weight_of_setOf? (h : g.setOf? id = some X) : g.weight id = X.size := by
  obtain ⟨n, hn, rfl⟩ := setOf?_eq_some_iff.1 h
  rw [weight, hn]
  rfl

end FailureGraph

/-! ## Asking -/

namespace Resolution

variable {ε : Type} {accepts : FallbackEntry → Except ε Bool} {offers : List Resolution}

/-- What asking fallbacks from the front comes to, and the entries asked: all up to the first that is accepted or in
error. -/
inductive Settles (accepts : FallbackEntry → Except ε Bool) (offers : List Resolution) :
    Except ε (Option Resolution) → List FallbackEntry → Prop
  | accepted {before after : List Resolution} {r : Resolution} (split : offers = before ++ r :: after)
      (refused : ∀ q ∈ before, accepts q.entry = .ok false) (taken : accepts r.entry = .ok true) :
      Settles accepts offers (.ok (some r)) ((before ++ [r]).map entry)
  | failed {before after : List Resolution} {r : Resolution} {e : ε} (split : offers = before ++ r :: after)
      (refused : ∀ q ∈ before, accepts q.entry = .ok false) (error : accepts r.entry = .error e) :
      Settles accepts offers (.error e) ((before ++ [r]).map entry)
  | exhausted (refused : ∀ q ∈ offers, accepts q.entry = .ok false) :
      Settles accepts offers (.ok none) (offers.map entry)

theorem Settles.cons {r : Resolution} {answer : Except ε (Option Resolution)} {asked : List FallbackEntry}
    (hr : accepts r.entry = .ok false) (h : Settles accepts offers answer asked) :
    Settles accepts (r :: offers) answer (r.entry :: asked) := by
  have hcons : ∀ {before : List Resolution}, (∀ q ∈ before, accepts q.entry = .ok false) →
      ∀ q ∈ r :: before, accepts q.entry = .ok false := by
    intro before hbefore q hq
    rcases List.mem_cons.1 hq with rfl | hq
    · exact hr
    · exact hbefore q hq
  cases h with
  | accepted split refused taken => exact .accepted (congrArg (r :: ·) split) (hcons refused) taken
  | failed split refused error => exact .failed (congrArg (r :: ·) split) (hcons refused) error
  | exhausted refused => exact .exhausted (hcons refused)

/-- The same question, with every entry asked noted down. -/
def asking (accepts : FallbackEntry → Except ε Bool) (entry : FallbackEntry) :
    ExceptT ε (StateM (List FallbackEntry)) Bool :=
  fun asked => (accepts entry, asked ++ [entry])

/-- One question, which goes on where the fallback is refused. -/
theorem first_asking_cons (accepts : FallbackEntry → Except ε Bool) (r : Resolution) (log : List FallbackEntry) :
    (first (asking accepts) (r :: offers)).run log =
      match accepts r.entry with
      | .error e => (.error e, log ++ [r.entry])
      | .ok true => (.ok (some r), log ++ [r.entry])
      | .ok false => (first (asking accepts) offers).run (log ++ [r.entry]) := by
  rw [first]
  -- the question itself only notes the entry down
  show (ExceptT.bindCont (m := StateM (List FallbackEntry)) _ (accepts r.entry)) (log ++ [r.entry]) = _
  rcases accepts r.entry with e | _ | _ <;> rfl

/-- The fallbacks are asked from the front, and none is asked after the answer is settled. -/
theorem first_settles (accepts : FallbackEntry → Except ε Bool) (offers : List Resolution) :
    ∃ asked, Settles accepts offers (first accepts offers) asked ∧
      ∀ log, (first (asking accepts) offers).run log = (first accepts offers, log ++ asked) := by
  induction offers with
  | nil => exact ⟨[], .exhausted (by simp), fun log => by rw [List.append_nil]; rfl⟩
  | cons r offers ih =>
    obtain ⟨asked, hsettles, hrun⟩ := ih
    have hsplit : r :: offers = [] ++ r :: offers := rfl
    cases hr : accepts r.entry with
    | error e =>
      have hfirst : first accepts (r :: offers) = .error e := by rw [first, hr]; rfl
      rw [hfirst]
      refine ⟨[r.entry], .failed hsplit (by simp) hr, fun log => ?_⟩
      rw [first_asking_cons, hr]
    | ok verdict =>
      cases verdict with
      | true =>
        have hfirst : first accepts (r :: offers) = .ok (some r) := by rw [first, hr]; rfl
        rw [hfirst]
        refine ⟨[r.entry], .accepted hsplit (by simp) hr, fun log => ?_⟩
        rw [first_asking_cons, hr]
      | false =>
        have hfirst : first accepts (r :: offers) = first accepts offers := by rw [first, hr]; rfl
        rw [hfirst]
        refine ⟨r.entry :: asked, .cons hr hsettles, fun log => ?_⟩
        have hlog := hrun (log ++ [r.entry])
        rw [List.append_assoc] at hlog
        rw [first_asking_cons, hr]
        exact hlog

end Resolution

namespace FailureGraph

variable {failed : NameSet} {rules : List FailureRule}

/-- The vertices inside some failures with their sets: larger sets first, of equal ones the smaller number. -/
structure Ranks (g : FailureGraph) (failed : NameSet) (order : List (Nat × NameSet)) : Prop where
  mem_iff : ∀ id X, (id, X) ∈ order ↔ g.setOf? id = some X ∧ X ⊆ failed
  pairwise : order.Pairwise fun v w => w.2.size < v.2.size ∨ v.2.size = w.2.size ∧ v.1 < w.1

/-- The fallbacks of the rules for the sets of some vertices, one vertex after the other. -/
def offersAt (rules : List FailureRule) (order : List (Nat × NameSet)) : List Resolution :=
  order.flatMap fun (id, X) => (FailureRule.entriesFor rules X).map fun entry => ⟨id, X, entry⟩

/-- A vertex with its set. -/
def withSet? (g : FailureGraph) (id : Nat) : Option (Nat × NameSet) := (g.setOf? id).map fun X => (id, X)

/-- Vertices with their sets. -/
def withSets (g : FailureGraph) (ids : List Nat) : List (Nat × NameSet) := ids.filterMap g.withSet?

theorem mem_withSets_iff {g : FailureGraph} {ids : List Nat} {id : Nat} {X : NameSet} :
    (id, X) ∈ g.withSets ids ↔ id ∈ ids ∧ g.setOf? id = some X := by
  simp only [withSets, withSet?, List.mem_filterMap, Option.map_eq_some_iff, Prod.mk.injEq]
  constructor
  · rintro ⟨i, hi, Y, hY, rfl, rfl⟩
    exact ⟨hi, hY⟩
  · rintro ⟨hid, hX⟩
    exact ⟨id, hid, X, hX, rfl, rfl⟩

theorem ranks_ranked (rules : List FailureRule) (failed : NameSet) :
    (ofRules rules).Ranks failed ((ofRules rules).withSets ((ofRules rules).ranked failed)) where
  mem_iff id X := by
    rw [mem_withSets_iff, mem_ranked_iff, mem_covered_iff (holds_ofRules rules)]
    constructor
    · rintro ⟨⟨Y, hY, hsub⟩, hX⟩
      cases hY.symm.trans hX
      exact ⟨hX, hsub⟩
    · rintro ⟨hX, hsub⟩
      exact ⟨⟨X, hX, hsub⟩, hX⟩
  pairwise := by
    rw [withSets, List.pairwise_filterMap]
    refine (pairwise_ranked _ failed).imp ?_
    rintro i j hij ⟨i', X⟩ hi ⟨j', Y⟩ hj
    obtain ⟨_, hX, h⟩ := Option.map_eq_some_iff.1 hi
    obtain ⟨_, hY, h'⟩ := Option.map_eq_some_iff.1 hj
    cases h
    cases h'
    rwa [weight_of_setOf? hX, weight_of_setOf? hY] at hij

/-- The fallbacks of vertices are those of the rules for their sets. -/
theorem flatMap_resolutionsAt (hrules : ∀ r ∈ rules, r.nodes ≠ [] ∧ r.nodes.Nodup) (ids : List Nat) :
    ids.flatMap (ofRules rules).resolutionsAt = offersAt rules ((ofRules rules).withSets ids) := by
  induction ids with
  | nil => rfl
  | cons id ids ih =>
    rw [List.flatMap_cons, ih, resolutionsAt]
    cases hn : (ofRules rules).node? id with
    | none =>
      have hset : (ofRules rules).withSet? id = none := by rw [withSet?, setOf?, hn]; rfl
      rw [withSets, withSets, List.filterMap_cons_none hset]
      rfl
    | some n =>
      have hset : (ofRules rules).withSet? id = some (id, n.traversed) := by rw [withSet?, setOf?, hn]; rfl
      rw [withSets, withSets, List.filterMap_cons_some hset]
      simp only [fallbacks_ofRules hrules hn]
      rfl

/-- **Failures get the first fallback that applies**: the vertices inside the failures are asked, larger sets first, of
equal ones the smaller number first, each with the fallbacks of the rules for its set in the order of the rules. The
entries asked are those up to the answer, and the search never leaves the vertices of the graph. -/
theorem resolve_ofRules_settles {ε : Type} (hrules : ∀ r ∈ rules, r.nodes ≠ [] ∧ r.nodes.Nodup) (failed : NameSet)
    (accepts : FallbackEntry → Except ε Bool) :
    let g := ofRules rules
    (∃ order asked, g.Ranks failed order ∧
      Resolution.Settles accepts (offersAt rules order) (g.resolve failed accepts) asked ∧
      (g.resolve failed (Resolution.asking accepts)).run [] = (g.resolve failed accepts, asked)) ∧
    (∀ id ∈ failed.names.filterMap g.entry?, id < g.size) ∧
    (∀ id, ∀ t ∈ g.failedLinks failed id, t < g.size) := by
  intro g
  have hg : g.Holds (.ofRules rules) := holds_ofRules rules
  refine ⟨?_, ?_, ?_⟩
  · have hoffers : g.candidates failed = offersAt rules (g.withSets (g.ranked failed)) :=
      flatMap_resolutionsAt hrules (g.ranked failed)
    obtain ⟨asked, hsettles, hrun⟩ := Resolution.first_settles accepts (g.candidates failed)
    refine ⟨g.withSets (g.ranked failed), asked, ranks_ranked rules failed, ?_, ?_⟩
    · rw [← hoffers]
      exact hsettles
    · exact hrun []
  · intro id hid
    obtain ⟨X, hX, -⟩ := setOf?_of_mem_entries hg hid
    exact lt_size_of_setOf? hX
  · intro id t ht
    exact lt_size_of_mem_failedLinks hg ht

/-- The fallbacks for `a` alone and for `a` with `b`, both in effect when `c` fails besides. -/
theorem resolve_ofRules_settles_pair :
    let rules : List FailureRule :=
      [⟨["a"], .stopFlow, false, .always⟩, ⟨["b", "a"], .nodes ["d"], false, .always⟩]
    let failed : NameSet := .ofList ["a", "b", "c"]
    let accepts : FallbackEntry → Except String Bool := fun entry => .ok (entry.fallback = .stopFlow)
    (∀ r ∈ rules, r.nodes ≠ [] ∧ r.nodes.Nodup) ∧
    ∃ order asked, (ofRules rules).Ranks failed order ∧
      Resolution.Settles accepts (offersAt rules order) ((ofRules rules).resolve failed accepts) asked := by
  intro rules failed accepts
  have hrules : ∀ r ∈ rules, r.nodes ≠ [] ∧ r.nodes.Nodup := by decide
  obtain ⟨⟨order, asked, hranks, hsettles, -⟩, -⟩ := resolve_ofRules_settles hrules failed accepts
  exact ⟨hrules, order, asked, hranks, hsettles⟩

end FailureGraph

end TaskFlow
