import TaskFlow.Proofs.System.Build

/-!
# Tasks by their classes

- `TaskClass.Precedes`: the order of classes, by module and by name inside a module;
- `TaskClass.insert_cases`: all that a further task can do: it joins its class, or its class is added in between;
- `TaskClass.Groups`: the classes of some tasks, each with the names of its own ones. A further task keeps this
  (`Groups.insert`), so `group` gives such classes (`groups_group`); their lists together are the names of the tasks
  (`group_perm`);
- `System.taskClasses_partition`: the task classes of a built system are a partition of its tasks.
-/

namespace TaskFlow

namespace TaskClass

variable {c d e : TaskClass} {t u : Task} {cs : List TaskClass} {tasks : List Task}

/-! ## The order of classes -/

/-- By module, then by name. -/
def Precedes (c d : TaskClass) : Prop :=
  c.moduleName < d.moduleName ∨ c.moduleName = d.moduleName ∧ c.className < d.className

theorem Precedes.trans (h : c.Precedes d) (h' : d.Precedes e) : c.Precedes e := by
  unfold Precedes at *
  rcases h with hlt | ⟨heq, hlt⟩
  · rcases h' with hlt' | ⟨heq', -⟩
    · exact Or.inl (String.lt_trans hlt hlt')
    · exact Or.inl (heq' ▸ hlt)
  · rcases h' with hlt' | ⟨heq', hlt'⟩
    · exact Or.inl (heq ▸ hlt')
    · exact Or.inr ⟨heq.trans heq', String.lt_trans hlt hlt'⟩

theorem before_iff : c.before t = true ↔ c.Precedes (ofTask t) := by
  simp [before, Precedes, ofTask]

theorem implements_iff : c.implements t = true ↔ c.moduleName = t.moduleName ∧ c.className = t.className := by
  simp [implements]

theorem implements_ofTask (t : Task) : (ofTask t).implements t = true := implements_iff.2 ⟨rfl, rfl⟩

/-- No task is in two classes, one in front of the other. -/
theorem Precedes.not_implements (h : c.Precedes d) (hc : c.implements t = true) (hd : d.implements t = true) :
    False := by
  obtain ⟨hmodule, hclass⟩ := implements_iff.1 hc
  obtain ⟨hmodule', hclass'⟩ := implements_iff.1 hd
  rcases h with hlt | ⟨-, hlt⟩
  · exact String.ne_of_lt hlt (hmodule.trans hmodule'.symm)
  · exact String.ne_of_lt hlt (hclass.trans hclass'.symm)

theorem mem_middle {front back : List TaskClass} : d ∈ front ++ c :: back ↔ d = c ∨ d ∈ front ++ back :=
  List.perm_middle.mem_iff.trans List.mem_cons

/-- A task of one class in a row is in no other one. -/
theorem not_implements_of_pairwise {front back : List TaskClass} (h : (front ++ c :: back).Pairwise Precedes)
    (hc : c.implements t = true) (hd : d ∈ front ++ back) : ¬d.implements t = true := by
  obtain ⟨-, hback, hfront⟩ := List.pairwise_append.1 h
  rcases List.mem_append.1 hd with hd | hd
  · exact fun himplements => (hfront d hd c List.mem_cons_self).not_implements himplements hc
  · exact fun himplements => ((List.pairwise_cons.1 hback).1 d hd).not_implements hc himplements

/-- A class that is neither that of a task nor in front of it is behind it. -/
theorem ofTask_precedes (himplements : ¬c.implements t = true) (hbefore : ¬c.before t = true) :
    (ofTask t).Precedes c := by
  rw [implements_iff] at himplements
  rw [before_iff, Precedes, not_or] at hbefore
  obtain ⟨hmodule, hclass⟩ := hbefore
  by_cases heq : c.moduleName = t.moduleName
  · have hne : c.className ≠ t.className := fun h => himplements ⟨heq, h⟩
    exact Or.inr ⟨heq.symm, Fields.lt_of_not_lt_of_ne (fun h => hclass ⟨heq, h⟩) hne⟩
  · exact Or.inl (Fields.lt_of_not_lt_of_ne hmodule heq)

/-! ## One more task -/

/-- A class with a task behind its others. -/
def withTask (c : TaskClass) (t : Task) : TaskClass := { c with tasks := c.tasks ++ [t.name] }

/-- All that one more task can do to classes in order: it joins its class, or there was none and it is added in
between. -/
theorem insert_cases (hordered : cs.Pairwise Precedes) (t : Task) :
    (∃ front c back, cs = front ++ c :: back ∧ c.implements t = true ∧
      insert t cs = front ++ c.withTask t :: back) ∨
    ∃ front back, cs = front ++ back ∧ (front ++ ofTask t :: back).Pairwise Precedes ∧
      insert t cs = front ++ ofTask t :: back := by
  -- the classes passed over are in front of the task's own one; the first one that is not is that one, or behind it
  induction cs with
  | nil => exact Or.inr ⟨[], [], rfl, List.pairwise_singleton _ _, rfl⟩
  | cons c cs ih =>
    obtain ⟨hhead, htail⟩ := List.pairwise_cons.1 hordered
    unfold insert
    split
    · rename_i himplements
      exact Or.inl ⟨[], c, cs, rfl, himplements, rfl⟩
    · rename_i himplements
      split
      · rename_i hbefore
        rcases ih htail with ⟨front, d, back, rfl, hd, hinsert⟩ | ⟨front, back, rfl, hnew, hinsert⟩
        · exact Or.inl ⟨c :: front, d, back, rfl, hd, by rw [hinsert, List.cons_append]⟩
        · refine Or.inr ⟨c :: front, back, rfl, List.pairwise_cons.2 ⟨fun d hd => ?_, hnew⟩, by
            rw [hinsert, List.cons_append]⟩
          rcases List.mem_append.1 hd with hd | hd
          · exact hhead d (List.mem_append_left _ hd)
          · rcases List.mem_cons.1 hd with rfl | hd
            · exact before_iff.1 hbefore
            · exact hhead d (List.mem_append_right _ hd)
      · rename_i hbefore
        have hbehind := ofTask_precedes himplements hbefore
        refine Or.inr ⟨[], c :: cs, rfl, List.pairwise_cons.2 ⟨fun d hd => ?_, hordered⟩, rfl⟩
        rcases List.mem_cons.1 hd with rfl | hd
        · exact hbehind
        · exact hbehind.trans (hhead d hd)

/-- The name of one more task is in one of the lists, and no other name comes or goes. -/
theorem insert_perm (t : Task) (cs : List TaskClass) :
    ((insert t cs).flatMap (·.tasks)).Perm (t.name :: cs.flatMap (·.tasks)) := by
  induction cs with
  | nil => exact .refl _
  | cons c cs ih =>
    unfold insert
    split
    · rw [List.flatMap_cons, List.flatMap_cons, List.append_assoc]
      exact List.perm_middle
    · split
      · rw [List.flatMap_cons, List.flatMap_cons]
        exact (ih.append_left c.tasks).trans List.perm_middle
      · exact .refl _

/-! ## The classes of some tasks -/

/-- The names of the tasks of a class, in the order of the tasks. -/
def namesIn (tasks : List Task) (c : TaskClass) : List String := (tasks.filter c.implements).map (·.name)

theorem namesIn_concat (tasks : List Task) (t : Task) (c : TaskClass) :
    namesIn (tasks ++ [t]) c = namesIn tasks c ++ if c.implements t then [t.name] else [] := by
  rw [namesIn, List.filter_append, List.map_append, namesIn]
  by_cases h : c.implements t = true <;> simp [h]

@[simp] theorem namesIn_withTask (tasks : List Task) (t : Task) (c : TaskClass) :
    namesIn tasks (c.withTask t) = namesIn tasks c := rfl

/-- The classes of some tasks, in order. -/
structure Groups (tasks : List Task) (cs : List TaskClass) : Prop where
  ordered : cs.Pairwise Precedes
  tasks_eq : ∀ c ∈ cs, c.tasks = namesIn tasks c
  tasks_ne_nil : ∀ c ∈ cs, c.tasks ≠ []
  exists_class : ∀ t ∈ tasks, ∃ c ∈ cs, c.implements t = true

namespace Groups

/-- A task that joins its class is behind the others there, and the other classes stay as they are. -/
theorem join {front back : List TaskClass} (h : Groups tasks (front ++ c :: back)) (hc : c.implements t = true) :
    Groups (tasks ++ [t]) (front ++ c.withTask t :: back) where
  ordered := by
    have hordered := h.ordered
    rw [List.pairwise_append, List.pairwise_cons] at hordered ⊢
    obtain ⟨hfront, ⟨hback, hrest⟩, hacross⟩ := hordered
    refine ⟨hfront, ⟨hback, hrest⟩, fun d hd e he => ?_⟩
    rcases List.mem_cons.1 he with rfl | he
    · exact hacross d hd c List.mem_cons_self
    · exact hacross d hd e (List.mem_cons_of_mem _ he)
  tasks_eq d hd := by
    rcases mem_middle.1 hd with rfl | hd
    · rw [namesIn_withTask, namesIn_concat, if_pos hc, ← h.tasks_eq c (mem_middle.2 (Or.inl rfl))]
      rfl
    · rw [namesIn_concat, if_neg (not_implements_of_pairwise h.ordered hc hd), List.append_nil]
      exact h.tasks_eq d (mem_middle.2 (Or.inr hd))
  tasks_ne_nil d hd := by
    rcases mem_middle.1 hd with rfl | hd
    · exact List.append_ne_nil_of_right_ne_nil _ (List.cons_ne_nil _ _)
    · exact h.tasks_ne_nil d (mem_middle.2 (Or.inr hd))
  exists_class u hu := by
    rcases List.mem_append.1 hu with hu | hu
    · obtain ⟨d, hd, himplements⟩ := h.exists_class u hu
      rcases mem_middle.1 hd with rfl | hd
      · exact ⟨d.withTask t, mem_middle.2 (Or.inl rfl), himplements⟩
      · exact ⟨d, mem_middle.2 (Or.inr hd), himplements⟩
    · cases List.mem_singleton.1 hu
      exact ⟨c.withTask t, mem_middle.2 (Or.inl rfl), hc⟩

/-- A task whose class is not there yet is the only one in it, and the other classes stay as they are. -/
theorem add {front back : List TaskClass} (h : Groups tasks (front ++ back))
    (hordered : (front ++ ofTask t :: back).Pairwise Precedes) :
    Groups (tasks ++ [t]) (front ++ ofTask t :: back) where
  ordered := hordered
  tasks_eq d hd := by
    rcases mem_middle.1 hd with rfl | hd
    · -- an earlier task of this class would have had a class among the others
      have hnone : namesIn tasks (ofTask t) = [] := by
        rw [namesIn, List.map_eq_nil_iff, List.filter_eq_nil_iff]
        intro u hu hsame
        obtain ⟨c, hc, himplements⟩ := h.exists_class u hu
        exact not_implements_of_pairwise hordered hsame hc himplements
      rw [namesIn_concat, hnone, if_pos (implements_ofTask t)]
      rfl
    · rw [namesIn_concat, if_neg (not_implements_of_pairwise hordered (implements_ofTask t) hd), List.append_nil]
      exact h.tasks_eq d hd
  tasks_ne_nil d hd := by
    rcases mem_middle.1 hd with rfl | hd
    · exact List.cons_ne_nil _ _
    · exact h.tasks_ne_nil d hd
  exists_class u hu := by
    rcases List.mem_append.1 hu with hu | hu
    · obtain ⟨d, hd, himplements⟩ := h.exists_class u hu
      exact ⟨d, mem_middle.2 (Or.inr hd), himplements⟩
    · cases List.mem_singleton.1 hu
      exact ⟨ofTask t, mem_middle.2 (Or.inl rfl), implements_ofTask t⟩

/-- One more task keeps the classes right. -/
theorem insert (h : Groups tasks cs) (t : Task) : Groups (tasks ++ [t]) (insert t cs) := by
  rcases insert_cases h.ordered t with ⟨front, c, back, rfl, hc, hinsert⟩ | ⟨front, back, rfl, hnew, hinsert⟩
  · rw [hinsert]
    exact h.join hc
  · rw [hinsert]
    exact h.add hnew

theorem foldl_insert (h : Groups tasks cs) (rest : List Task) :
    Groups (tasks ++ rest) (rest.foldl (fun cs t => TaskClass.insert t cs) cs) := by
  induction rest generalizing tasks cs with
  | nil => rwa [List.append_nil]
  | cons t rest ih =>
    rw [List.append_cons]
    exact ih (h.insert t)

end Groups

/-- The groups of a list of tasks are their classes. -/
theorem groups_group (tasks : List Task) : Groups tasks (group tasks) := by
  have hempty : Groups [] [] := ⟨.nil, nofun, nofun, nofun⟩
  exact hempty.foldl_insert tasks

theorem foldl_insert_perm (tasks : List Task) (cs : List TaskClass) :
    ((tasks.foldl (fun cs t => insert t cs) cs).flatMap (·.tasks)).Perm
      (tasks.map (·.name) ++ cs.flatMap (·.tasks)) := by
  induction tasks generalizing cs with
  | nil => exact .refl _
  | cons t tasks ih => exact (ih _).trans (((insert_perm t cs).append_left _).trans List.perm_middle)

/-- The lists of all classes together are the names of the tasks. -/
theorem group_perm (tasks : List Task) : ((group tasks).flatMap (·.tasks)).Perm (tasks.map (·.name)) := by
  have hperm := foldl_insert_perm tasks []
  rwa [List.flatMap_nil, List.append_nil] at hperm

/-! ## The partition -/

/-- The classes are in order, and each task is in its own one. -/
structure Partition (tasks : Dict Task) (cs : List TaskClass) : Prop where
  /-- All lists together have every task once, and nothing else. -/
  count_eq : ∀ x, (cs.flatMap (·.tasks)).count x = if tasks.contains x then 1 else 0
  together_iff : ∀ x t y u, tasks.get? x = some t → tasks.get? y = some u →
    ((∃ c ∈ cs, x ∈ c.tasks ∧ y ∈ c.tasks) ↔ t.moduleName = u.moduleName ∧ t.className = u.className)
  tasks_ne_nil : ∀ c ∈ cs, c.tasks ≠ []
  implemented : ∀ c ∈ cs, ∀ x ∈ c.tasks, ∃ t, tasks.get? x = some t ∧ c.moduleName = t.moduleName ∧
    c.className = t.className
  ordered : cs.Pairwise Precedes
  tasks_ordered : ∀ c ∈ cs, c.tasks.Pairwise (· < ·)

section Named

variable {tasks : Dict Task} (hnames : ∀ name t, tasks.get? name = some t → t.name = name)

include hnames

/-- A task is in the class that implements it. -/
theorem mem_tasks_iff (hc : c ∈ group tasks.values) {x : String} :
    x ∈ c.tasks ↔ ∃ t, tasks.get? x = some t ∧ c.implements t = true := by
  rw [(groups_group tasks.values).tasks_eq c hc, namesIn, List.mem_map]
  constructor
  · rintro ⟨t, ht, rfl⟩
    obtain ⟨hvalue, himplements⟩ := List.mem_filter.1 ht
    obtain ⟨name, hget⟩ := Dict.mem_values_iff.1 hvalue
    exact ⟨t, (hnames name t hget).symm ▸ hget, himplements⟩
  · rintro ⟨t, hget, himplements⟩
    exact ⟨t, List.mem_filter.2 ⟨Dict.mem_values_iff.2 ⟨x, hget⟩, himplements⟩, hnames x t hget⟩

/-- Tasks that are kept under their names are partitioned by their classes. -/
theorem partition_group : Partition tasks (group tasks.values) := by
  have hgroups := groups_group tasks.values
  constructor
  case count_eq =>
    intro x
    rw [(group_perm tasks.values).count_eq, Dict.map_name_values hnames]
    split
    · rename_i hx
      exact List.count_eq_one_of_mem tasks.nodup_keys (Dict.mem_keys_iff_contains.2 hx)
    · rename_i hx
      exact List.count_eq_zero_of_not_mem (mt Dict.mem_keys_iff_contains.1 hx)
  case together_iff =>
    intro x t y u ht hu
    constructor
    · rintro ⟨c, hc, hx, hy⟩
      obtain ⟨t', ht', himplements⟩ := (mem_tasks_iff hnames hc).1 hx
      obtain ⟨u', hu', himplements'⟩ := (mem_tasks_iff hnames hc).1 hy
      cases ht.symm.trans ht'
      cases hu.symm.trans hu'
      obtain ⟨hmodule, hclass⟩ := implements_iff.1 himplements
      obtain ⟨hmodule', hclass'⟩ := implements_iff.1 himplements'
      exact ⟨hmodule.symm.trans hmodule', hclass.symm.trans hclass'⟩
    · rintro ⟨hmodule, hclass⟩
      obtain ⟨c, hc, himplements⟩ := hgroups.exists_class t (Dict.mem_values_iff.2 ⟨x, ht⟩)
      have hother : c.implements u = true := by
        rw [implements_iff, ← hmodule, ← hclass]
        exact implements_iff.1 himplements
      exact ⟨c, hc, (mem_tasks_iff hnames hc).2 ⟨t, ht, himplements⟩, (mem_tasks_iff hnames hc).2 ⟨u, hu, hother⟩⟩
  case tasks_ne_nil => exact hgroups.tasks_ne_nil
  case implemented =>
    intro c hc x hx
    obtain ⟨t, ht, himplements⟩ := (mem_tasks_iff hnames hc).1 hx
    exact ⟨t, ht, implements_iff.1 himplements⟩
  case ordered => exact hgroups.ordered
  case tasks_ordered =>
    intro c hc
    have hkeys : tasks.keys.Pairwise (· < ·) := List.pairwise_map.2 tasks.sorted
    have hsub : (namesIn tasks.values c).Sublist (tasks.values.map (·.name)) := List.filter_sublist.map _
    rw [Dict.map_name_values hnames, ← hgroups.tasks_eq c hc] at hsub
    exact hkeys.sublist hsub

end Named

end TaskClass

namespace System

variable {config : Configuration} {registry : Registry} {s : System}

theorem name_of_task_of_build (h : (build config registry).result = .ok s) {name : String} {t : Task}
    (ht : s.tasks.get? name = some t) : t.name = name := by
  obtain ⟨-, _, tasks, _, -, htasks, -, rfl, -⟩ := build_eq_ok_iff.1 h
  obtain ⟨_, -, hbuilt⟩ := forall₂_of_mem htasks.flip (Dict.mem_of_get?_ofList ht)
  exact (buildTask_eq_ok hbuilt).1

/-- **The task classes are a partition of the tasks**: every task is in the list of one class, once; two tasks share a
class just if they have the same module and the same class name, which are those of the class; no class is empty, and
classes and their tasks are in order. -/
theorem taskClasses_partition (h : (build config registry).result = .ok s) :
    TaskClass.Partition s.tasks s.taskClasses :=
  TaskClass.partition_group fun _ _ => name_of_task_of_build h

/-- Three tasks of one class, to one of which it gives its name. A fourth one has a class of this name in another
module, a fifth one another class of that module. -/
theorem taskClasses_partition_shared :
    let config : Configuration := ⟨{
      flows := ["f"]
      tasks := [{ name := "d", moduleName := "lib" }, { name := "b", moduleName := "app", className := some "W" },
        { name := "c", moduleName := "lib", className := some "W" }, { name := "W", moduleName := "app" },
        { name := "a", moduleName := "app", className := some "W" }] },
      [{ name := "f", edges := [{ sources := some [], targets := some ["a"] }] }]⟩
    ∃ s, (build config .builtin).result = .ok s ∧ TaskClass.Partition s.tasks s.taskClasses ∧
      s.taskClasses = [⟨"app", "W", ["W", "a", "b"]⟩, ⟨"lib", "W", ["c"]⟩, ⟨"lib", "d", ["d"]⟩] := by
  intro config
  have hbuilds : ((build config .builtin).result.toOption.any fun s => s.taskClasses ==
      [⟨"app", "W", ["W", "a", "b"]⟩, ⟨"lib", "W", ["c"]⟩, ⟨"lib", "d", ["d"]⟩]) = true := by decide
  obtain ⟨s, hs, hclasses⟩ := Except.toOption_any_iff.1 hbuilds
  exact ⟨s, hs, taskClasses_partition hs, eq_of_beq hclasses⟩

end System

end TaskFlow
