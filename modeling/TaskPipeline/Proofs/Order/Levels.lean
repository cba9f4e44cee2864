import Mathlib.Data.List.Perm.Basic
import Mathlib.Order.Bounds.Basic
import TaskPipeline.Order.Levels
import TaskPipeline.Proofs.Order.Least

/-!
# Levels are longest paths

In a list where every task stands behind those that it depends on, all of these have their levels
when the task gets its own, and keep them (`isGreatest_level`).  So the level of a task is the length
of a longest chain of dependencies inside the list that leads to it (`levels_of_sort`), and no level
below the highest is left out.  The tasks are shown under the headings of their levels, each once, and
the lines about a task tell what it is and how it is linked (`Describes`).
-/

namespace TaskPipeline.Order

variable {ts order front back : List Task} {t : Task} {id p : TaskId} {level m n : Nat}

/-- So many dependencies, each inside the list, lead one after the other to a task of the list. -/
inductive Chain (order : List Task) : Nat → TaskId → Prop where
  /-- A chain begins at any task. -/
  | start {id : TaskId} (h : id ∈ order.map Task.id) : Chain order 0 id
  /-- It goes on to a task that depends on the last one. -/
  | step {n : Nat} {p id : TaskId} (h : Chain order n p) (hneeds : Needs order id p) :
      Chain order (n + 1) id

/-- The level that a list gives to a task. -/
def HasLevel (order : List Task) (id : TaskId) (n : Nat) : Prop :=
  levelOf? (levels order) id = some n

/-! ### One task after the other -/

theorem levels_concat (front : List Task) (t : Task) :
    levels (front ++ [t]) = (t.id, depth (levels front) t) :: levels front := by
  unfold levels
  rw [List.foldl_concat]

theorem hasLevel_concat : HasLevel (front ++ [t]) id n ↔
    if t.id = id then depth (levels front) t = n else HasLevel front id n := by
  unfold HasLevel
  rw [levels_concat, levelOf?, List.find?_cons]
  by_cases h : t.id = id
  · simp [h]
  · simp [h, levelOf?]

/-- Tasks behind it do not change the level of a task. -/
theorem hasLevel_append (h : id ∉ back.map Task.id) :
    HasLevel (front ++ back) id n ↔ HasLevel front id n := by
  induction back using List.reverseRecOn with
  | nil => rw [List.append_nil]
  | append_singleton back u ih =>
    rw [List.map_append, List.mem_append, not_or] at h
    have hu : u.id ≠ id := fun hu => h.2 (hu ▸ List.mem_singleton_self _)
    rw [← List.append_assoc, hasLevel_concat, if_neg hu]
    exact ih h.1

theorem exists_hasLevel_iff : (∃ n, HasLevel order id n) ↔ id ∈ order.map Task.id := by
  induction order using List.reverseRecOn with
  | nil => exact iff_of_false (by rintro ⟨n, hn⟩; cases hn) List.not_mem_nil
  | append_singleton order t ih =>
    rw [List.map_append, List.mem_append, List.map_singleton, List.mem_singleton, ← ih]
    simp only [hasLevel_concat]
    by_cases h : t.id = id
    · simp [h]
    · simp [h, Ne.symm h]

/-- The maximum of a list, and of a number that is there besides. -/
theorem isGreatest_foldl_max (ns : List Nat) (a : Nat) :
    IsGreatest {n | n = a ∨ n ∈ ns} (ns.foldl max a) := by
  induction ns generalizing a with
  | nil => exact ⟨.inl rfl, by rintro n (rfl | h); exacts [le_rfl, absurd h List.not_mem_nil]⟩
  | cons b ns ih =>
    obtain ⟨hmem, hle⟩ := ih (max a b)
    refine ⟨?_, ?_⟩
    · rcases hmem with hmax | hmem
      · rw [List.foldl_cons, hmax]
        rcases max_choice a b with h | h
        · exact .inl h
        · exact .inr (List.mem_cons.mpr (.inl h))
      · exact .inr (List.mem_cons_of_mem b hmem)
    · have hstart := hle (.inl rfl)
      rintro n (rfl | hn)
      · exact (le_max_left n b).trans hstart
      · rcases List.mem_cons.mp hn with rfl | hn
        · exact (le_max_right a n).trans hstart
        · exact hle (.inr hn)

/-- The level that a task is given when it comes after others. -/
theorem isGreatest_depth (front : List Task) (t : Task) :
    IsGreatest {k | k = 0 ∨ ∃ p m, p ∈ t.inflows.ids ∧ HasLevel front p m ∧ k = m + 1}
      (depth (levels front) t) := by
  have hsame : {k | k = 0 ∨ ∃ p m, p ∈ t.inflows.ids ∧ HasLevel front p m ∧ k = m + 1} =
      {k | k = 0 ∨ k ∈ (t.inflows.ids.filterMap (levelOf? (levels front))).map (· + 1)} := by
    ext k
    simp only [Set.mem_ofPred_eq, List.mem_map, List.mem_filterMap, HasLevel]
    refine or_congr_right ⟨?_, ?_⟩
    · rintro ⟨p, m, hp, hm, rfl⟩
      exact ⟨m, ⟨p, hp, hm⟩, rfl⟩
    · rintro ⟨m, ⟨p, hp, hm⟩, rfl⟩
      exact ⟨p, m, hp, hm, rfl⟩
  rw [hsame]
  exact isGreatest_foldl_max _ 0

/-! ### Sorted lists -/

/-- What a list depends on does not change when it is sorted. -/
theorem Arranges.needs_iff (h : Arranges ts order) : Needs ts id p ↔ Needs order id p := by
  have hids : p ∈ ts.map Task.id ↔ p ∈ order.map Task.id := by
    rw [← has_ofList_iff, TaskMap.has_iff]
    simp only [get?_ofList_iff, List.mem_map, h.mem_iff]
  unfold Needs
  simp only [hids, counts_iff_mem h.nodup, h.mem_iff]

/-- A sorted list is in order by itself. -/
theorem Arranges.self (h : Arranges ts order) : Arranges order order := by
  refine ⟨fun t => (counts_iff_mem h.nodup).symm, h.nodup, ?_⟩
  intro front id back heq p hp
  exact h.heeds front id back heq p (h.needs_iff.mpr hp)

theorem needs_iff_of_mem (hnd : (order.map Task.id).Nodup) (ht : t ∈ order) :
    Needs order t.id p ↔ p ∈ order.map Task.id ∧ p ∈ t.inflows.ids := by
  unfold Needs
  simp only [counts_iff_mem hnd]
  refine and_congr_right fun _ => ⟨?_, fun hp => ⟨t, ht, rfl, hp⟩⟩
  rintro ⟨u, hu, hid, hp⟩
  rwa [← List.inj_on_of_nodup_map hnd hu ht hid]

/-- A task in front has the level that it has without the others. -/
theorem hasLevel_front (hnd : ((front ++ back).map Task.id).Nodup) (hid : id ∈ front.map Task.id) :
    HasLevel (front ++ back) id n ↔ HasLevel front id n := by
  rw [List.map_append] at hnd
  exact hasLevel_append (List.disjoint_of_nodup_append hnd hid)

/-- **The level of a task**, by those of the tasks that it depends on. -/
theorem isGreatest_level (h : Arranges order order) (hn : HasLevel order id n) :
    IsGreatest {k | k = 0 ∨ ∃ p m, Needs order id p ∧ HasLevel order p m ∧ k = m + 1} n := by
  obtain ⟨t, ht, rfl⟩ := List.mem_map.mp (exists_hasLevel_iff.mp ⟨n, hn⟩)
  obtain ⟨front, back, rfl⟩ := List.append_of_mem ht
  have hsplit : front ++ t :: back = (front ++ [t]) ++ back := by simp
  have hfirst : HasLevel (front ++ [t]) t.id n :=
    (hasLevel_front (hsplit ▸ h.nodup) (by simp)).mp (hsplit ▸ hn)
  rw [hasLevel_concat, if_pos rfl] at hfirst
  rw [← hfirst]
  -- what has a level already is what stands in front
  have hsame : ∀ p m, p ∈ t.inflows.ids ∧ HasLevel front p m ↔
      Needs (front ++ t :: back) t.id p ∧ HasLevel (front ++ t :: back) p m := by
    intro p m
    rw [needs_iff_of_mem h.nodup ht]
    constructor
    · rintro ⟨hp, hm⟩
      have hfront : p ∈ front.map Task.id := exists_hasLevel_iff.mp ⟨m, hm⟩
      refine ⟨⟨?_, hp⟩, (hasLevel_front h.nodup hfront).mpr hm⟩
      rw [List.map_append]
      exact List.mem_append_left _ hfront
    · rintro ⟨⟨hmem, hp⟩, hm⟩
      have hfront : p ∈ front.map Task.id := by
        refine h.heeds _ t.id (back.map Task.id) (by simp) p ?_
        exact (needs_iff_of_mem h.nodup ht).mpr ⟨hmem, hp⟩
      exact ⟨hp, (hasLevel_front h.nodup hfront).mp hm⟩
  have hgreatest := isGreatest_depth front t
  simp only [← and_assoc, hsame] at hgreatest
  simpa only [← and_assoc] using hgreatest

/-! ### Chains -/

theorem Chain.mem (h : Chain order n id) : id ∈ order.map Task.id := by
  cases h with
  | start h => exact h
  | step _ hneeds =>
    obtain ⟨-, t, ⟨front, back, rfl, -⟩, rfl, -⟩ := hneeds
    simp

/-- Every task has a greater level than those that it depends on. -/
theorem level_lt (h : Arranges order order) (hneeds : Needs order id p) (hm : HasLevel order p m)
    (hn : HasLevel order id n) : m < n :=
  (isGreatest_level h hn).2 (.inr ⟨p, m, hneeds, hm, rfl⟩)

/-- A task that is not on the lowest level depends on one on the level below its own. -/
theorem exists_level_below (h : Arranges order order) (hn : HasLevel order id (n + 1)) :
    ∃ p, Needs order id p ∧ HasLevel order p n := by
  obtain ⟨p, m, hneeds, hm, heq⟩ := (isGreatest_level h hn).1.resolve_left (Nat.succ_ne_zero n)
  obtain rfl := Nat.succ.inj heq
  exact ⟨p, hneeds, hm⟩

theorem Chain.le_level (h : Arranges order order) {k : Nat} (hchain : Chain order k id)
    (hn : HasLevel order id n) : k ≤ n := by
  induction hchain generalizing n with
  | start => exact Nat.zero_le n
  | step hchain hneeds ih =>
    obtain ⟨m, hm⟩ := exists_hasLevel_iff.mpr hchain.mem
    exact Nat.succ_le_of_lt (Nat.lt_of_le_of_lt (ih hm) (level_lt h hneeds hm hn))

theorem chain_of_hasLevel (h : Arranges order order) (hn : HasLevel order id n) :
    Chain order n id := by
  induction n generalizing id with
  | zero => exact .start (exists_hasLevel_iff.mp ⟨0, hn⟩)
  | succ n ih =>
    obtain ⟨p, hneeds, hp⟩ := exists_level_below h hn
    exact .step (ih hp) hneeds

/-- **A level is the length of a longest chain.** -/
theorem hasLevel_iff (h : Arranges order order) :
    HasLevel order id n ↔ IsGreatest {k | Chain order k id} n := by
  constructor
  · intro hn
    exact ⟨chain_of_hasLevel h hn, fun k hk => hk.le_level h hn⟩
  · intro hgreatest
    obtain ⟨m, hm⟩ := exists_hasLevel_iff.mpr hgreatest.1.mem
    have hgreatest' : IsGreatest {k | Chain order k id} m :=
      ⟨chain_of_hasLevel h hm, fun k hk => hk.le_level h hm⟩
    rwa [hgreatest.unique hgreatest']

/-! ### What is shown -/

/-- The tasks of a level, in the order of the list. -/
def atLevel (order : List Task) (level : Nat) : List Task :=
  order.filter fun t => levelOf? (levels order) t.id = some level

theorem mem_atLevel_iff : t ∈ atLevel order level ↔ t ∈ order ∧ HasLevel order t.id level := by
  unfold atLevel HasLevel
  rw [List.mem_filter, decide_eq_true_iff]

theorem exists_hasLevel (ht : t ∈ order) : ∃ n, HasLevel order t.id n :=
  exists_hasLevel_iff.mpr (List.mem_map_of_mem ht)

theorem filter_ranked (order : List Task) (level : Nat) :
    (ranked order).filter (·.1 = level) =
      (atLevel order level).map fun t => ((levelOf? (levels order) t.id).getD 0, t) := by
  unfold ranked atLevel
  rw [List.filter_map]
  congr 1
  refine List.filter_congr fun t ht => ?_
  obtain ⟨n, hn⟩ := exists_hasLevel ht
  rw [Function.comp_apply, hn]
  simp

/-- The levels of a list begin at zero and leave none out. -/
theorem atLevel_ne_nil_of_le (h : Arranges order order) (hn : atLevel order n ≠ []) (hle : m ≤ n) :
    atLevel order m ≠ [] := by
  induction n with
  | zero => rwa [Nat.le_zero.mp hle]
  | succ n ih =>
    rcases Nat.le_succ_iff.mp hle with hle | rfl
    · obtain ⟨t, ht⟩ := List.exists_mem_of_ne_nil _ hn
      obtain ⟨p, hneeds, hp⟩ := exists_level_below h (mem_atLevel_iff.mp ht).2
      obtain ⟨u, hu, rfl⟩ := List.mem_map.mp hneeds.1
      exact ih (List.ne_nil_of_mem (mem_atLevel_iff.mpr ⟨hu, hp⟩)) hle
    · exact hn

/-- The tasks of a list that is not empty are on the levels up to the highest one. -/
theorem atLevel_ne_nil_iff (h : Arranges order order) (hne : order ≠ []) :
    atLevel order n ≠ [] ↔ n ≤ topLevel (ranked order) := by
  have hgreatest := isGreatest_foldl_max ((ranked order).map (·.1)) 0
  constructor
  · intro hn
    obtain ⟨t, ht⟩ := List.exists_mem_of_ne_nil _ hn
    obtain ⟨ht, hlevel⟩ := mem_atLevel_iff.mp ht
    refine hgreatest.2 (.inr (List.mem_map.mpr ⟨(n, t), List.mem_map.mpr ⟨t, ht, ?_⟩, rfl⟩))
    rw [show levelOf? (levels order) t.id = some n from hlevel]
    rfl
  · refine atLevel_ne_nil_of_le h ?_
    rcases hgreatest.1 with hzero | htop
    · obtain ⟨t, ht⟩ := List.exists_mem_of_ne_nil _ hne
      obtain ⟨k, hk⟩ := exists_hasLevel ht
      rw [topLevel, hzero]
      exact atLevel_ne_nil_of_le h (List.ne_nil_of_mem (mem_atLevel_iff.mpr ⟨ht, hk⟩))
        (Nat.zero_le k)
    · obtain ⟨⟨k, u⟩, hu, hk⟩ := List.mem_map.mp htop
      obtain ⟨t, ht, heq⟩ := List.mem_map.mp hu
      obtain ⟨l, hl⟩ := exists_hasLevel ht
      rw [show levelOf? (levels order) t.id = some l from hl] at heq
      have hkl : l = topLevel (ranked order) := (congrArg Prod.fst heq).trans hk
      exact List.ne_nil_of_mem (mem_atLevel_iff.mpr ⟨ht, hkl ▸ hl⟩)

/-- The lines about a level that has tasks. -/
def levelText (order : List Task) (label : TaskId → String) (level : Nat) : String :=
  "\nLevel " ++ toString level ++ ":\n" ++
    String.join ((atLevel order level).map (taskLines order label))

theorem levelLines_ranked (label : TaskId → String) (hlevel : atLevel order level ≠ []) :
    levelLines (ranked order) (taskLines order label) level = levelText order label level := by
  unfold levelLines levelText
  rw [filter_ranked]
  obtain ⟨t, ts, hts⟩ := List.exists_cons_of_ne_nil hlevel
  rw [hts]
  simp only [List.map_cons, List.map_map, Function.comp_def]

theorem render_eq (h : Arranges order order) (label : TaskId → String) (hne : order ≠ []) :
    render order label =
      "Task Dependency Graph:\n" ++ String.ofList (List.replicate 50 '=') ++ "\n" ++
        String.join ((List.range (topLevel (ranked order) + 1)).map (levelText order label)) := by
  unfold render
  rw [if_neg (by rwa [List.isEmpty_iff])]
  dsimp only
  refine congrArg _ (congrArg String.join (List.map_congr_left fun level hlevel => ?_))
  have hle := Nat.le_of_lt_succ (List.mem_range.mp hlevel)
  exact levelLines_ranked label ((atLevel_ne_nil_iff h hne).mpr hle)

/-- Every task stands on one level, and there once. -/
theorem flatMap_atLevel_perm (h : Arranges order order) (hne : order ≠ []) :
    ((List.range (topLevel (ranked order) + 1)).flatMap (atLevel order)).Perm order := by
  have hnd : order.Nodup := h.nodup.of_map _
  refine (List.perm_ext_iff_of_nodup (List.nodup_flatMap.mpr ⟨?_, ?_⟩) hnd).mpr fun t => ?_
  · exact fun level _ => hnd.filter _
  · refine List.nodup_range.imp fun {m n} hmn => ?_
    intro t hm hn
    exact hmn (Option.some.inj ((mem_atLevel_iff.mp hm).2.symm.trans (mem_atLevel_iff.mp hn).2))
  · rw [List.mem_flatMap]
    constructor
    · rintro ⟨level, -, ht⟩
      exact (mem_atLevel_iff.mp ht).1
    · intro ht
      obtain ⟨n, hn⟩ := exists_hasLevel ht
      have hmem := mem_atLevel_iff.mpr ⟨ht, hn⟩
      have hle := (atLevel_ne_nil_iff h hne).mp (List.ne_nil_of_mem hmem)
      exact ⟨n, List.mem_range.mpr (Nat.lt_succ_of_le hle), hmem⟩

/-- A task is named by its name if it is in the list, and otherwise by its identifier. -/
inductive NameOf (order : List Task) (id : TaskId) : String → Prop where
  /-- The task is in the list. -/
  | listed {t : Task} (ht : t ∈ order) (hid : t.id = id) : NameOf order id t.name
  /-- It is not. -/
  | unlisted (h : id ∉ order.map Task.id) : NameOf order id id.text

theorem nameOf_nameIn (order : List Task) (id : TaskId) : NameOf order id (nameIn order id) := by
  unfold nameIn
  split
  · next t ht =>
    exact .listed (List.mem_reverse.mp (List.mem_of_find?_eq_some ht))
      (by simpa using List.find?_some ht)
  · next hnone =>
    refine .unlisted fun hmem => ?_
    obtain ⟨t, ht, hid⟩ := List.mem_map.mp hmem
    exact List.find?_eq_none.mp hnone t (List.mem_reverse.mpr ht) (decide_eq_true hid)

/-- A line with the names of tasks, or no line if there are none. -/
def listing (title : String) (names : List String) : String :=
  if names.isEmpty then "" else title ++ String.intercalate ", " names ++ "\n"

/-- What is told of a task: one line with the icon of its stage, its label, its name and its stage, and
one line each with the tasks that it depends on and with those that depend on it, in their order. -/
def Describes (order : List Task) (label : TaskId → String) (t : Task) (text : String) : Prop :=
  ∃ needed enabled, List.Forall₂ (NameOf order) t.inflows.ids needed ∧
    List.Forall₂ (NameOf order) t.outflows.ids enabled ∧
    text = "  " ++ t.stage.icon ++ " [" ++ label t.id ++ "] " ++ t.name ++
        " (" ++ t.stage.text ++ ")\n" ++
      listing "    ↑ depends on: " needed ++ listing "    ↓ enables: " enabled

/-- **The lines about a task describe it.** -/
theorem describes_taskLines (order : List Task) (label : TaskId → String) (t : Task) :
    Describes order label t (taskLines order label t) := by
  have hnames : ∀ f : Flows, List.Forall₂ (NameOf order) f.ids (f.ids.map (nameIn order)) := fun f =>
    List.forall₂_map_right_iff.mpr (List.forall₂_same.mpr fun id _ => nameOf_nameIn order id)
  refine ⟨_, _, hnames t.inflows, hnames t.outflows, ?_⟩
  unfold taskLines listing Flows.isEmpty
  rw [List.isEmpty_map, List.isEmpty_map]

/-! ### The answer -/

/-- What the levels of a list are. -/
structure Layered (order : List Task) : Prop where
  /-- Every task has a level. -/
  complete : ∀ t ∈ order, ∃ n, HasLevel order t.id n
  /-- It is the length of a longest chain that leads to the task. -/
  longest : ∀ id n, HasLevel order id n ↔ IsGreatest {k | Chain order k id} n
  /-- Dependencies lead upward. -/
  rises : ∀ id p m n, Needs order id p → HasLevel order p m → HasLevel order id n → m < n
  /-- A task that is not on the lowest level depends on one right below it. -/
  rests : ∀ id n, HasLevel order id (n + 1) → ∃ p, Needs order id p ∧ HasLevel order p n

/-- The list is shown level by level, up to the highest level that has tasks. -/
structure Shown (order : List Task) (label : TaskId → String) (top : Nat) : Prop where
  /-- No level is left out. -/
  gapless : ∀ level, atLevel order level ≠ [] ↔ level ≤ top
  /-- Every task is on one level, once. -/
  once : ((List.range (top + 1)).flatMap (atLevel order)).Perm order
  /-- The lines about a task describe it. -/
  described : ∀ t ∈ order, Describes order label t (taskLines order label t)
  /-- The levels follow each other, and in each the tasks as they stand in the list. -/
  text : render order label =
    "Task Dependency Graph:\n" ++ String.ofList (List.replicate 50 '=') ++ "\n" ++
      String.join ((List.range (top + 1)).map (levelText order label))

/-- **The levels of a sorted list are longest paths**, and the list is shown by them. -/
theorem levels_of_sort (ts order : List Task) (label : TaskId → String)
    (hsort : sort ts = .ok order) :
    Layered order ∧ (order = [] ∧ render order label = "No tasks to display\n" ∨
      ∃ top, Shown order label top) := by
  obtain ⟨order', hsort', -, harranges⟩ | ⟨e, herror, -⟩ := sort_verdict ts
  · obtain rfl : order' = order := Except.ok.inj (hsort'.symm.trans hsort)
    have h := harranges.self
    refine ⟨⟨fun t => exists_hasLevel, fun id n => hasLevel_iff h, fun id p m n => level_lt h,
      fun id n => exists_level_below h⟩, ?_⟩
    by_cases hne : order' = []
    · exact .inl ⟨hne, by rw [hne]; rfl⟩
    · exact .inr ⟨_, fun level => atLevel_ne_nil_iff h hne, flatMap_atLevel_perm h hne,
        fun t _ => describes_taskLines order' label t, render_eq h label hne⟩
  · rw [hsort] at herror
    cases herror

namespace Sample

/-- A task that comes after the first and the second one. -/
def last : TaskId := ⟨"r", by decide, by decide⟩

/-- The last of three tasks depends on both others, and the second on the first and on one that is
not listed. -/
def stairs : List Task :=
  [Task.create Sample.first "first" "" holder (.midnight .epoch),
    { Task.create second "second" "" holder (.midnight .epoch) with
      inflows := ⟨[⟨"elsewhere", by decide, by decide⟩, Sample.first]⟩ },
    { Task.create last "last" "" holder (.midnight .epoch) with
      inflows := ⟨[Sample.first, second, Sample.first]⟩ }]

end Sample

/-- The last task is two steps above the first, although it depends on that directly. -/
theorem longest_chain_of_stairs :
    IsGreatest {k | Chain Sample.stairs k Sample.last} 2 := by
  have hsort : sort Sample.stairs.reverse = .ok Sample.stairs := rfl
  obtain ⟨hlayered, -⟩ := levels_of_sort _ _ (fun id => id.text) hsort
  exact (hlayered.longest _ 2).mp rfl

end TaskPipeline.Order
