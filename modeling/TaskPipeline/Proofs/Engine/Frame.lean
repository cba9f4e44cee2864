import TaskPipeline.Proofs.Engine.Fan
import TaskPipeline.Proofs.Engine.Named
import TaskPipeline.Proofs.Engine.Run

/-!
# What an operation leaves alone

`Operation.Writes` says what an operation may make of a task that it does not leave as it is.  An
operation on one task keeps its neighbours.  One that adds edges rewires their ends, and one that
takes a task away rewires the neighbours of that task.

The rewiring visits every task, and what it wrote is found by comparison afterwards; a task that is not
concerned comes out of it unchanged (`Graph.Sound.renamed_cases`, `TaskMap.linkedAll_cases`).  So it is
not written and keeps its version, unless it is not the same as itself: then an operation that has read
it writes it as it is (`Operation.Rewritten`, `Operation.Performed.get?_of_unchanged`).
-/

namespace TaskPipeline

/-- A task that differs from another in its flows, the time of its last change and its version at
most. -/
def Task.Relinked (t t' : Task) : Prop :=
  t' = { t with
    inflows := t'.inflows, outflows := t'.outflows, updatedAt := t'.updatedAt, version := t'.version }

theorem Task.Rewired.relinked {t t' : Task} (h : t.Rewired t') : t.Relinked t' := by
  unfold Relinked
  rw [h]

theorem Task.Relinked.with_version {t t' : Task} (h : t.Relinked t') (v : Nat) :
    t.Relinked { t' with version := v } := by
  unfold Relinked
  rw [h]

namespace Graph

variable {before after tasks : TaskMap} {old id : TaskId} {t : Task}

/-- An edge leads from one task to the other. -/
def Neighbours (tasks : TaskMap) (a b : TaskId) : Prop := Edge tasks a b ∨ Edge tasks b a

/-- A task is an end of an edge that was not there before. -/
def EndOfNew (before after : TaskMap) (id : TaskId) : Prop :=
  ∃ a b, Edge after a b ∧ ¬ Edge before a b ∧ (id = a ∨ id = b)

theorem EndOfNew.congr (h : EndOfNew before tasks id)
    (hsame : ∀ a, outflowsOf after a = outflowsOf tasks a) : EndOfNew before after id := by
  obtain ⟨a, b, hedge, hno, hid⟩ := h
  refine ⟨a, b, ?_, hno, hid⟩
  unfold Edge
  rw [hsame]
  exact hedge

/-- A renaming does nothing to a task that does not have the old identifier in its flows. -/
theorem renamed_of_not_mentions (new : TaskId) (now : Instant) (h : mentions old t = false) :
    renamed old new now t = t := by
  unfold renamed
  rw [h, if_neg fun hboth => Bool.false_ne_true hboth.2]

/-- Only neighbours have an identifier in their flows. -/
theorem Sound.neighbours_of_mentions (h : Sound tasks) (ht : tasks.get? id = some t)
    (hmentions : mentions old t = true) : Neighbours tasks old id := by
  rcases Bool.or_eq_true_iff.mp hmentions with hin | hout
  · refine .inl ((h.mem_outflows_iff old id).mpr ?_)
    rw [inflowsOf_of_get? ht]
    exact Flows.contains_iff.mp hin
  · refine .inr ?_
    unfold Edge
    rw [outflowsOf_of_get? ht]
    exact Flows.contains_iff.mp hout

/-- **What a renaming makes of a task**: nothing, unless it is a neighbour. -/
theorem Sound.renamed_cases (h : Sound tasks) (ht : tasks.get? id = some t) (old new : TaskId)
    (now : Instant) : renamed old new now t = t ∨
      Neighbours tasks old id ∧ t.Relinked (renamed old new now t) := by
  cases hmentions : mentions old t with
  | false => exact .inl (renamed_of_not_mentions new now hmentions)
  | true =>
    exact .inr ⟨h.neighbours_of_mentions ht hmentions, (rewired_renamed old new now t).relinked⟩

end Graph

namespace TaskMap

variable {tasks tasks' later latest : TaskMap} {id source target : TaskId} {now : Instant}

/-- How far linking has come: the edges that were there still are, and a task that has changed is an
end of one that was not. -/
structure LinkedFrom (tasks later : TaskMap) : Prop where
  sound : Graph.Sound later
  kept : ∀ a b, Graph.Edge tasks a b → Graph.Edge later a b
  changed : ∀ id, later.get? id ≠ tasks.get? id → Graph.EndOfNew tasks later id

theorem LinkedFrom.link (h : tasks.LinkedFrom later)
    (hlink : Graph.link later source target now = .ok latest) : tasks.LinkedFrom latest := by
  have hedges : ∀ a b, Graph.Edge latest a b ↔
      Graph.Edge later a b ∨ (a, b) = (source, target) :=
    fun _ _ => h.sound.mem_outflowsOf_link hlink
  have hmono : ∀ a b, Graph.Edge later a b → Graph.Edge latest a b :=
    fun a b hab => (hedges a b).mpr (.inl hab)
  refine ⟨h.sound.link hlink, fun a b hab => hmono a b (h.kept a b hab), fun id hid => ?_⟩
  by_cases hlater : later.get? id = tasks.get? id
  · -- the link itself has changed the task
    have hends : id = source ∨ id = target := by
      by_contra hne
      rw [not_or] at hne
      exact hid ((Operation.get?_link_of_ne hlink hne.1 hne.2).trans hlater)
    rcases Graph.link_eq_ok_iff.mp hlink with ⟨-, rfl⟩ | ⟨hno, -, -⟩
    · exact absurd hlater hid
    · refine ⟨source, target, (hedges _ _).mpr (.inr rfl), fun hold => ?_, hends⟩
      rw [h.sound.hasEdge_iff.mpr (h.kept _ _ hold)] at hno
      cases hno
  · obtain ⟨a, b, hab, hno, hends⟩ := h.changed id hlater
    exact ⟨a, b, hmono a b hab, hno, hends⟩

/-- **Linking changes the ends of new edges only.** -/
theorem linkedFrom_of_linkedAll {pairs : List (TaskId × TaskId)} (hsound : Graph.Sound tasks)
    (hlink : linkedAll now tasks pairs = .ok tasks') : tasks.LinkedFrom tasks' :=
  linkedAll_induction (p := tasks.LinkedFrom) (fun _ _ _ _ h hlink => h.link hlink)
    ⟨hsound, fun _ _ h => h, fun _ h => absurd rfl h⟩ hlink

/-- What linking makes of a task: nothing, unless it is an end of a new edge. -/
theorem linkedAll_cases {pairs : List (TaskId × TaskId)} {t : Task} (hsound : Graph.Sound tasks)
    (hlink : linkedAll now tasks pairs = .ok tasks') (ht : tasks.get? id = some t) :
    tasks'.get? id = some t ∨
      Graph.EndOfNew tasks tasks' id ∧ ∃ t', tasks'.get? id = some t' ∧ t.Relinked t' := by
  by_cases hsame : tasks'.get? id = tasks.get? id
  · exact .inl (hsame.trans ht)
  · obtain ⟨t', ht', hr⟩ := (rewires_linkedAll hlink).get?_of_some ht
    exact .inr ⟨(linkedFrom_of_linkedAll hsound hlink).changed id hsame, t', ht', hr.relinked⟩

end TaskMap

namespace Operation

variable {policy : Policy} {op : Operation} {ambient : Ambient} {tasks before after : TaskMap}
  {edited committed : Edited} {id : TaskId} {t t' : Task} {result : Option Task}

/-- The task that an operation is about, if it changes one task and no edges. -/
def subject? : Operation → Option TaskId
  | stage id (.location _) _ _ => some id
  | start id => some id
  | stop id _ => some id
  | complete id => some id
  | tag id _ => some id
  | setDue id _ => some id
  | recordEvent id _ => some id
  | _ => none

/-- Whether an operation only adds edges, besides staging a task. -/
def links : Operation → Bool
  | stage _ (.behind _) _ _ => true
  | advertise _ _ => true
  | stitch _ _ => true
  | _ => false

/-- The task that an operation takes away. -/
def discards? : Operation → Option TaskId
  | merge source _ => some source
  | split id _ _ => some id
  | _ => none

/-- What an operation may make of a task that it does not leave as it is. -/
inductive Writes (before after : TaskMap) : Operation → Task → Option Task → Prop where
  /-- The operation is about the task, which keeps its neighbours. -/
  | subject {op : Operation} {t t' : Task} (hop : op.subject? = some t.id)
      (hin : t'.inflows = t.inflows) (hout : t'.outflows = t.outflows) :
      Writes before after op t (some t')
  /-- The task is staged behind another one. -/
  | staged {op : Operation} {other : TaskId} {points : List Point} {tags : Tags} {t t' : Task}
      (hop : op = .stage t.id (.behind other) points tags) : Writes before after op t (some t')
  /-- The task is an end of an edge that was not there before. -/
  | linked {op : Operation} {t t' : Task} (hop : op.links = true)
      (hnew : Graph.EndOfNew before after t.id) (hr : t.Relinked t') :
      Writes before after op t (some t')
  /-- Another task is folded into the task. -/
  | absorbing {op : Operation} {source : TaskId} {t t' : Task} (hop : op = .merge source t.id) :
      Writes before after op t (some t')
  /-- The task is a neighbour of one that goes away. -/
  | neighbour {op : Operation} {gone : TaskId} {t t' : Task} (hop : op.discards? = some gone)
      (hneighbours : Graph.Neighbours before gone t.id) (hr : t.Relinked t') :
      Writes before after op t (some t')
  /-- The task goes away. -/
  | discarded {op : Operation} {t : Task} (hop : op.discards? = some t.id) :
      Writes before after op t none

/-- Only the edges afterwards count. -/
theorem Writes.congr (h : Writes before tasks op t result)
    (hsame : ∀ a, Graph.outflowsOf after a = Graph.outflowsOf tasks a) :
    Writes before after op t result := by
  cases h with
  | subject hop hin hout => exact .subject hop hin hout
  | staged hop => exact .staged hop
  | linked hop hnew hr => exact .linked hop (hnew.congr hsame) hr
  | absorbing hop => exact .absorbing hop
  | neighbour hop hneighbours hr => exact .neighbour hop hneighbours hr
  | discarded hop => exact .discarded hop

/-- The version that a written task gets does not matter. -/
theorem Writes.versioned (h : Writes before after op t result) (read : TaskMap)
    (created : List TaskId) :
    Writes before after op t (result.map (ChangeSet.versioned read created)) := by
  cases result with
  | none => exact h
  | some t' =>
    obtain ⟨v, hv⟩ := keeps_versioned read created t'
    rw [Option.map_some, hv]
    cases h with
    | subject hop hin hout => exact .subject hop hin hout
    | staged hop => exact .staged hop
    | linked hop hnew hr => exact .linked hop hnew (hr.with_version v)
    | absorbing hop => exact .absorbing hop
    | neighbour hop hneighbours hr => exact .neighbour hop hneighbours (hr.with_version v)

/-- What becomes of a task that the operation is not about, if it is not the same as itself: it is
written because it was read. -/
structure Rewritten (op : Operation) (before after : TaskMap) (id : TaskId) (t : Task) : Prop where
  /-- The task is not the same as itself. -/
  restless : t.same t = false
  /-- The operation reads it. -/
  read : op.Reads before id
  /-- It is as before, but for its version. -/
  written : after.get? id = some { t with version := t.version + 1 }

theorem Change.subject?_eq (h : Change policy ambient tasks op t t') : op.subject? = some t.id := by
  cases h <;> rfl

/-! ### Edits of the whole store -/

/-- What an edit makes of a task. -/
def Fares (op : Operation) (before after : TaskMap) (id : TaskId) (t : Task) : Prop :=
  after.get? id = some t ∨ Writes before after op t (after.get? id)

theorem fares_of_linkedAll {pairs : List (TaskId × TaskId)} {now : Instant} (hop : op.links = true)
    (hsound : Graph.Sound before) (hlink : before.linkedAll now pairs = .ok after)
    (ht : before.get? id = some t) : Fares op before after id t := by
  rcases TaskMap.linkedAll_cases hsound hlink ht with hsame | ⟨hnew, t', ht', hr⟩
  · exact .inl hsame
  · rw [← TaskMap.id_of_get? ht] at hnew
    exact .inr (ht' ▸ .linked hop hnew hr)

/-- A renaming rewires the neighbours of a task that goes away. -/
theorem fares_of_renamed {gone new : TaskId} {now : Instant} (hop : op.discards? = some gone)
    (hsound : Graph.Sound before) (ht : before.get? id = some t)
    (hafter : after.get? id = some (Graph.renamed gone new now t)) : Fares op before after id t := by
  rcases hsound.renamed_cases ht gone new now with hsame | ⟨hneighbours, hr⟩
  · exact .inl (hafter.trans (congrArg some hsame))
  · rw [← TaskMap.id_of_get? ht] at hneighbours
    exact .inr (hafter ▸ .neighbour hop hneighbours hr)

/-- Staging a task behind another one links it, and rewires no third task. -/
theorem fares_of_stagedBehind {u u₁ o : Task} {linked : TaskMap} {other : TaskId}
    {points : List Point} {tags : Tags} {now : Instant} (hsound : Graph.Sound before)
    (hu : before.get? u.id = some u) (hlink : Graph.link before other u.id now = .ok linked)
    (hu₁ : linked.get? u.id = some u₁) (ht : before.get? id = some t) :
    Fares (.stage u.id (.behind other) points tags) before
      (linked.insert (u₁.staged now o.location points tags)) id t := by
  obtain ⟨hid, -, hin, hout⟩ := keeps_staged u₁ now o.location points tags
  rw [TaskMap.id_of_get? hu₁] at hid
  by_cases hsame : id = u.id
  · obtain rfl : u = t := Option.some.inj (hu.symm.trans (hsame ▸ ht))
    refine .inr ?_
    rw [hsame, TaskMap.get?_insert, if_pos hid]
    exact .staged rfl
  · -- the rest was done by the link, and staging changes no edges
    have hedges := flows_insert_changed (t := u₁) (by rw [hid, hu₁]) hin hout
    have hget : TaskMap.get? (linked.insert (u₁.staged now o.location points tags)) id =
        linked.get? id := TaskMap.get?_insert_of_ne (hid.trans_ne (Ne.symm hsame))
    have hpairs : before.linkedAll now [(other, u.id)] = .ok linked :=
      TaskMap.linkedAll_singleton.mpr hlink
    have hfares : Fares (.stage u.id (.behind other) points tags) before linked id t :=
      fares_of_linkedAll rfl hsound hpairs ht
    rcases hfares with hfares | hwrites
    · exact .inl (hget.trans hfares)
    · exact .inr (hget ▸ hwrites.congr fun a => (hedges a).2)

/-- A merge takes one task away, folds it into another and rewires its neighbours. -/
theorem fares_of_merged {source target : TaskId} {now : Instant} {collision : TagCollision}
    (hsound : Graph.Sound before) (hne : source ≠ target)
    (hmerge : before.merged source target now collision = .ok after)
    (ht : before.get? id = some t) : Fares (.merge source target) before after id t := by
  obtain ⟨-, -, u, -, -, hu, -, hgone, -⟩ := TaskMap.get?_merged hne hmerge
  by_cases hids : id = source
  · have hid : t.id = source := (TaskMap.id_of_get? ht).trans hids
    refine .inr ?_
    rw [hids, hgone]
    exact .discarded (congrArg some hid.symm)
  · by_cases hidt : id = target
    · have hid : t.id = target := (TaskMap.id_of_get? ht).trans hidt
      refine .inr ?_
      rw [hidt, hu]
      exact .absorbing (congrArg _ hid.symm)
    · obtain ⟨s, v, -, hv, -, -, rfl⟩ := TaskMap.merged_eq_ok_iff.mp hmerge
      have hvid : (v.absorb s now collision).id = target := show v.id = target from
        TaskMap.id_of_get? hv
      have hafter : (Graph.rename (before.absorbed source (v.absorb s now collision)) source target
          now).get? id = some (Graph.renamed source target now t) := by
        rw [Graph.get?_rename, TaskMap.get?_absorbed, if_neg (Ne.symm hids),
          if_neg (hvid.trans_ne (Ne.symm hidt)), ht, Option.map_some]
      exact fares_of_renamed rfl hsound ht hafter

/-- A split takes one task away and rewires its neighbours; its parts are new. -/
theorem fares_of_splitInto {task : Task} {parts : List Task} {names descriptions : List String}
    {now : Instant} (hsound : Graph.Sound before) (htask : before.get? task.id = some task)
    (hparts : parts ≠ []) (hfresh : ∀ p ∈ parts, before.get? p.id = none)
    (hsplit : before.splitInto task parts now = .ok after) (ht : before.get? id = some t) :
    Fares (.split task.id names descriptions) before after id t := by
  obtain ⟨first, rest, rfl⟩ := List.exists_cons_of_ne_nil hparts
  rw [TaskMap.splitInto_cons] at hsplit
  -- the task is no part, so linking the parts leaves it alone
  have hno : ∀ p ∈ first :: rest, id ≠ p.id := by
    intro p hp
    exact (TaskMap.ne_of_get? (hfresh p hp) ht).symm
  have hlinked : after.get? id =
      (Graph.rename (before.parted task first rest) task.id first.id now).get? id := by
    refine get?_linkedAll_of_ne hsplit fun e he => ?_
    obtain ⟨hleft, hright⟩ := List.of_mem_zip he
    rw [← List.map_cons] at hleft
    obtain ⟨p, hp, hpid⟩ := List.mem_map.mp hleft
    obtain ⟨q, hq, hqid⟩ := List.mem_map.mp hright
    exact ⟨hpid ▸ hno p hp, hqid ▸ hno q (List.mem_cons_of_mem _ hq)⟩
  rw [Graph.get?_rename] at hlinked
  by_cases hid : id = task.id
  · have hgone := TaskMap.get?_parted_self htask hfresh
    refine .inr ?_
    rw [hlinked, hid, hgone, Option.map_none]
    exact .discarded (congrArg some (hid.symm.trans (TaskMap.id_of_get? ht).symm))
  · have hparted : (before.parted task first rest).get? id = some t := by
      rcases TaskMap.get?_parted before task first rest id with ⟨p, hp, hpid, -⟩ | ⟨-, hget⟩
      · exact absurd hpid.symm (hno p (List.mem_cons_of_mem _ hp))
      · rwa [if_neg (Ne.symm (hno first List.mem_cons_self)), if_neg (Ne.symm hid), ht] at hget
    rw [hparted, Option.map_some] at hlinked
    exact fares_of_renamed rfl hsound ht hlinked

/-- **What an edit makes of a task that was there**, if what it creates is new. -/
theorem Edits.fares (h : Edits policy ambient before op edited)
    (hargs : op.checkArguments = .ok ()) (hsound : Graph.Sound before)
    (hfresh : ∀ id ∈ op.created edited, before.get? id = none) (ht : before.get? id = some t) :
    Fares op before edited.1 id t := by
  cases h with
  | @one _ u u' _ hu hchange _ =>
    obtain ⟨hid, -, hin, hout⟩ := hchange.keeps
    by_cases hsame : id = u.id
    · obtain rfl : u = t := Option.some.inj (hu.symm.trans (hsame ▸ ht))
      refine .inr ?_
      rw [TaskMap.get?_insert, if_pos (hid.trans hsame.symm)]
      exact .subject hchange.subject?_eq hin hout
    · refine .inl ?_
      rw [TaskMap.get?_insert, if_neg (hid.trans_ne (Ne.symm hsame)), ht]
  | added _ =>
    refine .inl ?_
    rw [TaskMap.get?_insert, if_neg, ht]
    rintro rfl
    exact (TaskMap.ne_of_get? (hfresh _ List.mem_cons_self) ht) rfl
  | stagedBehind hu _ _ hlink hu₁ => exact fares_of_stagedBehind hsound hu hlink hu₁ ht
  | advertised _ hlink => exact fares_of_linkedAll rfl hsound hlink ht
  | stitched _ hlink => exact fares_of_linkedAll rfl hsound hlink ht
  | merged hmerge => exact fares_of_merged hsound (checkArguments_merge hargs) hmerge ht
  | split htask _ hsplit =>
    exact fares_of_splitInto hsound htask (parts_ne_nil hargs)
      (fun p hp => hfresh p.id (List.mem_map_of_mem hp)) hsplit ht

/-! ### What is stored -/

namespace Performed

variable {store store' : TaskMap}
  (h : Performed policy op ambient store before edited committed store')

include h

/-- **A task that the edit leaves alone is not written**, and keeps its version, unless it is not the
same as itself and was read. -/
theorem get?_of_unchanged (hargs : op.checkArguments = .ok ())
    (hsame : edited.1.get? id = before.get? id) (ht : store.get? id = some t) :
    store'.get? id = some t ∨ Rewritten op store store' id t := by
  have hstore := h.get?_store id
  rw [hsame] at hstore
  cases hbefore : before.get? id with
  | none =>
    rw [TaskMap.get?_eq_none_iff.mp hbefore, TaskMap.get?_eq_none_iff.mp (hsame.trans hbefore)]
      at hstore
    exact .inl (hstore.trans ht)
  | some u =>
    obtain rfl : u = t := Option.some.inj ((h.upToDate id u hbefore).symm.trans ht)
    obtain rfl := TaskMap.id_of_get? hbefore
    have hhas := TaskMap.has_iff.mpr ⟨u, hbefore⟩
    have hnew : u.id ∉ op.created edited := fun hid => by
      rw [h.get?_created hargs u.id hid] at ht
      cases ht
    rw [hhas, Bool.true_or, if_pos rfl, hbefore, Option.map_some] at hstore
    cases hself : u.same u with
    | true =>
      have hholds := (TaskMap.holds_eq hbefore).trans hself
      rw [← ChangeSet.stored_of_holds hnew hholds, hbefore] at hstore
      exact .inl hstore
    | false =>
      have hholds := (TaskMap.holds_eq hbefore).trans hself
      rw [ChangeSet.stored_of_changed hholds, ChangeSet.versioned_of_changed hnew hholds] at hstore
      exact .inr ⟨hself, (h.within u.id hhas).mono h.upToDate, hstore⟩

/-- **What becomes of a stored task.** -/
theorem fares (hargs : op.checkArguments = .ok ()) (hsound : Graph.Sound store)
    (ht : store.get? id = some t) :
    Fares op store store' id t ∨ Rewritten op store store' id t := by
  have hedits := edits_of_edit h.edits
  by_cases hscope : op.scope = .whole
  · obtain rfl := h.whole hscope
    rcases hedits.fares hargs hsound (h.get?_created hargs) ht with hsame | hwrites
    · exact (h.get?_of_unchanged hargs (hsame.trans ht.symm) ht).imp_left .inl
    · rw [Fares, h.get?_of_whole hargs hscope]
      refine .inl (.inr ((hwrites.congr fun a => ?_).versioned _ _))
      exact (h.flows_of_whole hscope a).2
  · -- one task was read and changed
    obtain ⟨u, u', hu, hchange, heq⟩ := hedits.one_of_scope hscope
    obtain ⟨hid, -, hin, hout⟩ := hchange.keeps
    by_cases hsame : id = u.id
    · obtain rfl : u = t := Option.some.inj ((h.upToDate _ u hu).symm.trans (hsame ▸ ht))
      have hedited : edited.1.get? id = some u' := by
        rw [heq, TaskMap.get?_insert, if_pos (hid.trans hsame.symm)]
      have hstore := h.get?_store id
      rw [TaskMap.has_iff.mpr ⟨u', hedited⟩, Bool.or_true, if_pos rfl, hedited, Option.map_some]
        at hstore
      obtain ⟨v, tags, hv⟩ := keeps_stored before (op.created edited) u'
      rw [hv] at hstore
      exact .inl (.inr (hstore ▸ .subject hchange.subject?_eq hin hout))
    · refine (h.get?_of_unchanged hargs ?_ ht).imp_left .inl
      rw [heq, TaskMap.get?_insert, if_neg (hid.trans_ne (Ne.symm hsame))]

end Performed

end Operation

end TaskPipeline
