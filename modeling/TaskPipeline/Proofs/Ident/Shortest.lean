import TaskPipeline.Ident.Resolve
import TaskPipeline.Proofs.Task.Lookup
import TaskPipeline.Proofs.Text.Fronts

/-!
# Shortest fronts

`Ident.shortest` gives a front of an identifier that no other identifier shares in either case, and
every shorter front is shared (`Ident.shortest_cases`).  `Ident.resolve` reads such a text back as
the identifier iff the text is trimmed and the identifier begins with it in lower case
(`Ident.resolve_shortest_iff`).  A front that ends in a blank is trimmed to one that is shared, and
a front that is cut behind a capital sigma may have other small letters than the identifier.
-/

namespace TaskPipeline.Ident

variable {known : List TaskId} {id other : TaskId} {n : Nat}

theorem chars_ne_nil (id : TaskId) : id.text.toList ≠ [] := by
  intro h
  exact id.nonempty (String.toList_eq_nil_iff.mp h)

theorem trimChars_text (id : TaskId) : Text.trimChars id.text.toList = id.text.toList := by
  have h := congrArg String.toList (show Text.trim id.text = id.text from id.trimmed)
  unfold Text.trim at h
  rwa [String.toList_ofList] at h

theorem front_length (id : TaskId) : id.front id.text.length = id.text := by
  unfold front
  rw [← String.length_toList, List.take_length, String.ofList_toList]

/-- Trimming a front gives a front. -/
theorem exists_trim_front (id : TaskId) (n : Nat) :
    ∃ m ≤ n, Text.trim (id.front (n + 1)) = id.front (m + 1) := by
  obtain ⟨m, hm, h⟩ := Text.trimChars_front id.trimChars_text id.chars_ne_nil n
  refine ⟨m, hm, ?_⟩
  unfold Text.trim front
  rw [String.toList_ofList, h]

theorem front_ne_empty (id : TaskId) (n : Nat) : id.front (n + 1) ≠ "" := by
  intro h
  have hnil := congrArg String.toList h
  unfold front at hnil
  rw [String.toList_ofList] at hnil
  rcases List.take_eq_nil_iff.mp hnil with hn | hn
  · cases hn
  · exact id.chars_ne_nil hn

/-- A shorter front is another text. -/
theorem front_ne_text {m : Nat} (h : m < id.text.length) : id.front m ≠ id.text := by
  intro heq
  have hlength := congrArg (fun s => s.toList.length) heq
  unfold front at hlength
  rw [String.toList_ofList, List.length_take, String.length_toList] at hlength
  omega

theorem matchesFront_text (id : TaskId) : matchesFront id.text id = true := by
  unfold matchesFront Text.beginsWith
  exact List.isPrefixOf_iff_prefix.mpr (List.prefix_refl _)

/-- **When an identifier begins with its own front** in lower case: unless the cut makes a capital
sigma final. -/
theorem matchesFront_front_iff (id : TaskId) (n : Nat) : matchesFront (id.front n) id = true ↔
    ¬ Text.CutsWord [] (id.text.toList.take n) (id.text.toList.drop n) := by
  unfold matchesFront Text.beginsWith Text.lowerCase front
  rw [List.isPrefixOf_iff_prefix, String.toList_ofList, String.toList_ofList, String.toList_ofList]
  conv in Text.lowerChars [] id.text.toList => rw [← List.take_append_drop n id.text.toList]
  exact Text.lowerChars_prefix_iff [] _ _

/-! ### The shortest front -/

/-- No other known identifier begins with the text. -/
def Unshared (known : List TaskId) (id : TaskId) (s : String) : Prop :=
  ∀ other ∈ known, other ≠ id → matchesFront s other = false

theorem not_any_iff {s : String} :
    (!(known.filter (· ≠ id)).any (matchesFront s)) = true ↔ Unshared known id s := by
  simp [Unshared]

/-- **What the shortest front is**: the whole identifier, or a front that no other identifier shares
while every shorter one is shared. -/
theorem shortest_cases (known : List TaskId) (id : TaskId) :
    id.shortest known = id.text ∨ ∃ n < id.text.length, id.shortest known = id.front (n + 1) ∧
      Unshared known id (id.front (n + 1)) ∧ ∀ m < n, ¬ Unshared known id (id.front (m + 1)) := by
  unfold shortest
  dsimp only
  rw [List.find?_map]
  cases h : (List.range id.text.length).find?
      ((fun s => !(known.filter (· ≠ id)).any (matchesFront s)) ∘ fun n => id.front (n + 1)) with
  | none => exact .inl rfl
  | some n =>
    obtain ⟨hn, hmem, hleast⟩ := List.find?_range_eq_some.mp h
    refine .inr ⟨n, List.mem_range.mp hmem, rfl, not_any_iff.mp hn, fun m hm hno => ?_⟩
    have hshared := hleast m hm
    rw [Function.comp_apply, not_any_iff.mpr hno] at hshared
    cases hshared

theorem exists_shortest_front (known : List TaskId) (id : TaskId) :
    ∃ n, id.shortest known = id.front n := by
  rcases shortest_cases known id with h | ⟨n, -, h, -⟩
  · exact ⟨id.text.length, h.trans id.front_length.symm⟩
  · exact ⟨n + 1, h⟩

/-! ### Reading it back -/

/-- The whole identifier names its task, whatever else begins with it. -/
theorem resolve_text (hid : id ∈ known) : resolve known id.text = .ok id := by
  unfold resolve
  rw [show Text.trim id.text = id.text from id.trimmed]
  dsimp only
  rw [if_neg id.nonempty]
  cases h : known.find? (·.text == id.text) with
  | none =>
    have hno := List.find?_eq_none.mp h id hid
    simp at hno
  | some k =>
    have hk : k.text = id.text := by simpa using List.find?_some h
    rw [Ident.ext hk]

/-- A text that no other identifier shares is read back as the identifier if this begins with it. -/
theorem resolve_of_unshared (hnd : known.Nodup) (hid : id ∈ known) {s : String}
    (htrim : Text.Trimmed s) (hne : s ≠ "") (hno : Unshared known id s) :
    resolve known s = .ok id ↔ matchesFront s id = true := by
  unfold resolve
  rw [show Text.trim s = s from htrim]
  dsimp only
  rw [if_neg hne]
  cases hfind : known.find? (·.text == s) with
  | some k =>
    have hk : k.text = s := by simpa using List.find?_some hfind
    have hmatch : matchesFront s k = true := hk ▸ matchesFront_text k
    have hkid : k = id := by
      by_contra hkid
      rw [hno k (List.mem_of_find?_eq_some hfind) hkid] at hmatch
      cases hmatch
    exact iff_of_true (congrArg _ hkid) (hkid ▸ hmatch)
  | none =>
    have hall : ∀ k ∈ known.filter (matchesFront s), k = id := by
      intro k hk
      obtain ⟨hmem, hmatch⟩ := List.mem_filter.mp hk
      by_contra hkid
      rw [hno k hmem hkid] at hmatch
      cases hmatch
    have hnd := hnd.filter (matchesFront s)
    have hiff : id ∈ known.filter (matchesFront s) ↔ matchesFront s id = true := by
      rw [List.mem_filter]
      exact and_iff_right hid
    rw [← hiff]
    generalize known.filter (matchesFront s) = ids at hall hnd
    match ids with
    | [] => exact iff_of_false nofun List.not_mem_nil
    | [k] =>
      have hk := hall k List.mem_cons_self
      exact iff_of_true (congrArg _ hk) (hk ▸ List.mem_cons_self)
    | k :: k' :: rest =>
      have hk := hall k List.mem_cons_self
      have hk' := hall k' (List.mem_cons_of_mem _ List.mem_cons_self)
      rw [hk, hk'] at hnd
      exact absurd List.mem_cons_self (List.nodup_cons.mp hnd).1

/-- A text that another identifier shares is read back as the identifier only if it is all of it. -/
theorem resolve_ne_of_shared {s : String} (hne : Text.trim s ≠ id.text)
    (hshared : ¬ Unshared known id (Text.trim s)) : resolve known s ≠ .ok id := by
  intro h
  unfold Unshared at hshared
  push Not at hshared
  obtain ⟨other, hmem, hother, hmatch⟩ := hshared
  have hfilter : other ∈ known.filter (matchesFront (Text.trim s)) :=
    List.mem_filter.mpr ⟨hmem, eq_true_of_ne_false hmatch⟩
  unfold resolve at h
  dsimp only at h
  split at h
  · cases h
  · split at h
    · next k hfind =>
      cases h
      have hk : id.text = Text.trim s := by simpa using List.find?_some hfind
      exact hne hk.symm
    · split at h
      · cases h
      · next k hk =>
        cases h
        rw [hk, List.mem_singleton] at hfilter
        exact hother hfilter
      · cases h

/-- **When the shortest front names its identifier**: if it is trimmed, and the identifier begins with
it in lower case. -/
theorem resolve_shortest_iff (hnd : known.Nodup) (hid : id ∈ known) :
    resolve known (id.shortest known) = .ok id ↔
      Text.Trimmed (id.shortest known) ∧ matchesFront (id.shortest known) id = true := by
  rcases shortest_cases known id with h | ⟨n, hn, h, hno, hleast⟩
  · rw [h]
    exact iff_of_true (resolve_text hid) ⟨id.trimmed, matchesFront_text id⟩
  · rw [h]
    by_cases htrim : Text.Trimmed (id.front (n + 1))
    · rw [resolve_of_unshared hnd hid htrim (id.front_ne_empty n) hno]
      exact (and_iff_right htrim).symm
    · -- trimmed, it is a shorter front, which is shared
      obtain ⟨m, hm, htrimmed⟩ := id.exists_trim_front n
      have hmn : m ≠ n := by
        intro hmn
        rw [hmn] at htrimmed
        exact htrim htrimmed
      have hlt : m < n := by omega
      have hne : resolve known (id.front (n + 1)) ≠ .ok id := by
        apply resolve_ne_of_shared
        · rw [htrimmed]
          exact front_ne_text (Nat.lt_of_le_of_lt hlt hn)
        · rw [htrimmed]
          exact hleast m hlt
      exact iff_of_false hne fun hboth => htrim hboth.1

end TaskPipeline.Ident
