/-!
# Catalogs

A `Catalog` is a collection of entries, each with a key of its own, in ascending order of the keys.
The order is part of the type, so two catalogs with the same entries are equal and listing one is
deterministic.

Everything else is said through `Catalog.find?`: `find?_insert`, `find?_erase` and `find?_map` say
what each operation does to it, and `Catalog.ext_find?` says that it determines the catalog.
-/

namespace TaskPipeline

/-- Entries that have a key. -/
class Keyed (α : Type) where
  /-- The key of an entry. -/
  key : α → String

/-- Entries in ascending order of their keys. -/
structure Catalog (α : Type) [Keyed α] where
  /-- The entries. -/
  toList : List α
  /-- Keys ascend, so no key appears twice. -/
  sorted : toList.Pairwise fun a b => Keyed.key a < Keyed.key b

namespace Catalog

open Keyed (key)

variable {α : Type} [Keyed α]

instance [DecidableEq α] : DecidableEq (Catalog α)
  | ⟨as, _⟩, ⟨bs, _⟩ => decidable_of_iff (as = bs) (by simp)

/-- The catalog without entries. -/
def empty : Catalog α := ⟨[], .nil⟩

instance : Inhabited (Catalog α) := ⟨empty⟩

/-- Whether there is no entry. -/
def isEmpty (c : Catalog α) : Bool := c.toList.isEmpty

/-- The number of entries. -/
def size (c : Catalog α) : Nat := c.toList.length

/-- The entry with a key. -/
def find? (c : Catalog α) (k : String) : Option α := c.toList.find? fun a => key a == k

/-- Whether an entry has the key. -/
def contains (c : Catalog α) (k : String) : Bool := (c.find? k).isSome

/-- Puts an entry at its place in a sorted list; an entry with the same key gives way. -/
def insertEntry (a : α) : List α → List α
  | [] => [a]
  | b :: rest =>
    if key a < key b then a :: b :: rest
    else if key a = key b then a :: rest
    else b :: insertEntry a rest

theorem mem_insertEntry {a x : α} {l : List α} (h : x ∈ insertEntry a l) : x = a ∨ x ∈ l := by
  induction l with
  | nil => simpa [insertEntry] using h
  | cons b rest ih =>
    simp only [insertEntry] at h
    split at h
    · simpa using h
    · split at h
      · rcases List.mem_cons.1 h with h | h
        · exact .inl h
        · exact .inr (List.mem_cons_of_mem _ h)
      · rcases List.mem_cons.1 h with h | h
        · exact .inr (h ▸ List.mem_cons_self)
        · exact (ih h).imp id (List.mem_cons_of_mem _)

theorem pairwise_insertEntry (a : α) {l : List α} (h : l.Pairwise fun a b => key a < key b) :
    (insertEntry a l).Pairwise fun a b => key a < key b := by
  induction l with
  | nil => simp [insertEntry]
  | cons b rest ih =>
    obtain ⟨hb, hr⟩ := List.pairwise_cons.1 h
    simp only [insertEntry]
    split
    · next hlt =>
      refine List.pairwise_cons.2 ⟨fun x hx => ?_, h⟩
      rcases List.mem_cons.1 hx with rfl | hx
      · exact hlt
      · exact String.lt_trans hlt (hb x hx)
    · next hge =>
      split
      · next heq => exact List.pairwise_cons.2 ⟨fun x hx => heq ▸ hb x hx, hr⟩
      · next hne =>
        refine List.pairwise_cons.2 ⟨fun x hx => ?_, ih hr⟩
        rcases mem_insertEntry hx with rfl | hx
        · exact Std.lt_of_le_of_ne (Std.not_lt.1 hge) (Ne.symm hne)
        · exact hb x hx

/-- Adds an entry; one with the same key gives way. -/
def insert (c : Catalog α) (a : α) : Catalog α :=
  ⟨insertEntry a c.toList, pairwise_insertEntry a c.sorted⟩

/-- Removes the entry with a key, if there is one. -/
def erase (c : Catalog α) (k : String) : Catalog α :=
  ⟨c.toList.filter fun a => key a != k, c.sorted.filter _⟩

/-- Adds entries one after the other: of entries with the same key the last stays. -/
def insertAll (c : Catalog α) (as : List α) : Catalog α := as.foldl insert c

/-- The catalog of the entries of a list: of entries with the same key the last stays. -/
def ofList (as : List α) : Catalog α := empty.insertAll as

/-- Changes every entry without changing its key. -/
def map (c : Catalog α) (f : α → α) (h : ∀ a, key (f a) = key a) : Catalog α :=
  ⟨c.toList.map f, List.pairwise_map.2 (c.sorted.imp fun {a b} hab => by rw [h a, h b]; exact hab)⟩

/-! ### Looking up -/

theorem key_of_find? {c : Catalog α} {k : String} {a : α} (h : c.find? k = some a) : key a = k := by
  simpa using List.find?_some h

theorem mem_of_find? {c : Catalog α} {k : String} {a : α} (h : c.find? k = some a) :
    a ∈ c.toList := List.mem_of_find?_eq_some h

theorem find?_eq_some_of_sorted {l : List α} (hs : l.Pairwise fun a b => key a < key b) {a : α}
    (ha : a ∈ l) : (l.find? fun b => key b == key a) = some a := by
  induction l with
  | nil => cases ha
  | cons b rest ih =>
    obtain ⟨hb, hr⟩ := List.pairwise_cons.1 hs
    rcases List.mem_cons.1 ha with rfl | ha
    · simp
    · have hne : key b ≠ key a := Std.ne_of_lt (hb a ha)
      simp [hne, ih hr ha]

/-- An entry is found under its own key. -/
theorem find?_key_of_mem {c : Catalog α} {a : α} (h : a ∈ c.toList) : c.find? (key a) = some a :=
  find?_eq_some_of_sorted c.sorted h

theorem find?_eq_some_iff {c : Catalog α} {k : String} {a : α} :
    c.find? k = some a ↔ a ∈ c.toList ∧ key a = k :=
  ⟨fun h => ⟨mem_of_find? h, key_of_find? h⟩, fun ⟨h, hk⟩ => hk ▸ find?_key_of_mem h⟩

@[simp] theorem find?_empty (k : String) : (empty : Catalog α).find? k = none := rfl

theorem find?_insertEntry (a : α) (k : String) {l : List α}
    (hs : l.Pairwise fun a b => key a < key b) :
    ((insertEntry a l).find? fun b => key b == k) =
      if key a = k then some a else l.find? fun b => key b == k := by
  induction l with
  | nil => by_cases h : key a = k <;> simp [insertEntry, h]
  | cons b rest ih =>
    obtain ⟨hb, hr⟩ := List.pairwise_cons.1 hs
    simp only [insertEntry]
    split
    · by_cases h : key a = k <;> simp [List.find?_cons, h]
    · split
      · next heq => by_cases h : key a = k <;> simp [h, ← heq]
      · next hne =>
        rw [List.find?_cons, ih hr]
        by_cases h : key a = k
        · have : key b ≠ k := fun hb => hne (h.trans hb.symm)
          simp [h, beq_false_of_ne this]
        · by_cases hk : key b = k
          · simp [h, hk]
          · simp [h, beq_false_of_ne hk]

theorem find?_insert (c : Catalog α) (a : α) (k : String) :
    (c.insert a).find? k = if key a = k then some a else c.find? k :=
  find?_insertEntry a k c.sorted

theorem find?_erase (c : Catalog α) (j k : String) :
    (c.erase j).find? k = if j = k then none else c.find? k := by
  simp only [find?, erase, List.find?_filter]
  split
  · next h => subst h; simp
  · next h =>
    congr 1
    funext a
    by_cases hk : key a = k
    · simp [hk, Ne.symm h]
    · simp [hk]

theorem find?_map (c : Catalog α) (f : α → α) (h : ∀ a, key (f a) = key a) (k : String) :
    (c.map f h).find? k = (c.find? k).map f := by
  simp only [find?, map, List.find?_map]
  congr 2
  funext a
  simp [h]

/-- The entries found under the keys determine the catalog. -/
theorem ext_find? {c d : Catalog α} (h : ∀ k, c.find? k = d.find? k) : c = d := by
  obtain ⟨as, hs⟩ := c
  obtain ⟨bs, ht⟩ := d
  have hmem : ∀ x, x ∈ as ↔ x ∈ bs := fun x => by
    have hx := h (key x)
    constructor
    · intro hx'
      exact mem_of_find? (c := ⟨bs, ht⟩) (hx ▸ find?_key_of_mem (c := ⟨as, hs⟩) hx')
    · intro hx'
      exact mem_of_find? (c := ⟨as, hs⟩) (hx ▸ find?_key_of_mem (c := ⟨bs, ht⟩) hx')
  congr
  clear h
  induction as generalizing bs with
  | nil =>
    cases bs with
    | nil => rfl
    | cons b bs => exact absurd ((hmem b).2 List.mem_cons_self) (by simp)
  | cons a as ih =>
    cases bs with
    | nil => exact absurd ((hmem a).1 List.mem_cons_self) (by simp)
    | cons b bs =>
      obtain ⟨ha, hs'⟩ := List.pairwise_cons.1 hs
      obtain ⟨hb, ht'⟩ := List.pairwise_cons.1 ht
      have hab : a = b := by
        rcases List.mem_cons.1 ((hmem a).1 List.mem_cons_self) with h | h
        · exact h
        rcases List.mem_cons.1 ((hmem b).2 List.mem_cons_self) with h' | h'
        · exact h'.symm
        exact absurd (String.lt_trans (ha b h') (hb a h)) (String.lt_irrefl _)
      subst hab
      congr 1
      refine ih hs' _ ht' fun x => ⟨fun hx => ?_, fun hx => ?_⟩
      · rcases List.mem_cons.1 ((hmem x).1 (List.mem_cons_of_mem _ hx)) with h | h
        · exact absurd (h ▸ ha x hx) (String.lt_irrefl _)
        · exact h
      · rcases List.mem_cons.1 ((hmem x).2 (List.mem_cons_of_mem _ hx)) with h | h
        · exact absurd (h ▸ hb x hx) (String.lt_irrefl _)
        · exact h

/-! ### Listing and collecting -/

theorem insertEntry_of_forall_lt {a : α} {l : List α} (h : ∀ b ∈ l, key b < key a) :
    insertEntry a l = l ++ [a] := by
  induction l with
  | nil => rfl
  | cons b rest ih =>
    have hb := h b List.mem_cons_self
    have hnot : ¬ key a < key b := fun hlt => String.lt_irrefl _ (String.lt_trans hb hlt)
    have hne : key a ≠ key b := fun heq => String.lt_irrefl _ (heq ▸ hb)
    rw [insertEntry, if_neg hnot, if_neg hne, ih fun d hd => h d (List.mem_cons_of_mem _ hd)]
    rfl

/-- Entries with greater keys, in ascending order, are put at the end. -/
theorem toList_insertAll {c : Catalog α} {as : List α}
    (h : (c.toList ++ as).Pairwise fun a b => key a < key b) :
    (c.insertAll as).toList = c.toList ++ as := by
  induction as generalizing c with
  | nil => exact (List.append_nil _).symm
  | cons a as ih =>
    have hlast : (c.insert a).toList = c.toList ++ [a] :=
      insertEntry_of_forall_lt fun b hb => (List.pairwise_append.mp h).2.2 b hb a List.mem_cons_self
    have hsame : c.toList ++ a :: as = (c.insert a).toList ++ as := by
      rw [hlast, List.append_assoc, List.singleton_append]
    rw [hsame] at h ⊢
    exact ih h

/-- A catalog is the catalog of its own entries. -/
theorem ofList_toList (c : Catalog α) : ofList c.toList = c := by
  obtain ⟨as, hs⟩ := c
  have h : ((empty : Catalog α).insertAll as).toList = [] ++ as := toList_insertAll hs
  unfold ofList
  revert h
  generalize (empty : Catalog α).insertAll as = d
  obtain ⟨bs, ht⟩ := d
  rintro rfl
  rfl

end Catalog

end TaskPipeline
