import ScriptClient.SortedMap

set_option autoImplicit false

/-! # Entries and unions of maps

The entries of a map are what it answers to their keys (`SortedMap.mem_entries_iff`). A union
answers with the second map where that has an answer (`SortedMap.get?_union`), and the entries of a
map can be inserted in any order (`SortedMap.insertMany_perm`). -/

namespace ScriptClient

variable {β : Type}

theorem lookupEntry_of_mem {entries : List (String × β)}
    (h : entries.Pairwise fun a b => a.1 < b.1) {e : String × β} (hmem : e ∈ entries) :
    lookupEntry e.1 entries = some e.2 := by
  induction entries with
  | nil => cases hmem
  | cons first rest ih =>
    obtain ⟨hfirst, hrest⟩ := List.pairwise_cons.mp h
    rcases List.mem_cons.mp hmem with rfl | hmem'
    · rw [lookupEntry, if_pos rfl]
    · have hne : e.1 ≠ first.1 := fun heq => String.lt_irrefl _ (heq ▸ hfirst e hmem')
      rw [lookupEntry, if_neg hne]
      exact ih hrest hmem'

theorem mem_of_lookupEntry {entries : List (String × β)} {k : String} {v : β}
    (h : lookupEntry k entries = some v) : (k, v) ∈ entries := by
  induction entries with
  | nil => cases h
  | cons first rest ih =>
    rw [lookupEntry] at h
    split at h
    next hkey =>
      rw [hkey, ← Option.some.inj h]
      exact List.mem_cons_self
    next => exact List.mem_cons_of_mem first (ih h)

namespace SortedMap

theorem get?_of_mem {m : SortedMap β} {e : String × β} (h : e ∈ m.entries) :
    m.get? e.1 = some e.2 :=
  lookupEntry_of_mem m.sorted h

theorem mem_entries_iff {m : SortedMap β} {k : String} {v : β} :
    (k, v) ∈ m.entries ↔ m.get? k = some v :=
  ⟨get?_of_mem, mem_of_lookupEntry⟩

theorem get?_insertMany (m : SortedMap β) {entries : List (String × β)}
    (h : entries.Pairwise fun a b => a.1 < b.1) (k : String) :
    (m.insertMany entries).get? k = (lookupEntry k entries).or (m.get? k) := by
  induction entries generalizing m with
  | nil => rfl
  | cons e rest ih =>
    obtain ⟨hfirst, hrest⟩ := List.pairwise_cons.mp h
    show ((m.insert e.1 e.2).insertMany rest).get? k = _
    rw [ih _ hrest, get?_insert, lookupEntry]
    by_cases hk : k = e.1
    · subst hk
      rw [if_pos rfl, if_pos rfl, lookupEntry_eq_none_of_lt hfirst]
      rfl
    · rw [if_neg hk, if_neg hk]

/-- A union answers with the second map where that has an answer. -/
theorem get?_union (m n : SortedMap β) (k : String) :
    (m.union n).get? k = (n.get? k).or (m.get? k) :=
  get?_insertMany m n.sorted k

theorem empty_union (m : SortedMap β) : (∅ : SortedMap β).union m = m := by
  refine ext_get? fun k => ?_
  rw [get?_union, get?_empty, Option.or_none]

/-- The entries of a map can be inserted in any order. -/
theorem insertMany_perm (m : SortedMap β) {n : SortedMap β} {entries : List (String × β)}
    (h : entries.Perm n.entries) : m.insertMany entries = m.union n := by
  apply h.foldl_eq'
  intro e he f hf z
  have hget := get?_of_mem (h.mem_iff.mp he)
  by_cases hkey : e.1 = f.1
  · -- entries with one key are one entry
    rw [hkey, get?_of_mem (h.mem_iff.mp hf)] at hget
    rw [hkey, Option.some.inj hget]
  · exact insert_comm z e.2 f.2 hkey

/-- A map is that of its entries in any order. -/
theorem ofList_perm {n : SortedMap β} {entries : List (String × β)} (h : entries.Perm n.entries) :
    ofList entries = n :=
  (insertMany_perm ∅ h).trans (empty_union n)

end SortedMap

end ScriptClient
