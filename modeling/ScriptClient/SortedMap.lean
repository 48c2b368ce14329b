set_option autoImplicit false

/-! # Maps with text keys

A map from texts to values, kept as its entries in strictly increasing order of the keys. Texts are
ordered by code point, which is also the order of their UTF-8 bytes. The order is part of the type,
so two maps with the same entries are equal (`SortedMap.ext_get?`), in whatever order the entries
were inserted. -/

namespace ScriptClient

variable {β : Type}

/-- The value under key `k` in a list of entries. -/
def lookupEntry (k : String) : List (String × β) → Option β
  | [] => none
  | (k', v) :: rest => if k = k' then some v else lookupEntry k rest

/-- Puts an entry where the order wants it, in the place of the one with its key. -/
def insertEntry (k : String) (v : β) : List (String × β) → List (String × β)
  | [] => [(k, v)]
  | (k', v') :: rest =>
    if k < k' then (k, v) :: (k', v') :: rest
    else if k = k' then (k, v) :: rest
    else (k', v') :: insertEntry k v rest

theorem mem_insertEntry {k : String} {v : β} {entries : List (String × β)} {e : String × β}
    (h : e ∈ insertEntry k v entries) : e = (k, v) ∨ e ∈ entries := by
  induction entries with
  | nil => simpa [insertEntry] using h
  | cons hd rest ih =>
    rw [insertEntry] at h
    split at h
    · simpa using h
    · split at h <;> grind

theorem pairwise_insertEntry (k : String) (v : β) {entries : List (String × β)}
    (h : entries.Pairwise fun a b => a.1 < b.1) :
    (insertEntry k v entries).Pairwise fun a b => a.1 < b.1 := by
  induction entries with
  | nil => simp [insertEntry]
  | cons hd rest ih =>
    obtain ⟨k', v'⟩ := hd
    rw [List.pairwise_cons] at h
    rw [insertEntry]
    split
    next hlt =>
      refine List.pairwise_cons.mpr ⟨fun e he => ?_, List.pairwise_cons.mpr h⟩
      rcases List.mem_cons.mp he with rfl | he
      · exact hlt
      · exact String.lt_trans hlt (h.1 e he)
    next hlt =>
      split
      next heq =>
        subst heq
        exact List.pairwise_cons.mpr ⟨h.1, h.2⟩
      next heq =>
        refine List.pairwise_cons.mpr ⟨fun e he => ?_, ih h.2⟩
        rcases mem_insertEntry he with rfl | he
        · show k' < k
          grind
        · exact h.1 e he

theorem lookupEntry_insertEntry (k k' : String) (v : β) (entries : List (String × β)) :
    lookupEntry k' (insertEntry k v entries) =
      if k' = k then some v else lookupEntry k' entries := by
  induction entries with
  | nil => simp [insertEntry, lookupEntry]
  | cons hd rest ih =>
    rw [insertEntry]
    split
    · simp [lookupEntry]
    · split <;> grind [lookupEntry]

theorem lookupEntry_eq_none_of_lt {k : String} {entries : List (String × β)}
    (h : ∀ e ∈ entries, k < e.1) : lookupEntry k entries = none := by
  induction entries with
  | nil => rfl
  | cons hd rest ih =>
    have hk : k < hd.1 := h hd List.mem_cons_self
    rw [lookupEntry, ih fun e he => h e (List.mem_cons_of_mem hd he)]
    split
    next heq => exact absurd (heq ▸ hk) (String.lt_irrefl _)
    next => rfl

theorem eq_of_lookupEntry_eq {l r : List (String × β)}
    (hl : l.Pairwise fun a b => a.1 < b.1) (hr : r.Pairwise fun a b => a.1 < b.1)
    (h : ∀ k, lookupEntry k l = lookupEntry k r) : l = r := by
  induction l generalizing r with
  | nil =>
    cases r with
    | nil => rfl
    | cons e rest => have := h e.1; simp [lookupEntry] at this
  | cons e l ih =>
    cases r with
    | nil => have := h e.1; simp [lookupEntry] at this
    | cons f r =>
      rw [List.pairwise_cons] at hl hr
      have hkey : e.1 = f.1 := by
        have he := h e.1
        have hf := h f.1
        have hel : ∀ k, k < e.1 → lookupEntry k l = none := fun k hk =>
          lookupEntry_eq_none_of_lt fun x hx => String.lt_trans hk (hl.1 x hx)
        have hfr : ∀ k, k < f.1 → lookupEntry k r = none := fun k hk =>
          lookupEntry_eq_none_of_lt fun x hx => String.lt_trans hk (hr.1 x hx)
        by_cases hlt : e.1 < f.1
        · grind [lookupEntry]
        · by_cases hgt : f.1 < e.1
          · grind [lookupEntry]
          · grind
      have hval : e.2 = f.2 := by
        have := h e.1
        grind [lookupEntry]
      have hl' : lookupEntry e.1 l = none := lookupEntry_eq_none_of_lt hl.1
      have hr' : lookupEntry f.1 r = none := lookupEntry_eq_none_of_lt hr.1
      obtain ⟨ek, ev⟩ := e
      obtain ⟨fk, fv⟩ := f
      simp only at hkey hval
      subst hkey hval
      congr 1
      refine ih hl.2 hr.2 fun k => ?_
      have := h k
      grind [lookupEntry]

/-- A map from texts to values. -/
structure SortedMap (β : Type) where
  entries : List (String × β)
  sorted : entries.Pairwise fun a b => a.1 < b.1

namespace SortedMap

theorem ext_entries {m n : SortedMap β} (h : m.entries = n.entries) : m = n := by
  cases m; cases n; simp_all

instance [DecidableEq β] : DecidableEq (SortedMap β) := fun m n =>
  decidable_of_iff (m.entries = n.entries) ⟨ext_entries, fun h => h ▸ rfl⟩

/-- The map without entries. -/
def empty : SortedMap β := ⟨[], List.Pairwise.nil⟩

instance : EmptyCollection (SortedMap β) := ⟨empty⟩
instance : Inhabited (SortedMap β) := ⟨∅⟩

/-- The value under a key. -/
def get? (m : SortedMap β) (k : String) : Option β :=
  lookupEntry k m.entries

/-- The map with one entry more, or another value under a key it has. -/
def insert (m : SortedMap β) (k : String) (v : β) : SortedMap β :=
  ⟨insertEntry k v m.entries, pairwise_insertEntry k v m.sorted⟩

/-- The map with all entries of a list inserted in turn, so that later ones win. -/
def insertMany (m : SortedMap β) (entries : List (String × β)) : SortedMap β :=
  entries.foldl (fun m e => m.insert e.1 e.2) m

/-- The map of a list of entries. Later ones win. -/
def ofList (entries : List (String × β)) : SortedMap β :=
  insertMany ∅ entries

/-- The entries of both maps. Those of the second win. -/
def union (m n : SortedMap β) : SortedMap β :=
  m.insertMany n.entries

@[simp]
theorem get?_empty (k : String) : (∅ : SortedMap β).get? k = none := rfl

@[simp]
theorem get?_insert (m : SortedMap β) (k k' : String) (v : β) :
    (m.insert k v).get? k' = if k' = k then some v else m.get? k' :=
  lookupEntry_insertEntry k k' v m.entries

/-- Maps that answer every key alike are equal. -/
theorem ext_get? {m n : SortedMap β} (h : ∀ k, m.get? k = n.get? k) : m = n :=
  ext_entries (eq_of_lookupEntry_eq m.sorted n.sorted h)

theorem insert_insert (m : SortedMap β) (k : String) (v w : β) :
    (m.insert k v).insert k w = m.insert k w :=
  ext_get? fun k' => by simp only [get?_insert]; grind

theorem insert_comm (m : SortedMap β) {k l : String} (v w : β) (h : k ≠ l) :
    (m.insert k v).insert l w = (m.insert l w).insert k v :=
  ext_get? fun k' => by simp only [get?_insert]; grind

end SortedMap

end ScriptClient
