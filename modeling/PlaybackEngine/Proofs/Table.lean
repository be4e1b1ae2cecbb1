import PlaybackEngine.Table

set_option autoImplicit false

/-!
# Reading a table after it changes

What `Table.get?` finds after each way a table is changed, key by key. None of these needs the
keys to be sorted: an inserted entry lands before every entry of its key, and the other
operations act on every entry of a key alike.

The tables the engine builds do keep their keys strictly ascending (`Table.Ordered`): insertion
and filtering keep that, and in such a table every entry is the one `get?` finds.
-/

namespace PlaybackEngine.Table

variable {α : Type}

@[simp] theorem get?_cons (k k' : Int) (v : α) (t : Table α) :
    get? ((k, v) :: t) k' = if k = k' then some v else get? t k' := by
  unfold get?
  by_cases h : k = k' <;> simp [h]

theorem get?_insert (t : Table α) (k k' : Int) (v : α) :
    (t.insert k v).get? k' = if k = k' then some v else t.get? k' := by
  induction t with
  | nil => simp [insert]
  | cons e rest ih =>
    obtain ⟨k₀, v₀⟩ := e
    unfold insert
    by_cases hlt : k < k₀
    · simp only [hlt, if_true, get?_cons]
    · by_cases heq : k = k₀
      · subst heq
        simp only [hlt, if_false, if_true, get?_cons]
        by_cases hk : k = k' <;> simp [hk]
      · simp only [hlt, heq, if_false, get?_cons, ih]
        by_cases hk : k = k' <;> by_cases hk₀ : k₀ = k' <;> simp_all

@[simp] theorem get?_insert_self (t : Table α) (k : Int) (v : α) :
    (t.insert k v).get? k = some v := by
  simp [get?_insert]

theorem get?_insert_of_ne (t : Table α) {k k' : Int} (v : α) (h : k ≠ k') :
    (t.insert k v).get? k' = t.get? k' := by
  simp [get?_insert, h]

/-- Filtering by a test on keys keeps the entries of the keys that pass. -/
theorem get?_filter_key (t : Table α) (p : Int × α → Bool) (q : Int → Bool)
    (hpq : ∀ e, p e = q e.1) (k : Int) :
    get? (t.filter p) k = if q k then t.get? k else none := by
  induction t with
  | nil => simp
  | cons e rest ih =>
    obtain ⟨k₀, v₀⟩ := e
    by_cases hp : q k₀
    · simp only [List.filter_cons, hpq, hp, if_true, get?_cons, ih]
      by_cases hk : k₀ = k
      · subst hk
        simp [hp]
      · simp [hk]
    · simp only [List.filter_cons, hpq, hp, Bool.false_eq_true, if_false, ih, get?_cons]
      by_cases hk : k₀ = k
      · subst hk
        simp [hp]
      · simp [hk]

theorem get?_erase (t : Table α) (k k' : Int) :
    (t.erase k).get? k' = if k = k' then none else t.get? k' := by
  unfold erase
  rw [get?_filter_key t _ (fun x => x != k) (fun _ => rfl) k']
  by_cases h : k = k'
  · subst h
    simp
  · simp [h, Ne.symm h]

theorem get?_modify (t : Table α) (k k' : Int) (f : α → α) :
    (t.modify k f).get? k' = if k = k' then (t.get? k).map f else t.get? k' := by
  induction t with
  | nil => simp [modify]
  | cons e rest ih =>
    obtain ⟨k₀, v₀⟩ := e
    unfold modify at ih ⊢
    by_cases hk₀ : k₀ = k <;> by_cases hk : k = k' <;> simp_all

theorem mem_keys (t : Table α) (k : Int) : k ∈ t.keys ↔ (t.get? k).isSome := by
  induction t with
  | nil => simp [keys]
  | cons e rest ih =>
    obtain ⟨k₀, v₀⟩ := e
    unfold keys at ih
    by_cases hk : k₀ = k
    · subst hk
      simp [keys]
    · simp only [keys, List.map_cons, List.mem_cons, get?_cons, hk, if_false, ← ih]
      constructor
      · rintro (h | h)
        · exact absurd h.symm hk
        · exact h
      · exact Or.inr

/-- The entry `get?` finds is an entry of the table. -/
theorem mem_of_get? {t : Table α} {k : Int} {v : α} (h : t.get? k = some v) : (k, v) ∈ t := by
  unfold get? at h
  obtain ⟨⟨k', v'⟩, hf, hv⟩ := Option.map_eq_some_iff.mp h
  have hk : k' = k := by simpa using List.find?_some hf
  subst hk hv
  exact List.mem_of_find?_eq_some hf

/-- Keys strictly ascending: the shape every table the engine builds has. -/
def Ordered (t : Table α) : Prop := t.keys.Pairwise (· < ·)

theorem keys_insert_subset (t : Table α) (k x : Int) (v : α) (h : x ∈ (t.insert k v).keys) :
    x = k ∨ x ∈ t.keys := by
  rw [mem_keys, get?_insert] at h
  rw [mem_keys]
  by_cases hk : k = x
  · exact Or.inl hk.symm
  · rw [if_neg hk] at h
    exact Or.inr h

theorem Ordered.insert {t : Table α} (h : t.Ordered) (k : Int) (v : α) :
    (t.insert k v).Ordered := by
  induction t with
  | nil => simp [Ordered, Table.insert, keys]
  | cons e rest ih =>
    obtain ⟨k₀, v₀⟩ := e
    unfold Ordered keys at h
    simp only [List.map_cons, List.pairwise_cons] at h
    obtain ⟨hlead, hrest⟩ := h
    unfold Table.insert
    by_cases hlt : k < k₀
    · simp only [hlt, if_true, Ordered, keys, List.map_cons, List.pairwise_cons, List.mem_cons]
      refine ⟨?_, hlead, hrest⟩
      rintro x (rfl | hx)
      · exact hlt
      · exact Int.lt_trans hlt (hlead x hx)
    · by_cases heq : k = k₀
      · subst heq
        simp only [hlt, if_false, if_true, Ordered, keys, List.map_cons, List.pairwise_cons]
        exact ⟨hlead, hrest⟩
      · simp only [hlt, heq, if_false, Ordered, keys, List.map_cons, List.pairwise_cons]
        refine ⟨fun x hx => ?_, ih hrest⟩
        rcases keys_insert_subset rest k x v hx with rfl | hx
        · omega
        · exact hlead x hx

theorem Ordered.filter {t : Table α} (h : t.Ordered) (p : Int × α → Bool) :
    Ordered (t.filter p) := by
  unfold Ordered keys at h ⊢
  exact h.sublist ((List.filter_sublist).map _)

theorem Ordered.get?_of_mem {t : Table α} (h : t.Ordered) {k : Int} {v : α} (hm : (k, v) ∈ t) :
    t.get? k = some v := by
  induction t with
  | nil => cases hm
  | cons e rest ih =>
    obtain ⟨k₀, v₀⟩ := e
    unfold Ordered keys at h
    simp only [List.map_cons, List.pairwise_cons] at h
    rw [get?_cons]
    rcases List.mem_cons.mp hm with he | hm
    · cases he
      simp
    · have hk : k₀ < k := h.1 k (List.mem_map.mpr ⟨(k, v), hm, rfl⟩)
      rw [if_neg (by omega)]
      exact ih h.2 hm

end PlaybackEngine.Table
