import Mathlib
import PlaybackEngine.Download.Manager

set_option autoImplicit false

/-!
# Which settled records pruning drops

The manager keeps one record per track. Pruning lists the settled records (finished or aborted)
by their key, the transfer number and then the track, and when there are more than
`retainedRecords` of them drops the tracks of the first ones in that order, as many as the
excess.

Main statement, `prune_drops_oldest_settled`: for any table with one record per track, pruning
removes records and adds none; a record stays exactly when it is not settled or at least the
excess of settled records come before it (`settledBefore`), so the removed records are the
settled ones of least key, every one of them before every settled record kept; and at most
`retainedRecords` settled records are left. A paused record is never settled, so pruning never
takes it, however many transfers settle after it.

The argument: in a list sorted strictly by key, an element is among the first `j` exactly when
fewer than `j` elements come before it (`mem_take_iff_before`); sorting only permutes the
settled keys, so that count is `settledBefore`; and one record per track makes a track's key
name its record.
-/

namespace PlaybackEngine.Downloads

/-- The key pruning orders settled records by: the transfer number, then the track. -/
def pruneKey (e : TrackId × Tracked) : Nat × Int := (e.2.transfer, e.1)

/-- Whether key `a` comes strictly before key `b`. -/
def keyBefore (a b : Nat × Int) : Bool := decide (a.1 < b.1 ∨ a.1 = b.1 ∧ a.2 < b.2)

/-- The settled records of a table, in table order. -/
def settledOf (r : Table Tracked) : Table Tracked := r.filter fun e => isSettled e.2

/-- How many settled records of a table come before a record, by key. -/
def settledBefore (r : Table Tracked) (x : TrackId × Tracked) : Nat :=
  ((settledOf r).filter fun y => keyBefore (pruneKey y) (pruneKey x)).length

/-- The comparison pruning sorts the settled keys with. -/
def pruneOrder (a b : Nat × Int) : Bool := decide (a.1 < b.1 ∨ a.1 = b.1 ∧ a.2 ≤ b.2)

section Keys

variable {a b c : Nat × Int}

theorem keyBefore_iff : keyBefore a b = true ↔ a.1 < b.1 ∨ a.1 = b.1 ∧ a.2 < b.2 := by
  simp [keyBefore]

@[simp] theorem keyBefore_self (a : Nat × Int) : keyBefore a a = false := by
  simp [keyBefore]

theorem keyBefore_asymm (h : keyBefore a b = true) : keyBefore b a = false := by
  rw [keyBefore_iff] at h
  simp only [keyBefore, decide_eq_false_iff_not, not_or, not_and, not_lt]
  omega

theorem keyBefore_trans (hab : keyBefore a b = true) (hbc : keyBefore b c = true) :
    keyBefore a c = true := by
  rw [keyBefore_iff] at hab hbc ⊢
  omega

theorem keyBefore_total (h : a ≠ b) : keyBefore a b = true ∨ keyBefore b a = true := by
  obtain ⟨a₁, a₂⟩ := a
  obtain ⟨b₁, b₂⟩ := b
  simp only [ne_eq, Prod.mk.injEq] at h
  simp only [keyBefore_iff]
  omega

/-- Distinct keys in sorting order are strictly ordered. -/
theorem keyBefore_of_pruneOrder (h : pruneOrder a b = true) (hne : a ≠ b) :
    keyBefore a b = true := by
  obtain ⟨a₁, a₂⟩ := a
  obtain ⟨b₁, b₂⟩ := b
  simp only [pruneOrder, decide_eq_true_eq] at h
  simp only [ne_eq, Prod.mk.injEq] at hne
  rw [keyBefore_iff]
  omega

end Keys

/-- Sorting distinct keys orders them strictly. -/
theorem pairwise_keyBefore_mergeSort {l : List (Nat × Int)} (hl : l.Nodup) :
    (l.mergeSort pruneOrder).Pairwise fun a b => keyBefore a b = true := by
  have hsorted := @List.pairwise_mergeSort _ pruneOrder
    (fun a b c hab hbc => by simp only [pruneOrder, decide_eq_true_eq] at *; omega)
    (fun a b => by simp only [pruneOrder, Bool.or_eq_true, decide_eq_true_eq]; omega) l
  have hnodup : (l.mergeSort pruneOrder).Nodup := (List.mergeSort_perm l pruneOrder).nodup_iff.mpr hl
  exact (hsorted.and hnodup).imp fun h => keyBefore_of_pruneOrder h.1 h.2

/-- In a list sorted strictly by key, an element is among the first `j` exactly when fewer than
`j` elements come before it. -/
theorem mem_take_iff_before {l : List (Nat × Int)} (hl : l.Pairwise fun a b => keyBefore a b = true)
    {x : Nat × Int} (hx : x ∈ l) (j : Nat) :
    x ∈ l.take j ↔ (l.filter fun y => keyBefore y x).length < j := by
  induction l generalizing j with
  | nil => cases hx
  | cons a l ih =>
    obtain ⟨ha, hl⟩ := List.pairwise_cons.mp hl
    rcases List.mem_cons.mp hx with rfl | hx
    · -- the head comes first: nothing precedes it
      have hnone : (l.filter fun y => keyBefore y x) = [] :=
        List.filter_eq_nil_iff.mpr fun y hy => by simp [keyBefore_asymm (ha y hy)]
      cases j with
      | zero => simp
      | succ j => simp [hnone]
    · -- a later element has the head before it
      have hax : keyBefore a x = true := ha x hx
      have hne : x ≠ a := by
        rintro rfl
        simp at hax
      cases j with
      | zero => simp
      | succ j => simp [hax, ih hl hx, hne]

/-- The filter that keeps the elements outside a list's first `e` leaves its remainder. -/
theorem filter_not_mem_take {l : List (Nat × Int)} (hl : l.Nodup) (e : Nat) :
    l.filter (fun k => !(l.take e).contains k) = l.drop e := by
  have hdisj := List.disjoint_take_drop hl (le_refl e)
  conv_lhs => rw [← List.take_append_drop e l]
  rw [List.filter_append, List.filter_eq_nil_iff.mpr, List.filter_eq_self.mpr, List.nil_append]
  · intro k hk
    simpa using fun hmem => hdisj hmem hk
  · intro k hk
    simpa using hk

section Table

variable {r : Table Tracked}

/-- With one record per track, a track names its record. -/
theorem eq_of_mem_of_key (hr : r.keys.Nodup) {x y : TrackId × Tracked} (hx : x ∈ r) (hy : y ∈ r)
    (h : x.1 = y.1) : x = y :=
  List.inj_on_of_nodup_map hr hx hy h

/-- The settled keys of a table with one record per track are distinct. -/
theorem nodup_settled_keys (hr : r.keys.Nodup) : ((settledOf r).map pruneKey).Nodup := by
  apply List.Nodup.of_map Prod.snd
  rw [List.map_map]
  exact hr.sublist ((List.filter_sublist).map Prod.fst)

/-- The settled records of a filtered table are the filtered settled records. -/
theorem settledOf_filter (q : TrackId × Tracked → Bool) :
    settledOf (r.filter q) = (settledOf r).filter q := by
  simp only [settledOf, List.filter_filter, Bool.and_comm]

/-- In any order of the settled keys, the settled records before `x` are counted by
`settledBefore`. -/
theorem length_filter_before {o : List (Nat × Int)} (ho : o.Perm ((settledOf r).map pruneKey))
    (x : TrackId × Tracked) :
    (o.filter fun y => keyBefore y (pruneKey x)).length = settledBefore r x := by
  rw [(ho.filter _).length_eq, List.filter_map, List.length_map]
  rfl

/-- The tracks named by the first `e` of an order of the settled keys are those of settled
records whose key is among them. -/
theorem mem_tracks_take_iff (hr : r.keys.Nodup) {o : List (Nat × Int)}
    (ho : o.Perm ((settledOf r).map pruneKey)) {x : TrackId × Tracked} (hx : x ∈ r) (e : Nat) :
    x.1 ∈ (o.take e).map Prod.snd ↔ isSettled x.2 = true ∧ pruneKey x ∈ o.take e := by
  constructor
  · intro h
    obtain ⟨k, hk, hkx⟩ := List.mem_map.mp h
    obtain ⟨z, hz, rfl⟩ := List.mem_map.mp (ho.mem_iff.mp (List.mem_of_mem_take hk))
    obtain ⟨hzr, hzs⟩ := List.mem_filter.mp hz
    have hzx : z = x := eq_of_mem_of_key hr hzr hx hkx
    subst hzx
    exact ⟨hzs, hk⟩
  · rintro ⟨-, h⟩
    exact List.mem_map.mpr ⟨pruneKey x, h, rfl⟩

/-- A settled record that comes before another, by key, has fewer settled records before it. -/
theorem settledBefore_lt {x y : TrackId × Tracked} (hy : y ∈ settledOf r)
    (hyx : keyBefore (pruneKey y) (pruneKey x) = true) : settledBefore r y < settledBefore r x := by
  have hsub : ((settledOf r).filter fun z => keyBefore (pruneKey z) (pruneKey y)).Sublist
      ((settledOf r).filter fun z => keyBefore (pruneKey z) (pruneKey x)) :=
    List.monotone_filter_right _ fun z hz => keyBefore_trans hz hyx
  have hmem : y ∈ (settledOf r).filter fun z => keyBefore (pruneKey z) (pruneKey x) :=
    List.mem_filter.mpr ⟨hy, hyx⟩
  have hnmem : y ∉ (settledOf r).filter fun z => keyBefore (pruneKey z) (pruneKey y) := by
    simp
  refine Nat.lt_of_le_of_ne hsub.length_le fun heq => hnmem ?_
  rwa [hsub.eq_of_length heq]

end Table

/-- The tracks pruning drops: those of the first settled keys in sorted order, as many as the
settled records exceed `retainedRecords`. -/
def prunedTracks (r : Table Tracked) : List Int :=
  ((((settledOf r).map pruneKey).mergeSort pruneOrder).take
    ((settledOf r).length - retainedRecords)).map Prod.snd

/-- Pruning, read through the settled keys. -/
theorem prune_records (m : Manager) :
    (prune m).records =
      if (settledOf m.records).length ≤ retainedRecords then m.records
      else m.records.filter fun e => !(prunedTracks m.records).contains e.1 := by
  unfold prune prunedTracks settledOf
  simp only [List.length_map]
  split_ifs <;> rfl

section Prune

variable {m : Manager}

/-- A record stays exactly when it is not settled, or at least the excess of settled records
over `retainedRecords` come before it. -/
theorem mem_prune_iff (hr : m.records.keys.Nodup) {x : TrackId × Tracked} (hx : x ∈ m.records) :
    x ∈ (prune m).records ↔ isSettled x.2 = false ∨
      (settledOf m.records).length - retainedRecords ≤ settledBefore m.records x := by
  rw [prune_records]
  split
  · exact iff_of_true hx (Or.inr (by omega))
  · -- the sorted settled keys, and the tracks of their first `excess`
    have hperm := List.mergeSort_perm ((settledOf m.records).map pruneKey) pruneOrder
    have hsorted := pairwise_keyBefore_mergeSort (nodup_settled_keys hr)
    have htracks := mem_tracks_take_iff hr hperm hx ((settledOf m.records).length - retainedRecords)
    rw [List.mem_filter, Bool.not_eq_eq_eq_not, Bool.not_true, List.contains_eq_mem,
      decide_eq_false_iff_not]
    unfold prunedTracks
    rw [htracks]
    cases hs : isSettled x.2
    · simp [hx]
    · -- a settled record stays when its key is outside the first `excess` in order
      have hkey : pruneKey x ∈ ((settledOf m.records).map pruneKey).mergeSort pruneOrder :=
        hperm.mem_iff.mpr (List.mem_map_of_mem (List.mem_filter.mpr ⟨hx, hs⟩))
      rw [mem_take_iff_before hsorted hkey, length_filter_before hperm]
      simp [hx]

/-- Pruning removes records and adds none. -/
theorem prune_sublist (m : Manager) : (prune m).records.Sublist m.records := by
  rw [prune_records]
  split
  · exact List.Sublist.refl _
  · exact List.filter_sublist

/-- Pruning leaves `retainedRecords` settled records, or all of them when there are no more. -/
theorem length_settledOf_prune (hr : m.records.keys.Nodup) :
    (settledOf (prune m).records).length = min (settledOf m.records).length retainedRecords := by
  rw [prune_records]
  split
  · next h => rw [Nat.min_eq_left h]
  · next h =>
    have hperm := List.mergeSort_perm ((settledOf m.records).map pruneKey) pruneOrder
    have hnodup := hperm.nodup_iff.mpr (nodup_settled_keys hr)
    -- a settled record is kept exactly when its key is outside the first `excess` in order
    have hkept : settledOf (m.records.filter fun e => !(prunedTracks m.records).contains e.1) =
        (settledOf m.records).filter fun z =>
          !((((settledOf m.records).map pruneKey).mergeSort pruneOrder).take
            ((settledOf m.records).length - retainedRecords)).contains (pruneKey z) := by
      rw [settledOf_filter]
      refine List.filter_congr fun z hz => ?_
      obtain ⟨hzr, hs⟩ := List.mem_filter.mp hz
      have htracks := mem_tracks_take_iff hr hperm hzr ((settledOf m.records).length - retainedRecords)
      simp only [prunedTracks, List.contains_eq_mem, htracks, hs, true_and]
    calc (settledOf (m.records.filter fun e => !(prunedTracks m.records).contains e.1)).length
        = (((settledOf m.records).map pruneKey).filter fun k =>
            !((((settledOf m.records).map pruneKey).mergeSort pruneOrder).take
              ((settledOf m.records).length - retainedRecords)).contains k).length := by
          rw [hkept, List.filter_map, List.length_map]
          rfl
      _ = ((((settledOf m.records).map pruneKey).mergeSort pruneOrder).drop
            ((settledOf m.records).length - retainedRecords)).length := by
          rw [← (hperm.filter _).length_eq, filter_not_mem_take hnodup]
      _ = min (settledOf m.records).length retainedRecords := by
          rw [List.length_drop, hperm.length_eq, List.length_map]
          omega

/-- Every record pruning removes comes, by key, before every settled record it keeps. -/
theorem keyBefore_of_pruned (hr : m.records.keys.Nodup) {x y : TrackId × Tracked}
    (hx : x ∈ m.records) (hxg : x ∉ (prune m).records) (hy : y ∈ (prune m).records)
    (hys : isSettled y.2 = true) : keyBefore (pruneKey x) (pruneKey y) = true := by
  have hyr : y ∈ m.records := (prune_sublist m).subset hy
  have hxb : settledBefore m.records x < (settledOf m.records).length - retainedRecords := by
    have hgone := (mem_prune_iff hr hx).not.mp hxg
    omega
  have hyb : (settledOf m.records).length - retainedRecords ≤ settledBefore m.records y := by
    rcases (mem_prune_iff hr hyr).mp hy with h | h
    · simp [hys] at h
    · exact h
  have hne : pruneKey x ≠ pruneKey y := by
    intro h
    have hxy : x = y := eq_of_mem_of_key hr hx hyr (congrArg Prod.snd h)
    exact hxg (hxy ▸ hy)
  -- were `y` first, fewer settled records would come before it than before `x`
  rcases keyBefore_total hne with h | h
  · exact h
  · have hlt := settledBefore_lt (List.mem_filter.mpr ⟨hyr, hys⟩) h
    omega

end Prune

/-- What pruning leaves of a table of records `r`: part of it, `r'`, holding every record that is
not settled and every settled record that at least the excess over `retainedRecords` settled
records precede; so every record removed comes, by key, before every settled record kept, and
at most `retainedRecords` settled records are left. -/
structure KeepsNewestSettled (r r' : Table Tracked) : Prop where
  sublist : r'.Sublist r
  mem_iff : ∀ x ∈ r, x ∈ r' ↔
    isSettled x.2 = false ∨ (settledOf r).length - retainedRecords ≤ settledBefore r x
  removed_first : ∀ x ∈ r, x ∉ r' → ∀ y ∈ r', isSettled y.2 = true →
    keyBefore (pruneKey x) (pruneKey y) = true
  settled_count : (settledOf r').length = min (settledOf r).length retainedRecords

theorem prune_drops_oldest_settled {m : Manager} (hr : m.records.keys.Nodup) :
    KeepsNewestSettled m.records (prune m).records where
  sublist := prune_sublist m
  mem_iff _ hx := mem_prune_iff hr hx
  removed_first _ hx hxg _ hy hys := keyBefore_of_pruned hr hx hxg hy hys
  settled_count := length_settledOf_prune hr

/-- Eighteen records, track `i` owned by transfer `i`: the third paused, the others finished. -/
def eighteenRecords : Table Tracked :=
  (List.range 18).map fun i =>
    (((i + 1 : Nat) : Int), { (default : Tracked) with
      transfer := i + 1,
      record := { (default : Download) with
        state := if i = 2 then .pausedRemoteFailure else .finished } })

theorem eighteen_records_keep_newest :
    eighteenRecords.keys.Nodup ∧
      KeepsNewestSettled eighteenRecords
        (prune { (default : Manager) with records := eighteenRecords }).records :=
  ⟨by decide, @prune_drops_oldest_settled { (default : Manager) with records := eighteenRecords }
    (by decide)⟩

end PlaybackEngine.Downloads
