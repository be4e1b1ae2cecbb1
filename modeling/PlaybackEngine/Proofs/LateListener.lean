import PlaybackEngine.Proofs.HubDelivery
import PlaybackEngine.Proofs.TransferTable

set_option autoImplicit false

/-!
# A late download listener rebuilds the hub's table

The hub's table of transfers is the fold of `Hub.trackTransfer` over the download events it
announced, from the empty table: no other operation of the hub touches the table
(`Hub.transfers_performAll`). A download listener that joins late is replayed the table track by
track, in key order: a begin, a progress and, for a paused transfer, an error that may pass.
Folding that replay from the empty table gives the table back (`Hub.replay_rebuilds`): the begin
finds its track not yet in the rebuilt table and starts it at zero bytes, the progress sets the
bytes, and the error marks the pause.

So a listener that joins between two stretches of operations, folding its replay and then the
events announced after it, ends with the table of a listener that folded every event
(`late_listener_rebuilds_transfers`).
-/

namespace PlaybackEngine

/-- The download event an operation of the hub announces, if it announces one. -/
def HubOp.download? : HubOp → Option DownloadEvent
  | .emitDownload e => some e
  | _ => none

namespace Table

variable {α : Type}

/-- A key above every key of a table is inserted at the end. -/
theorem insert_of_above (t : Table α) {k : Int} (v : α) (hk : ∀ k' ∈ t.keys, k' < k) :
    t.insert k v = t ++ [(k, v)] := by
  induction t with
  | nil => rfl
  | cons e rest ih =>
    obtain ⟨k₀, v₀⟩ := e
    have hk₀ : k₀ < k := hk k₀ (by simp [keys])
    have hrest : ∀ k' ∈ keys rest, k' < k := fun k' h' => hk k' (by simp_all [keys])
    simp only [insert, List.cons_append, ih hrest]
    rw [if_neg (by omega), if_neg (by omega)]

/-- The last entry of a table whose other keys are below it is replaced in place. -/
theorem insert_last (t : Table α) {k : Int} (v v' : α) (hk : ∀ k' ∈ t.keys, k' < k) :
    (t ++ [(k, v)]).insert k v' = t ++ [(k, v')] := by
  induction t with
  | nil => simp [insert]
  | cons e rest ih =>
    obtain ⟨k₀, v₀⟩ := e
    have hk₀ : k₀ < k := hk k₀ (by simp [keys])
    have hrest : ∀ k' ∈ keys rest, k' < k := fun k' h' => hk k' (by simp_all [keys])
    simp only [List.cons_append, insert, ih hrest]
    rw [if_neg (by omega), if_neg (by omega)]

theorem modify_last (t : Table α) {k : Int} (v : α) (f : α → α)
    (hk : ∀ k' ∈ t.keys, k' < k) :
    (t ++ [(k, v)]).modify k f = t ++ [(k, f v)] := by
  have hother : ∀ e ∈ t, e.1 ≠ k := fun e he hek =>
    Int.lt_irrefl k (hek ▸ hk e.1 (List.mem_map_of_mem he))
  have hkeep : t.map (fun e => if e.1 = k then (e.1, f e.2) else (e.1, e.2)) = t.map id :=
    List.map_congr_left fun e he => by simp [hother e he]
  simp only [modify, List.map_append, List.map_cons, List.map_nil, if_pos, hkeep, List.map_id]

theorem get?_of_above (t : Table α) {k : Int} (hk : ∀ k' ∈ t.keys, k' < k) :
    t.get? k = none := by
  cases h : t.get? k with
  | none => rfl
  | some v =>
    have hmem : k ∈ t.keys := (mem_keys t k).mpr (by simp [h])
    exact absurd (hk k hmem) (Int.lt_irrefl k)

end Table

namespace Hub

/-- What a late download listener is replayed for one transfer of the table. -/
def entryReplay (e : TrackId × TransferProgress) : List DownloadEvent :=
  [.begin e.1 e.2.totalBytes, .progress e.1 e.2.downloadedBytes e.2.totalBytes] ++
    (match e.2.paused with
     | some m => [.error e.1 m true]
     | none => [])

theorem replayTransfers_eq (h : Hub) : h.replayTransfers = h.transfers.flatMap entryReplay := rfl

/-- One transfer's replay, folded onto a table whose keys are all below the transfer's, puts the
transfer at the end. -/
theorem foldl_entryReplay (acc : Table TransferProgress) (k : TrackId) (p : TransferProgress)
    (hk : ∀ k' ∈ acc.keys, k' < k) :
    (entryReplay (k, p)).foldl trackTransfer acc = acc ++ [(k, p)] := by
  have hbegin :
      trackTransfer acc (.begin k p.totalBytes) = acc ++ [(k, ⟨p.totalBytes, 0, none⟩)] := by
    simp only [trackTransfer, Table.get?_of_above acc hk, Table.insert_of_above acc _ hk]
  have hprogress : trackTransfer (acc ++ [(k, ⟨p.totalBytes, 0, none⟩)])
      (.progress k p.downloadedBytes p.totalBytes) =
        acc ++ [(k, ⟨p.totalBytes, p.downloadedBytes, none⟩)] :=
    Table.insert_last acc _ _ hk
  simp only [entryReplay, List.foldl_append, List.foldl_cons, List.foldl_nil, hbegin, hprogress]
  cases hp : p.paused with
  | none =>
    simp only [List.foldl_nil]
    rw [← hp]
  | some m =>
    simp only [List.foldl_cons, List.foldl_nil, trackTransfer, Table.modify_last acc _ _ hk]
    rw [← hp]

/-- The replay of an ordered table, folded onto a table whose keys are all below the table's,
appends the table. -/
theorem foldl_replay (acc : Table TransferProgress) {t : Table TransferProgress} (ht : t.Ordered)
    (hacc : ∀ k ∈ acc.keys, ∀ k' ∈ t.keys, k < k') :
    (t.flatMap entryReplay).foldl trackTransfer acc = acc ++ t := by
  induction t generalizing acc with
  | nil => simp
  | cons e rest ih =>
    obtain ⟨k, p⟩ := e
    unfold Table.Ordered Table.keys at ht
    simp only [List.map_cons, List.pairwise_cons] at ht
    -- the entry lands last, and every later key is above it
    have hfirst := foldl_entryReplay acc k p fun k' h' => hacc k' h' k (by simp [Table.keys])
    have hnext :
        ∀ k₁ ∈ Table.keys (acc ++ [(k, p)]), ∀ k' ∈ Table.keys rest, k₁ < k' := by
      intro k₁ h₁ k' h'
      simp only [Table.keys, List.map_append, List.map_cons, List.map_nil, List.mem_append,
        List.mem_singleton] at h₁
      rcases h₁ with h₁ | rfl
      · exact hacc k₁ h₁ k' (by
          simp only [Table.keys, List.map_cons, List.mem_cons]
          exact Or.inr h')
      · exact ht.1 k' h'
    rw [List.flatMap_cons, List.foldl_append, hfirst, ih _ ht.2 hnext, List.append_assoc,
      List.singleton_append]

/-- Folding the replay of an ordered table from the empty table gives the table back. -/
theorem replay_rebuilds {h : Hub} (ho : h.transfers.Ordered) :
    h.replayTransfers.foldl trackTransfer [] = h.transfers := by
  rw [replayTransfers_eq, foldl_replay [] ho (by simp [Table.keys])]
  rfl

/-- Only a download event touches the table of transfers. -/
theorem perform_transfers (h : Hub) (op : HubOp) :
    (h.perform op).transfers = op.download?.toList.foldl trackTransfer h.transfers := by
  cases op with
  | subscribe ch => cases ch <;> rfl
  | register ch capacity closed => cases ch <;> rfl
  | unregister ch id => cases ch <;> rfl
  | emitBuffer track percent => exact emitBuffer_transfers h track percent
  | take s => cases s with | mk ch id k dropped => cases ch <;> rfl
  | drop s => cases s with | mk ch id k dropped => cases ch <;> rfl
  | _ => rfl

theorem transfers_performAll (h : Hub) (ops : List HubOp) :
    (h.performAll ops).transfers =
      (ops.filterMap HubOp.download?).foldl trackTransfer h.transfers := by
  induction ops generalizing h with
  | nil => rfl
  | cons op ops ih =>
    change ((h.perform op).performAll ops).transfers = _
    rw [ih, perform_transfers, List.filterMap_cons]
    cases op.download? <;> rfl

theorem ordered_foldl_trackTransfer {t : Table TransferProgress} (ht : t.Ordered)
    (es : List DownloadEvent) : (es.foldl trackTransfer t).Ordered := by
  induction es generalizing t with
  | nil => exact ht
  | cons e es ih => exact ih (ordered_trackTransfer ht e)

end Hub

/-- A hub made new and given any operations keeps as its table the fold of the download events
it announced. Folding its replay gives that table back, so a download listener that joins after
`pre`, folding its replay and then the events announced by `post`, rebuilds the table of a
listener that folded every event from the start. -/
theorem late_listener_rebuilds_transfers (n : Nat) (pre post : List HubOp) :
    let h := (Hub.create n).performAll pre
    h.transfers = (pre.filterMap HubOp.download?).foldl Hub.trackTransfer [] ∧
      h.replayTransfers.foldl Hub.trackTransfer [] = h.transfers ∧
      (h.replayTransfers ++ post.filterMap HubOp.download?).foldl Hub.trackTransfer [] =
        ((pre ++ post).filterMap HubOp.download?).foldl Hub.trackTransfer [] := by
  intro h
  have hfold : h.transfers = (pre.filterMap HubOp.download?).foldl Hub.trackTransfer [] :=
    Hub.transfers_performAll _ pre
  have hordered : h.transfers.Ordered := by
    rw [hfold]
    exact Hub.ordered_foldl_trackTransfer (by simp [Table.Ordered, Table.keys]) _
  have hrebuilt := Hub.replay_rebuilds hordered
  refine ⟨hfold, hrebuilt, ?_⟩
  rw [List.foldl_append, hrebuilt, hfold, List.filterMap_append, List.foldl_append]

end PlaybackEngine
