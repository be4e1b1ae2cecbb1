import PlaybackEngine.Listeners.Hub
import PlaybackEngine.Script.Hub

set_option autoImplicit false

/-!
# Each listener is served as if it were alone

The hub hands each event to the listeners of its channel one after another, delivering to
their mailboxes and forgetting those whose delivery fails. Seen from one registration, all of
that reduces to a small machine of its own, `Channel.Solo`: it starts with what it is owed on
joining, as much as its mailbox takes, and is listed only if all of it went in; it then receives,
in order, each event broadcast on its channel while it is listed, until a broadcast finds its
mailbox full or its reader gone, or its id is unregistered; and its reader takes what is
waiting, or goes. What is done to other listeners and on other channels does not reach it.

`Hub.serves_each_listener_alone` states this of every run of a new hub: the hub holds each
registration's mailbox, and lists it, exactly as its lone counterpart does, the counterpart
having seen only what its channel underwent (`Hub.opsOn`). The broadcast loop is opened once
(`foldl_broadcastStep_kept`, `foldl_broadcastStep_box`) and every operation of a channel once
(`Channel.Serves.exec`).
-/

namespace PlaybackEngine

namespace Mailbox

variable {E : Type}

theorem deliverAll_closed (b : Mailbox E) (hb : b.closed = true) (es : List E) :
    b.deliverAll es = (b, es.isEmpty) := by
  cases es with
  | nil => rfl
  | cons e es => simp [deliverAll, deliver, hb]

/-- An open mailbox takes events in order until it is full. -/
theorem deliverAll_open (capacity : Nat) (queued es : List E) :
    ({ capacity, queued } : Mailbox E).deliverAll es =
      ({ capacity, queued := queued ++ es.take (capacity - queued.length) },
        decide (es.length ≤ capacity - queued.length)) := by
  induction es generalizing queued with
  | nil => simp [deliverAll]
  | cons e es ih =>
    by_cases hfull : capacity ≤ queued.length
    · -- full: nothing goes in
      have hzero : capacity - queued.length = 0 := by omega
      simp [deliverAll, deliver, hfull, hzero]
    · have hroom : capacity - queued.length = capacity - (queued.length + 1) + 1 := by omega
      have hnext := ih (queued ++ [e])
      rw [List.length_append, List.length_singleton] at hnext
      simp only [deliverAll, deliver, Bool.false_or, ge_iff_le, hfull, decide_false,
        Bool.false_eq_true, if_false, hnext, hroom, List.take_succ_cons, List.append_assoc,
        List.singleton_append, List.length_cons, Prod.mk.injEq, true_and]
      simp only [decide_eq_decide]
      omega

end Mailbox

namespace Channel

variable {E : Type}

/-! ## Broadcasting, one listener at a time -/

/-- A broadcast's turn at one listener: deliver to its mailbox, and keep the listener if that
worked. -/
def broadcastStep (e : E) (acc : List (SubscriberId × Nat) × List (Mailbox E))
    (l : SubscriberId × Nat) : List (SubscriberId × Nat) × List (Mailbox E) :=
  match acc.2[l.2]? with
  | some b =>
    match b.deliver e with
    | some b' => (acc.1 ++ [l], acc.2.set l.2 b')
    | none => acc
  | none => acc

theorem broadcast_eq (c : Channel E) (e : E) :
    c.broadcast e = ⟨(c.listeners.foldl (broadcastStep e) ([], c.boxes)).2,
      (c.listeners.foldl (broadcastStep e) ([], c.boxes)).1⟩ := rfl

/-- Whether the mailbox of listener `l` among `bs` takes `e`. -/
def accepts (bs : List (Mailbox E)) (e : E) (l : SubscriberId × Nat) : Bool :=
  (bs[l.2]?.bind (·.deliver e)).isSome

/-- A mailbox after it was offered `e`. -/
def offer (e : E) (b : Mailbox E) : Mailbox E := (b.deliver e).getD b

theorem broadcastStep_eq (e : E) (kept : List (SubscriberId × Nat)) (bs : List (Mailbox E))
    (l : SubscriberId × Nat) :
    broadcastStep e (kept, bs) l =
      (if accepts bs e l then kept ++ [l] else kept, bs.modify l.2 (offer e)) := by
  unfold broadcastStep accepts
  dsimp only
  rcases hb : bs[l.2]? with _ | b
  · -- no mailbox: nothing changes
    refine Prod.ext rfl (List.ext_getElem? fun j => ?_)
    rw [List.getElem?_modify]
    by_cases hj : l.2 = j
    · subst hj
      simp [hb]
    · simp [hj]
  · obtain ⟨hlt, hget⟩ := List.getElem?_eq_some_iff.mp hb
    dsimp only
    rcases hd : b.deliver e with _ | b'
    · -- refused: the mailbox is offered and left as it was
      refine Prod.ext (by simp [hd]) (List.ext_getElem? fun j => ?_)
      rw [List.getElem?_modify]
      by_cases hj : l.2 = j
      · subst hj
        simp [hb, offer, hd]
      · simp [hj]
    · refine Prod.ext (by simp [hd]) (List.ext_getElem? fun j => ?_)
      rw [List.getElem?_modify, List.getElem?_set]
      by_cases hj : l.2 = j
      · subst hj
        simp [hget, offer, hd, hlt]
      · simp [hj]

theorem foldl_broadcastStep_length (e : E) (L : List (SubscriberId × Nat))
    (kept : List (SubscriberId × Nat)) (bs : List (Mailbox E)) :
    (L.foldl (broadcastStep e) (kept, bs)).2.length = bs.length := by
  induction L generalizing kept bs with
  | nil => rfl
  | cons l L ih =>
    rw [List.foldl_cons, broadcastStep_eq, ih, List.length_modify]

/-- Over listeners with mailboxes of their own, a broadcast keeps exactly the listeners whose
mailbox takes the event. -/
theorem foldl_broadcastStep_kept (e : E) (L : List (SubscriberId × Nat))
    (kept : List (SubscriberId × Nat)) (bs : List (Mailbox E)) (hL : (L.map Prod.snd).Nodup) :
    (L.foldl (broadcastStep e) (kept, bs)).1 = kept ++ L.filter (accepts bs e) := by
  induction L generalizing kept bs with
  | nil => simp
  | cons l L ih =>
    rw [List.map_cons, List.nodup_cons] at hL
    rw [List.foldl_cons, broadcastStep_eq, ih _ _ hL.2]
    -- the later listeners' mailboxes are not the one offered now
    have hsame : L.filter (accepts (bs.modify l.2 (offer e)) e) = L.filter (accepts bs e) := by
      refine List.filter_congr fun l' hl' => ?_
      have hne : l.2 ≠ l'.2 := fun h => hL.1 (h ▸ List.mem_map_of_mem hl')
      simp [accepts, hne]
    rw [hsame, List.filter_cons]
    split <;> simp

/-- Over listeners with mailboxes of their own, a broadcast offers the event to each listed
mailbox once and leaves the others alone. -/
theorem foldl_broadcastStep_box (e : E) (L : List (SubscriberId × Nat))
    (kept : List (SubscriberId × Nat)) (bs : List (Mailbox E)) (hL : (L.map Prod.snd).Nodup)
    (k : Nat) :
    (L.foldl (broadcastStep e) (kept, bs)).2[k]? =
      if k ∈ L.map Prod.snd then bs[k]?.map (offer e) else bs[k]? := by
  induction L generalizing kept bs with
  | nil => simp
  | cons l L ih =>
    rw [List.map_cons, List.nodup_cons] at hL
    rw [List.foldl_cons, broadcastStep_eq, ih _ _ hL.2, List.getElem?_modify]
    by_cases hk : l.2 = k
    · subst hk
      simp [hL.1]
    · have hmem : k ∈ (l :: L).map Prod.snd ↔ k ∈ L.map Prod.snd := by
        rw [List.map_cons, List.mem_cons]
        exact or_iff_right (Ne.symm hk)
      simp only [hk, if_false, hmem]
      simp

/-! ## What a channel undergoes -/

/-- Each listener of a channel has a mailbox of its own, among those opened. -/
structure Sound (c : Channel E) : Prop where
  boxes_nodup : (c.listeners.map Prod.snd).Nodup
  box_lt : ∀ l ∈ c.listeners, l.2 < c.boxes.length

theorem Sound.broadcast_listeners {c : Channel E} (hc : c.Sound) (e : E) :
    (c.broadcast e).listeners = c.listeners.filter (accepts c.boxes e) := by
  rw [broadcast_eq]
  exact foldl_broadcastStep_kept e _ [] _ hc.boxes_nodup

theorem Sound.broadcast_box {c : Channel E} (hc : c.Sound) (e : E) (k : Nat) :
    (c.broadcast e).boxes[k]? =
      if k ∈ c.listeners.map Prod.snd then c.boxes[k]?.map (offer e) else c.boxes[k]? := by
  rw [broadcast_eq]
  exact foldl_broadcastStep_box e _ [] _ hc.boxes_nodup k

theorem broadcast_length (c : Channel E) (e : E) :
    (c.broadcast e).boxes.length = c.boxes.length := by
  rw [broadcast_eq]
  exact foldl_broadcastStep_length e _ [] _

/-- What one operation of the hub does to a channel: a listener joins with a mailbox of its
own, first receiving what it is owed; an event is broadcast; a listener's id is removed; the
reader of a mailbox takes its events, or goes; or nothing. -/
inductive Op (E : Type) where
  | join (capacity : Nat) (closed : Bool) (id : SubscriberId) (replay : List E)
  | broadcast (e : E)
  | remove (id : SubscriberId)
  | take (box : Nat)
  | drop (box : Nat)
  | skip

/-- A channel after an operation. -/
def exec (c : Channel E) : Op E → Channel E
  | .join capacity closed id replay =>
    let (k, c) := c.openBox capacity closed
    c.addReplaying id k replay
  | .broadcast e => c.broadcast e
  | .remove id => (c.remove id).2
  | .take k => (c.drain k).2
  | .drop k => c.close k
  | .skip => c

/-- A listener joins with a new mailbox, the channel's last, which takes as much of the replay
as fits; the listener is added if all of it did. -/
theorem exec_join (c : Channel E) (capacity : Nat) (closed : Bool) (id : SubscriberId)
    (replay : List E) :
    c.exec (.join capacity closed id replay) =
      ⟨c.boxes ++ [(({ capacity, closed } : Mailbox E).deliverAll replay).1],
        if (({ capacity, closed } : Mailbox E).deliverAll replay).2 then
          c.listeners ++ [(id, c.boxes.length)]
        else c.listeners⟩ := by
  simp only [exec, openBox, addReplaying, List.getElem?_concat_length,
    List.set_append_right _ _ (Nat.le_refl _), Nat.sub_self, List.set_cons_zero, add]
  split <;> rfl

/-- Joining with nothing owed adds the listener with its new mailbox. -/
theorem exec_join_nil (c : Channel E) (capacity : Nat) (closed : Bool) (id : SubscriberId) :
    c.exec (.join capacity closed id []) = (c.openBox capacity closed).2.add id c.boxes.length := by
  rw [exec_join]
  rfl

/-- Taking a mailbox's events empties it. -/
theorem drain_boxes (c : Channel E) (k : Nat) :
    (c.drain k).2.boxes = c.boxes.modify k fun b => { b with queued := [] } := by
  unfold drain
  split
  · rename_i b hb
    obtain ⟨hlt, hget⟩ := List.getElem?_eq_some_iff.mp hb
    refine List.ext_getElem? fun j => ?_
    simp only [Mailbox.drain, List.getElem?_set, List.getElem?_modify]
    by_cases hj : k = j
    · subst hj
      simp [hlt, hget]
    · simp [hj]
  · rename_i hb
    exact (List.modify_eq_self (List.getElem?_eq_none_iff.mp hb)).symm

theorem drain_listeners (c : Channel E) (k : Nat) : (c.drain k).2.listeners = c.listeners := by
  unfold drain
  split <;> rfl

theorem Sound.exec {c : Channel E} (hc : c.Sound) (op : Op E) : (c.exec op).Sound := by
  cases op with
  | join capacity closed id replay =>
    rw [exec_join]
    -- the new mailbox is numbered past every listed one
    have hfresh : c.boxes.length ∉ c.listeners.map Prod.snd := fun hm => by
      obtain ⟨l, hl, hk⟩ := List.mem_map.mp hm
      exact absurd (hk ▸ hc.box_lt l hl) (Nat.lt_irrefl _)
    split
    · refine ⟨?_, fun l hl => ?_⟩
      · rw [List.map_append, List.nodup_append]
        exact ⟨hc.boxes_nodup, by simp,
          fun a ha b hb => by simp at hb; exact hb ▸ fun h => hfresh (h ▸ ha)⟩
      · rcases List.mem_append.mp hl with hl | hl
        · simpa using Nat.lt_succ_of_lt (hc.box_lt l hl)
        · simp at hl
          simp [hl]
    · exact ⟨hc.boxes_nodup, fun l hl => by simpa using Nat.lt_succ_of_lt (hc.box_lt l hl)⟩
  | broadcast e =>
    refine ⟨?_, fun l hl => ?_⟩
    · show ((c.broadcast e).listeners.map Prod.snd).Nodup
      rw [hc.broadcast_listeners]
      exact hc.boxes_nodup.sublist (List.filter_sublist.map _)
    · have hl' : l ∈ c.listeners.filter (accepts c.boxes e) := hc.broadcast_listeners e ▸ hl
      rw [show (c.exec (.broadcast e)).boxes = (c.broadcast e).boxes from rfl, broadcast_length]
      exact hc.box_lt l (List.mem_filter.mp hl').1
  | remove id =>
    exact ⟨hc.boxes_nodup.sublist (List.filter_sublist.map _),
      fun l hl => hc.box_lt l (List.mem_filter.mp hl).1⟩
  | take k =>
    refine ⟨?_, fun l hl => ?_⟩
    · show ((c.drain k).2.listeners.map Prod.snd).Nodup
      rw [drain_listeners]
      exact hc.boxes_nodup
    · show l.2 < (c.drain k).2.boxes.length
      rw [drain_boxes, List.length_modify]
      exact hc.box_lt l (drain_listeners c k ▸ hl)
  | drop k =>
    refine ⟨hc.boxes_nodup, fun l hl => ?_⟩
    show l.2 < (c.boxes.modify k _).length
    rw [List.length_modify]
    exact hc.box_lt l hl
  | skip => exact hc

/-! ## One listener alone -/

/-- One listener of a channel, as if it were the only one: the capacity of its mailbox,
everything delivered to the mailbox so far in order, how much of that its reader has taken,
whether its reader has gone, and whether the channel lists it. -/
structure Solo (E : Type) where
  capacity : Nat
  received : List E
  taken : Nat
  closed : Bool
  listed : Bool

namespace Solo

/-- The events delivered and not yet taken. -/
def pending (s : Solo E) : List E := s.received.drop s.taken

/-- The listener's mailbox. -/
def mailbox (s : Solo E) : Mailbox E := ⟨s.capacity, s.pending, s.closed⟩

/-- Whether the mailbox has a reader and room for one more event. -/
def hasRoom (s : Solo E) : Bool := !s.closed && decide (s.pending.length < s.capacity)

/-- A listener joining with a mailbox of `capacity`: the mailbox takes as much of what the
listener is owed as fits, and the listener is listed only if all of it went in. -/
def start (capacity : Nat) (closed : Bool) (replay : List E) : Solo E where
  capacity := capacity
  received := if closed then [] else replay.take capacity
  taken := 0
  closed := closed
  listed := replay.isEmpty || (!closed && decide (replay.length ≤ capacity))

/-- Listener `id` with mailbox `k` after an operation of its channel. A broadcast reaches it
while it is listed, and unlists it if its mailbox has no room; removing its id unlists it; its
reader takes what is waiting, or goes. Other listeners joining, leaving or reading leave it as it
was. -/
def step (id : SubscriberId) (k : Nat) (s : Solo E) : Op E → Solo E
  | .broadcast e =>
    if s.listed then
      if s.hasRoom then { s with received := s.received ++ [e] } else { s with listed := false }
    else s
  | .remove id' => if id' = id then { s with listed := false } else s
  | .take k' => if k' = k then { s with taken := s.received.length } else s
  | .drop k' => if k' = k then { s with closed := true, taken := s.received.length } else s
  | .join .. => s
  | .skip => s

/-- The listener after a sequence of operations of its channel. -/
def runAll (id : SubscriberId) (k : Nat) (s : Solo E) (ops : List (Op E)) : Solo E :=
  ops.foldl (step id k) s

/-- A mailbox with a reader and room takes the event at the end of what is pending. -/
theorem deliver_mailbox (s : Solo E) (hs : s.taken ≤ s.received.length) (e : E) :
    s.mailbox.deliver e =
      if s.hasRoom then some { s with received := s.received ++ [e] }.mailbox else none := by
  unfold Mailbox.deliver hasRoom mailbox pending
  dsimp only
  rw [List.drop_append_of_le_length hs, List.length_drop]
  cases s.closed
  · by_cases hroom : s.received.length - s.taken < s.capacity
    · simp [hroom, Nat.not_le.mpr hroom]
    · simp [hroom, Nat.le_of_not_lt hroom]
  · simp

/-- Nothing is taken that was not delivered. -/
theorem taken_le_step {id : SubscriberId} {k : Nat} {s : Solo E}
    (hs : s.taken ≤ s.received.length) (op : Op E) :
    (s.step id k op).taken ≤ (s.step id k op).received.length := by
  cases op with
  | broadcast e =>
    simp only [step]
    split
    · split
      · simp only [List.length_append]
        exact Nat.le_add_right_of_le hs
      · exact hs
    · exact hs
  | remove id' =>
    simp only [step]
    split <;> exact hs
  | take k' =>
    simp only [step]
    split
    · exact Nat.le_refl _
    · exact hs
  | drop k' =>
    simp only [step]
    split
    · exact Nat.le_refl _
    · exact hs
  | join => exact hs
  | skip => exact hs

end Solo

/-- Channel `c` serves listener `id`, whose mailbox is `k`, as the lone listener `s`: the
mailbox holds what `s` has pending, the channel lists the listener exactly while `s` is listed,
and no other listener delivers to that mailbox. -/
structure Serves (c : Channel E) (id : SubscriberId) (k : Nat) (s : Solo E) : Prop where
  mailbox : c.boxes[k]? = some s.mailbox
  listed_iff : (id, k) ∈ c.listeners ↔ s.listed = true
  owner : ∀ l ∈ c.listeners, l.2 = k → l.1 = id
  taken_le : s.taken ≤ s.received.length

namespace Serves

variable {c : Channel E} {id : SubscriberId} {k : Nat} {s : Solo E}

theorem box_lt (h : c.Serves id k s) : k < c.boxes.length :=
  (List.getElem?_eq_some_iff.mp h.mailbox).1

/-- The mailbox is some listener's exactly while the listener is listed. -/
theorem mem_boxes_iff (h : c.Serves id k s) : k ∈ c.listeners.map Prod.snd ↔ s.listed = true := by
  rw [← h.listed_iff]
  constructor
  · intro hm
    obtain ⟨l, hl, hk⟩ := List.mem_map.mp hm
    have hid := h.owner l hl hk
    rwa [show l = (id, k) from Prod.ext hid hk] at hl
  · intro hm
    exact List.mem_map_of_mem (f := Prod.snd) hm

theorem join (h : c.Serves id k s) (capacity : Nat) (closed : Bool)
    (id' : SubscriberId) (replay : List E) :
    (c.exec (.join capacity closed id' replay)).Serves id k s := by
  have hk := h.box_lt
  rw [exec_join]
  refine ⟨?_, ?_, fun l hl hlk => ?_, h.taken_le⟩
  · rw [List.getElem?_append_left hk]
    exact h.mailbox
  · rw [← h.listed_iff]
    split
    · simp only [List.mem_append, List.mem_singleton, Prod.mk.injEq]
      exact or_iff_left fun ⟨_, he⟩ => absurd he (Nat.ne_of_lt hk)
    · exact Iff.rfl
  · split at hl
    · rcases List.mem_append.mp hl with hl | hl
      · exact h.owner l hl hlk
      · rw [List.mem_singleton] at hl
        subst hl
        exact absurd hlk.symm (Nat.ne_of_lt hk)
    · exact h.owner l hl hlk

theorem broadcast (hc : c.Sound) (h : c.Serves id k s) (e : E) :
    (c.exec (.broadcast e)).Serves id k (s.step id k (.broadcast e)) := by
  have hdeliver := s.deliver_mailbox h.taken_le e
  have haccepts : accepts c.boxes e (id, k) = s.hasRoom := by
    unfold accepts
    rw [h.mailbox, Option.bind_some, hdeliver]
    by_cases hr : s.hasRoom = true <;> simp [hr]
  refine ⟨?_, ?_, fun l hl hlk => ?_, ?_⟩
  · show (c.broadcast e).boxes[k]? = _
    rw [hc.broadcast_box, h.mailbox]
    simp only [Solo.step]
    by_cases hl : s.listed = true
    · -- a listed mailbox is offered the event
      rw [if_pos (h.mem_boxes_iff.mpr hl)]
      simp only [hl, if_true, Option.map_some, offer, hdeliver]
      split <;> rfl
    · rw [if_neg (mt h.mem_boxes_iff.mp hl)]
      simp [hl]
  · show (id, k) ∈ (c.broadcast e).listeners ↔ _
    rw [hc.broadcast_listeners, List.mem_filter, h.listed_iff, haccepts]
    simp only [Solo.step]
    by_cases hl : s.listed = true <;> by_cases hr : s.hasRoom = true <;> simp [hl, hr]
  · have hl' : l ∈ c.listeners.filter (accepts c.boxes e) := hc.broadcast_listeners e ▸ hl
    exact h.owner l (List.mem_filter.mp hl').1 hlk
  · exact Solo.taken_le_step h.taken_le _

theorem remove (h : c.Serves id k s) (id' : SubscriberId) :
    (c.exec (.remove id')).Serves id k (s.step id k (.remove id')) := by
  refine ⟨?_, ?_, fun l hl hlk => h.owner l (List.mem_filter.mp hl).1 hlk, ?_⟩
  · simp only [Solo.step]
    split <;> exact h.mailbox
  · show (id, k) ∈ c.listeners.filter (·.1 != id') ↔ _
    rw [List.mem_filter, h.listed_iff]
    simp only [Solo.step]
    by_cases hid : id' = id
    · subst hid
      simp
    · simp [hid, Ne.symm hid]
  · exact Solo.taken_le_step h.taken_le _

theorem take (h : c.Serves id k s) (k' : Nat) :
    (c.exec (.take k')).Serves id k (s.step id k (.take k')) := by
  have hlisteners : (c.exec (.take k')).listeners = c.listeners := drain_listeners c k'
  refine ⟨?_, ?_, fun l hl hlk => h.owner l (hlisteners ▸ hl) hlk, ?_⟩
  · show (c.drain k').2.boxes[k]? = _
    rw [drain_boxes, List.getElem?_modify, h.mailbox]
    simp only [Solo.step]
    by_cases hk : k' = k
    · -- the reader took everything pending
      simp [hk, Solo.mailbox, Solo.pending]
    · simp [hk]
  · rw [hlisteners, h.listed_iff]
    simp only [Solo.step]
    split <;> rfl
  · exact Solo.taken_le_step h.taken_le _

theorem drop (h : c.Serves id k s) (k' : Nat) :
    (c.exec (.drop k')).Serves id k (s.step id k (.drop k')) := by
  refine ⟨?_, ?_, h.owner, ?_⟩
  · show (c.boxes.modify k' _)[k]? = _
    rw [List.getElem?_modify, h.mailbox]
    simp only [Solo.step]
    by_cases hk : k' = k
    · -- the reader went, and what was pending with it
      simp [hk, Solo.mailbox, Solo.pending]
    · simp [hk]
  · show (id, k) ∈ c.listeners ↔ _
    rw [h.listed_iff]
    simp only [Solo.step]
    split <;> rfl
  · exact Solo.taken_le_step h.taken_le _

/-- The step: whatever its channel undergoes, a served listener stays served as its lone
counterpart says. -/
theorem exec (hc : c.Sound) (h : c.Serves id k s) (op : Op E) :
    (c.exec op).Serves id k (s.step id k op) := by
  cases op with
  | join capacity closed id' replay => exact h.join capacity closed id' replay
  | broadcast e => exact h.broadcast hc e
  | remove id' => exact h.remove id'
  | take k' => exact h.take k'
  | drop k' => exact h.drop k'
  | skip => exact h

end Serves

/-- A listener that joins is served from the start as a lone listener joining with the same
mailbox and replay. -/
theorem Sound.serves_join {c : Channel E} (hc : c.Sound) (capacity : Nat) (closed : Bool)
    (id : SubscriberId) (replay : List E) :
    (c.exec (.join capacity closed id replay)).Serves id c.boxes.length
      (Solo.start capacity closed replay) := by
  rw [exec_join]
  have hfresh : ∀ l ∈ c.listeners, l.2 ≠ c.boxes.length := fun l hl => Nat.ne_of_lt (hc.box_lt l hl)
  -- what went into the new mailbox, and whether all of it did
  have hreplay : ({ capacity, closed } : Mailbox E).deliverAll replay =
      ((Solo.start capacity closed replay).mailbox, (Solo.start capacity closed replay).listed) := by
    cases closed with
    | true => rw [Mailbox.deliverAll_closed _ rfl]; simp [Solo.start, Solo.mailbox, Solo.pending]
    | false =>
      rw [Mailbox.deliverAll_open]
      simp only [Solo.start, Solo.mailbox, Solo.pending, List.nil_append, List.length_nil,
        Nat.sub_zero, Bool.false_eq_true, if_false, List.drop_zero, Bool.not_false, Bool.true_and]
      cases replay <;> simp
  simp only [hreplay]
  refine ⟨by simp, ?_, fun l hl hlk => ?_, Nat.zero_le _⟩
  · split
    · rename_i hlisted
      simp [hlisted]
    · rename_i hlisted
      exact ⟨fun hm => absurd rfl (hfresh _ hm), fun h => absurd h hlisted⟩
  · split at hl
    · rcases List.mem_append.mp hl with hl | hl
      · exact absurd hlk (hfresh l hl)
      · rw [List.mem_singleton] at hl
        rw [hl]
    · exact absurd hlk (hfresh l hl)

end Channel

/-! ## The hub -/

/-- The events of a channel. -/
def ListenerChannel.Event : ListenerChannel → Type
  | .moves => MoveEvent
  | .changes => ChangeEvent
  | .buffers => BufferEvent
  | .downloads => DownloadEvent

/-- An operation on the hub: a listener joins with a mailbox of the hub's capacity or of its
own, or leaves; an event is announced; the buffered share is forgotten; a subscription's reader
takes what is waiting, or goes. -/
inductive HubOp where
  | subscribe (ch : ListenerChannel)
  | register (ch : ListenerChannel) (capacity : Nat) (closed : Bool)
  | unregister (ch : ListenerChannel) (id : SubscriberId)
  | emitMove (e : MoveEvent)
  | emitChange (e : ChangeEvent)
  | emitBuffer (track : TrackId) (percent : Nat)
  | clearBuffer
  | emitDownload (e : DownloadEvent)
  | take (s : Script.HeldSubscription)
  | drop (s : Script.HeldSubscription)

namespace Hub

/-- A channel of the hub. -/
def channel (h : Hub) : (ch : ListenerChannel) → Channel ch.Event
  | .moves => h.moves
  | .changes => h.changes
  | .buffers => h.buffers
  | .downloads => h.downloads

/-- What a listener joining a channel is owed first: the buffered share last announced, or the
transfers under way; nothing on the other two channels. -/
def replay (h : Hub) : (ch : ListenerChannel) → List ch.Event
  | .moves => []
  | .changes => []
  | .buffers =>
    match h.buffer with
    | some e => [e]
    | none => []
  | .downloads => h.replayTransfers

/-- The hub after an operation. -/
def perform (h : Hub) : HubOp → Hub
  | .subscribe ch => (h.subscribe ch).2
  | .register ch capacity closed => (h.register ch capacity closed).2
  | .unregister ch id => (h.unregister ch id).2
  | .emitMove e => (h.emitMove e).2
  | .emitChange e => (h.emitChange e).2
  | .emitBuffer track percent => (h.emitBuffer track percent).2
  | .clearBuffer => h.clearBuffer
  | .emitDownload e => (h.emitDownload e).2
  | .take s => (Script.drainSubscription h s).2
  | .drop s => Script.closeSubscription h s

/-- The hub after a sequence of operations. -/
def performAll (h : Hub) (ops : List HubOp) : Hub := ops.foldl perform h

/-- What an operation of the hub does to channel `ch`. An announcement is broadcast on its own
channel, unless it repeats the buffered share last announced. -/
def opOn (h : Hub) (ch : ListenerChannel) : HubOp → Channel.Op ch.Event
  | .subscribe ch' => if ch' = ch then .join h.capacity false h.nextId (h.replay ch) else .skip
  | .register ch' capacity closed =>
    if ch' = ch then .join capacity closed h.nextId (h.replay ch) else .skip
  | .unregister ch' id => if ch' = ch then .remove id else .skip
  | .emitMove e =>
    match ch with
    | .moves => .broadcast e
    | _ => .skip
  | .emitChange e =>
    match ch with
    | .changes => .broadcast e
    | _ => .skip
  | .emitBuffer track percent =>
    match ch with
    | .buffers =>
      if h.buffer = some ⟨track, min percent 100⟩ then .skip else .broadcast ⟨track, min percent 100⟩
    | _ => .skip
  | .clearBuffer => .skip
  | .emitDownload e =>
    match ch with
    | .downloads => .broadcast e
    | _ => .skip
  | .take s => if s.channel = ch then .take s.box else .skip
  | .drop s => if s.channel = ch then .drop s.box else .skip

/-- What channel `ch` undergoes over a sequence of operations from `h`. -/
def opsOn (h : Hub) (ch : ListenerChannel) : List HubOp → List (Channel.Op ch.Event)
  | [] => []
  | op :: ops => h.opOn ch op :: (h.perform op).opsOn ch ops

/-- Every operation acts on each channel as `opOn` says. -/
theorem channel_perform (h : Hub) (ch : ListenerChannel) (op : HubOp) :
    (h.perform op).channel ch = (h.channel ch).exec (h.opOn ch op) := by
  cases op with
  | subscribe ch' =>
    cases ch' <;> cases ch
    -- the two channels that owe a new listener nothing
    case moves.moves => exact (Channel.exec_join_nil _ _ _ _).symm
    case changes.changes => exact (Channel.exec_join_nil _ _ _ _).symm
    all_goals rfl
  | register ch' capacity closed =>
    cases ch' <;> cases ch
    case moves.moves => exact (Channel.exec_join_nil _ _ _ _).symm
    case changes.changes => exact (Channel.exec_join_nil _ _ _ _).symm
    all_goals rfl
  | unregister ch' id => cases ch' <;> cases ch <;> rfl
  | emitMove e => cases ch <;> rfl
  | emitChange e => cases ch <;> rfl
  | emitBuffer track percent =>
    cases ch <;> simp only [perform, emitBuffer, opOn, channel] <;> split <;> rfl
  | clearBuffer => cases ch <;> rfl
  | emitDownload e => cases ch <;> rfl
  | take s => cases s with | mk ch' id k dropped => cases ch' <;> cases ch <;> rfl
  | drop s => cases s with | mk ch' id k dropped => cases ch' <;> cases ch <;> rfl

/-- Every listener of every channel has a mailbox of its own. -/
def Sound (h : Hub) : Prop := ∀ ch, (h.channel ch).Sound

theorem sound_create (n : Nat) : (Hub.create n).Sound := fun ch => by
  cases ch <;> exact ⟨List.nodup_nil, fun _ hl => absurd hl List.not_mem_nil⟩

theorem Sound.perform {h : Hub} (hs : h.Sound) (op : HubOp) : (h.perform op).Sound := fun ch => by
  rw [channel_perform]
  exact (hs ch).exec _

theorem Sound.performAll {h : Hub} (hs : h.Sound) (ops : List HubOp) : (h.performAll ops).Sound := by
  induction ops generalizing h with
  | nil => exact hs
  | cons op ops ih => exact ih (hs.perform op)

/-- A registration gets the next id and the channel's next mailbox. -/
theorem register_fst (h : Hub) (ch : ListenerChannel) (capacity : Nat) (closed : Bool) :
    (h.register ch capacity closed).1 = (h.nextId, (h.channel ch).boxes.length) := by
  cases ch <;> rfl

/-- The run: a served listener stays served over any operations, its lone counterpart seeing
only what its channel undergoes. -/
theorem serves_performAll {h : Hub} (hs : h.Sound) {ch : ListenerChannel} {id : SubscriberId}
    {k : Nat} {s : Channel.Solo ch.Event} (hserve : (h.channel ch).Serves id k s)
    (ops : List HubOp) :
    ((h.performAll ops).channel ch).Serves id k (s.runAll id k (h.opsOn ch ops)) := by
  induction ops generalizing h s with
  | nil => exact hserve
  | cons op ops ih =>
    have hstep : ((h.perform op).channel ch).Serves id k (s.step id k (h.opOn ch op)) := by
      rw [channel_perform]
      exact hserve.exec (hs ch) _
    exact ih (hs.perform op) hstep

/-- Each registration is served as if it were alone on its channel. After any operations on a
new hub, a listener registers on any channel with a mailbox of any capacity, open or with its
reader gone; then, after any further operations, the hub's mailbox for it holds what its lone
counterpart (`Channel.Solo`) has pending, and the channel lists it exactly while the counterpart
is listed. The counterpart starts with what the listener is owed on joining, as much as fits,
listed only if all of it went in; it receives each event broadcast on its channel while it is
listed, in order, and is unlisted by the first broadcast its mailbox has no room or no reader
for, or by the removal of its id; it sees nothing else but its reader taking events or going. -/
theorem serves_each_listener_alone (n : Nat) (pre : List HubOp) (ch : ListenerChannel)
    (capacity : Nat) (closed : Bool) (post : List HubOp) :
    let h := (Hub.create n).performAll pre
    let r := h.register ch capacity closed
    ((r.2.performAll post).channel ch).Serves r.1.1 r.1.2
      ((Channel.Solo.start capacity closed (h.replay ch)).runAll r.1.1 r.1.2
        (r.2.opsOn ch post)) := by
  intro h r
  have hs : h.Sound := (sound_create n).performAll pre
  -- the registration joins its channel as a lone listener would
  have hjoin : (r.2.channel ch).Serves r.1.1 r.1.2 (Channel.Solo.start capacity closed (h.replay ch)) := by
    have hop : h.opOn ch (.register ch capacity closed) = .join capacity closed h.nextId (h.replay ch) := by
      simp [opOn]
    rw [show r.1 = (h.nextId, (h.channel ch).boxes.length) from register_fst h ch capacity closed,
      show r.2 = h.perform (.register ch capacity closed) from rfl, channel_perform, hop]
    exact (hs ch).serves_join capacity closed h.nextId (h.replay ch)
  exact serves_performAll (hs.perform (.register ch capacity closed)) hjoin post

/-- With mailboxes of one event, a subscriber receives the first move announced; the second
finds its mailbox full and drops it, while the first stays to be taken. -/
example :
    ((Hub.create 1).performAll [.subscribe .moves, .emitMove .stop, .emitMove .unpause]).moves.count
        = 0 ∧
      ((Hub.create 1).performAll
        [.subscribe .moves, .emitMove .stop, .emitMove .unpause]).moves.boxes.map (·.queued) =
        [[.stop]] := by
  decide

end Hub

end PlaybackEngine
