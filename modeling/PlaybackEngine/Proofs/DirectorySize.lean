import Mathlib
import PlaybackEngine.Disk.Quota

set_option autoImplicit false

/-!
# The size of a directory and the free space of a volume

A plain tree is one a file system holds without links: every path names one node by real
names, and every directory on the way to a node is there (`Tree.Plain`). In such a tree every
node is found by walking its path, as long as the path fits a call (`walk_of_mem`), and a
directory lists exactly the last names of the paths one name below it (`mem_children`).

Measuring a directory (`directorySize`) only reads the tree. With the depth the volume allows it
answers the sum of the sizes of the files below the directory (`Tree.sizeWithin`) when every path
below it fits a call, and otherwise the refusal of a path too long (`sizeAnswer`,
`directorySize_measureDepth`). The recursion follows the identity that a directory's size is the
sum of its entries' sizes (`sizeWithin_eq_sum_children`).

A volume's answer (`volume_info_counts_usage`) splits on its root: a directory is measured, a
missing root with nothing in the way is made one directory at a time
(`createDirAllWith_missing`) and found empty, and anything else leaves the volume unmounted.

A tree can hold a node whose path does not fit a call, since a directory is moved whole, so a
deep enough cache with one byte in it cannot be measured (`deep_cache_measure_refused`).
-/

namespace PlaybackEngine.Disk

/-- A name of an entry of a directory: not empty, not `.` or `..`, and at most `maxNameBytes`
bytes long. -/
def RealName (x : String) : Prop :=
  x ≠ "" ∧ x ≠ "." ∧ x ≠ ".." ∧ Text.utf8Length x ≤ maxNameBytes

instance (x : String) : Decidable (RealName x) := inferInstanceAs (Decidable (_ ∧ _ ∧ _ ∧ _))

namespace Tree

/-- The paths of a tree's nodes. -/
def keys (t : Tree) : List (List String) := t.nodes.map Prod.fst

/-- A tree a file system holds, without links: every path names one node, by real names, and
every directory on the way to a node is there. -/
structure Plain (t : Tree) : Prop where
  nodup : t.keys.Nodup
  real : ∀ e ∈ t.nodes, e.1 ≠ [] ∧ ∀ x ∈ e.1, RealName x
  dirs : ∀ e ∈ t.nodes, ∀ k, 0 < k → k < e.1.length → t.get? (e.1.take k) = some .dir
  noLinks : ∀ e ∈ t.nodes, ∀ target, e.2 ≠ .link target

/-- Whether every path at or below `p` fits a call. -/
def fitsWithin (t : Tree) (p : List String) : Bool := t.keys.all fun q => !within p q || pathFits q

/-- The sizes of the files at or below a path. -/
def sizeWithin (t : Tree) (p : List String) : Nat :=
  (t.nodes.map fun e => if within p e.1 then e.2.size else 0).sum

theorem within_iff {p q : List String} : within p q = true ↔ p <+: q := List.isPrefixOf_iff_prefix

/-! ## Finding nodes -/

theorem take_ne_nil {α : Type} {l : List α} {k : Nat} (hk : 0 < k) (hkl : k ≤ l.length) :
    l.take k ≠ [] := by
  simp only [ne_eq, List.take_eq_nil_iff, not_or]
  exact ⟨by omega, List.ne_nil_of_length_pos (by omega)⟩

section Get

variable {t : Tree}

/-- With one node per path, a node's path finds it. -/
theorem get?_eq_of_mem (hnd : t.keys.Nodup) {e : List String × Node} (hne : e.1 ≠ [])
    (he : e ∈ t.nodes) : t.get? e.1 = some e.2 := by
  obtain ⟨f, hf, hfe⟩ : ∃ f, t.nodes.find? (·.1 == e.1) = some f ∧ f.1 = e.1 := by
    cases hfind : t.nodes.find? (·.1 == e.1) with
    | none => exact absurd (List.find?_eq_none.mp hfind e he) (by simp)
    | some f => exact ⟨f, rfl, by simpa using List.find?_some hfind⟩
  -- the node found first has the path, and only one node has it
  have hsame := List.inj_on_of_nodup_map hnd (List.mem_of_find?_eq_some hf) he hfe
  simp [get?, hne, hf, hsame]

theorem get?_of_mem (hp : t.Plain) {e : List String × Node} (he : e ∈ t.nodes) :
    t.get? e.1 = some e.2 :=
  get?_eq_of_mem hp.nodup (hp.real e he).1 he

/-- Nodes put after a path's node leave what the path finds. -/
theorem get?_append_of_mem {q : List String} (hq : q ∈ t.keys) (l : List (List String × Node)) :
    (⟨t.nodes ++ l⟩ : Tree).get? q = t.get? q := by
  obtain ⟨e, he, rfl⟩ := List.mem_map.mp hq
  have hsome : (t.nodes.find? (·.1 == e.1)).isSome := by
    rw [List.find?_isSome]
    exact ⟨e, he, by simp⟩
  obtain ⟨f, hf⟩ := Option.isSome_iff_exists.mp hsome
  simp only [get?, List.find?_append, hf, Option.some_or]

theorem mem_of_get? {p : List String} {n : Node} (hp : p ≠ []) (h : t.get? p = some n) :
    (p, n) ∈ t.nodes := by
  simp only [get?, hp, if_false, Option.map_eq_some_iff] at h
  obtain ⟨f, hf, rfl⟩ := h
  have hfp : f.1 = p := by simpa using List.find?_some hf
  rw [← hfp]
  exact List.mem_of_find?_eq_some hf

theorem get?_eq_none_iff {p : List String} (hp : p ≠ []) : t.get? p = none ↔ p ∉ t.keys := by
  simp only [get?, hp, if_false, Option.map_eq_none_iff, List.find?_eq_none, beq_iff_eq, keys,
    List.mem_map, not_exists, not_and]

end Get

/-! ## Growing a plain tree -/

theorem get?_append_of_get? {t : Tree} {q : List String} {n : Node} (hne : q ≠ [])
    (h : t.get? q = some n) (l : List (List String × Node)) :
    (⟨t.nodes ++ l⟩ : Tree).get? q = some n := by
  rw [get?_append_of_mem (List.mem_map.mpr ⟨_, mem_of_get? hne h, rfl⟩), h]

theorem sizeWithin_snoc (t : Tree) (p : List String) (e : List String × Node) :
    (⟨t.nodes ++ [e]⟩ : Tree).sizeWithin p = t.sizeWithin p + if within p e.1 then e.2.size else 0 := by
  simp [sizeWithin]

/-- A new node of real names in a directory keeps a tree plain. -/
theorem Plain.snoc {t : Tree} (hp : t.Plain) {q : List String} {n : Node} (hq : q ∉ t.keys)
    (hne : q ≠ []) (hreal : ∀ y ∈ q, RealName y)
    (hparent : q.dropLast = [] ∨ t.get? q.dropLast = some .dir)
    (hn : ∀ target, n ≠ .link target) : (⟨t.nodes ++ [(q, n)]⟩ : Tree).Plain where
  nodup := by
    have h := hp.nodup.concat hq
    rw [List.concat_eq_append] at h
    simpa [keys] using h
  real e he := by
    rcases List.mem_append.mp he with he | he
    · exact hp.real e he
    · rw [List.mem_singleton.mp he]
      exact ⟨hne, hreal⟩
  dirs e he k hk hkl := by
    have hne' : e.1.take k ≠ [] := take_ne_nil hk hkl.le
    rcases List.mem_append.mp he with he | he
    · exact get?_append_of_get? hne' (hp.dirs e he k hk hkl) _
    · -- a prefix of the new path is its parent or a prefix of it
      obtain rfl := List.mem_singleton.mp he
      have htake : q.take k = q.dropLast.take k := by
        rw [List.dropLast_eq_take, List.take_take, Nat.min_eq_left (by simp at hkl; omega)]
      have hdir : t.get? q.dropLast = some .dir := hparent.resolve_left fun hnil => by
        have := congrArg List.length hnil
        simp at this hkl
        omega
      refine get?_append_of_get? hne' ?_ _
      rw [htake] at hne' ⊢
      rcases Nat.lt_or_ge k q.dropLast.length with hlt | hge
      · have hmem := mem_of_get? (fun hnil => by simp [hnil] at hlt) hdir
        exact hp.dirs _ hmem k hk hlt
      · rwa [List.take_of_length_le hge]
  noLinks e he := by
    rcases List.mem_append.mp he with he | he
    · exact hp.noLinks e he
    · rw [List.mem_singleton.mp he]
      exact hn

/-! ## Walking real names -/

section Walk

variable (t : Tree) (mode : LastLink) (fuel links : Nat) (here : List String) {x : String}

/-- A real name last in a walk finds the node at it, when there is one and it is no link. -/
theorem walkFrom_last_node (hx : RealName x) {n : Node} (hn : t.get? (here ++ [x]) = some n)
    (hlink : ∀ target, n ≠ .link target) :
    t.walkFrom mode (fuel + 1) links here [x] = .ok (.node (here ++ [x]) n false) := by
  obtain ⟨h₁, h₂, h₃, h₄⟩ := hx
  simp only [walkFrom, List.all_nil, h₁, h₂, h₃, if_false, List.isEmpty_nil, Bool.not_true,
    List.append_nil]
  rw [if_neg (by omega), hn]
  cases n with
  | dir => rfl
  | file d => rfl
  | link target => exact absurd rfl (hlink target)

/-- A real name last in a walk, with nothing at it, is absent from the walk's directory. -/
theorem walkFrom_last_absent (hx : RealName x) (hn : t.get? (here ++ [x]) = none) :
    t.walkFrom mode (fuel + 1) links here [x] = .ok (.absent here x false) := by
  obtain ⟨h₁, h₂, h₃, h₄⟩ := hx
  simp only [walkFrom, List.all_nil, h₁, h₂, h₃, if_false, List.isEmpty_nil, Bool.not_true,
    List.append_nil]
  rw [if_neg (by omega), hn]
  rfl

section Inner

variable {rest : List String} (hrest : rest.all (· = "") = false)
include hrest

/-- A walk passes through a directory at a real name that is not its last. -/
theorem walkFrom_cons_dir (hx : RealName x) (hn : t.get? (here ++ [x]) = some .dir) :
    t.walkFrom mode (fuel + 1) links here (x :: rest) = t.walkFrom mode fuel links (here ++ [x]) rest := by
  obtain ⟨h₁, h₂, h₃, h₄⟩ := hx
  simp only [walkFrom, hrest, h₁, h₂, h₃, if_false, Bool.false_eq_true]
  rw [if_neg (by omega), hn]

/-- A walk fails at a missing real name that is not its last. -/
theorem walkFrom_cons_absent (hx : RealName x) (hn : t.get? (here ++ [x]) = none) :
    t.walkFrom mode (fuel + 1) links here (x :: rest) = .error .noEntry := by
  obtain ⟨h₁, h₂, h₃, h₄⟩ := hx
  simp only [walkFrom, hrest, h₁, h₂, h₃, if_false, Bool.false_eq_true]
  rw [if_neg (by omega), hn]

/-- A walk fails at a file named by a real name that is not its last. -/
theorem walkFrom_cons_file (hx : RealName x) {d : List UInt8}
    (hn : t.get? (here ++ [x]) = some (.file d)) :
    t.walkFrom mode (fuel + 1) links here (x :: rest) = .error .notDirectory := by
  obtain ⟨h₁, h₂, h₃, h₄⟩ := hx
  simp only [walkFrom, hrest, h₁, h₂, h₃, if_false, Bool.false_eq_true]
  rw [if_neg (by omega), hn]

end Inner

theorem all_empty_eq_false {rest : List String} (hreal : ∀ y ∈ rest, RealName y) (hne : rest ≠ []) :
    rest.all (· = "") = false := by
  obtain ⟨z, zs, rfl⟩ := List.exists_cons_of_ne_nil hne
  simp [(hreal z List.mem_cons_self).1]

/-- A walk passes through the directories its first names lead to. -/
theorem walkFrom_through_dirs {rest : List String} (hreal : ∀ y ∈ rest, RealName y) (m : Nat)
    (hm : m < rest.length)
    (hdirs : ∀ i, 0 < i → i ≤ m → t.get? (here ++ rest.take i) = some .dir) (hfuel : m ≤ fuel) :
    t.walkFrom mode fuel links here rest =
      t.walkFrom mode (fuel - m) links (here ++ rest.take m) (rest.drop m) := by
  induction m generalizing fuel here rest with
  | zero => simp
  | succ m ih =>
    obtain ⟨y, ys, rfl⟩ :=
      List.exists_cons_of_ne_nil (List.ne_nil_of_length_pos (show 0 < rest.length by omega))
    obtain ⟨fuel, rfl⟩ : ∃ f, fuel = f + 1 := ⟨fuel - 1, by omega⟩
    have hys : ∀ z ∈ ys, RealName z := fun z hz => hreal z (List.mem_cons_of_mem y hz)
    have hlen : m < ys.length := by simp at hm; omega
    have hdir : t.get? (here ++ [y]) = some .dir := by simpa using hdirs 1 (by omega) (by omega)
    rw [walkFrom_cons_dir t mode fuel links here
        (all_empty_eq_false hys (List.ne_nil_of_length_pos (show 0 < ys.length by omega)))
        (hreal y List.mem_cons_self)
        hdir,
      ih fuel (here ++ [y]) hys hlen
        (fun i hi hle => by simpa using hdirs (i + 1) (by omega) (by omega)) (by omega)]
    simp

/-- Walking real names through directories reaches the node at their end. -/
theorem walkFrom_to_node {rest : List String} {n : Node} (hreal : ∀ y ∈ rest, RealName y)
    (hdirs : ∀ i, 0 < i → i < rest.length → t.get? (here ++ rest.take i) = some .dir)
    (hnode : t.get? (here ++ rest) = some n) (hlink : ∀ target, n ≠ .link target)
    (hne : rest ≠ []) (hfuel : rest.length ≤ fuel) :
    t.walkFrom mode fuel links here rest = .ok (.node (here ++ rest) n false) := by
  obtain ⟨init, y, rfl⟩ : ∃ init y, rest = init ++ [y] :=
    ⟨rest.dropLast, rest.getLast hne, (List.dropLast_append_getLast hne).symm⟩
  simp only [List.length_append, List.length_singleton] at hfuel
  rw [walkFrom_through_dirs t mode fuel links here hreal init.length (by simp)
      (fun i hi hle => hdirs i hi (by simp; omega)) (by omega),
    List.take_left' rfl, List.drop_left' rfl]
  obtain ⟨f, hf⟩ : ∃ f, fuel - init.length = f + 1 := ⟨fuel - init.length - 1, by omega⟩
  rw [hf, ← List.append_assoc]
  exact walkFrom_last_node t mode f links (here ++ init) (hreal y (by simp))
    (by rwa [List.append_assoc]) hlink

end Walk

/-- A walk along real names through directories finds the node at their end. -/
theorem walk_of_dirs {t : Tree} {q : List String} {n : Node} (hreal : ∀ y ∈ q, RealName y)
    (hne : q ≠ []) (hfit : pathFits q = true)
    (hdirs : ∀ k, 0 < k → k < q.length → t.get? (q.take k) = some .dir)
    (hq : t.get? q = some n) (hlink : ∀ target, n ≠ .link target) (mode : LastLink) :
    t.walk q mode = .ok (.node q n false) := by
  unfold walk
  rw [if_neg (by simp [hfit])]
  simpa using walkFrom_to_node t mode _ maxLinks [] hreal (by simpa using hdirs) (by simpa using hq)
    hlink hne (by omega)

section Found

variable {t : Tree} (hp : t.Plain)
include hp

/-- In a plain tree, walking a node's path that fits a call finds the node. -/
theorem walk_of_mem {q : List String} {n : Node} (he : (q, n) ∈ t.nodes)
    (hfit : pathFits q = true) (mode : LastLink) : t.walk q mode = .ok (.node q n false) :=
  walk_of_dirs (hp.real _ he).2 (hp.real _ he).1 hfit (fun k hk hkl => hp.dirs _ he k hk hkl)
    (get?_of_mem hp he) (hp.noLinks _ he) mode

/-- A node's path that fits a call leads to the node. -/
theorem stat_of_mem {q : List String} {n : Node} (he : (q, n) ∈ t.nodes)
    (hfit : pathFits q = true) : t.stat q = .ok n := by
  unfold stat
  rw [walk_of_mem hp he hfit]
  cases n with
  | dir => rfl
  | file d => rfl
  | link target => exact absurd rfl (hp.noLinks _ he target)

/-- A directory whose path fits a call is one, the top included. -/
theorem stat_of_dir {p : List String} (hd : t.get? p = some .dir) (hfit : pathFits p = true) :
    t.stat p = .ok .dir := by
  rcases eq_or_ne p [] with rfl | hne
  · rfl
  · exact stat_of_mem hp (mem_of_get? hne hd) hfit

/-- A directory whose path fits a call lists its children. -/
theorem readDir_of_dir {p : List String} (hd : t.get? p = some .dir) (hfit : pathFits p = true) :
    t.readDir p = .ok (t.children p) := by
  unfold readDir
  rcases eq_or_ne p [] with rfl | hne
  · rfl
  · rw [walk_of_mem hp (mem_of_get? hne hd) hfit]

end Found

section TooLong

variable (t : Tree) {q : List String} (hfit : pathFits q = false)
include hfit

/-- A path too long for a call is refused before anything is looked at. -/
theorem walk_of_not_fits (mode : LastLink) : t.walk q mode = .error .nameTooLong := by
  unfold walk
  rw [if_pos (by simp [hfit])]

theorem stat_of_not_fits : t.stat q = .error .nameTooLong := by
  unfold stat
  rw [walk_of_not_fits t hfit]

theorem readDir_of_not_fits : t.readDir q = .error .nameTooLong := by
  unfold readDir
  rw [walk_of_not_fits t hfit]

end TooLong

theorem take_append_getElem {q : List String} {i : Nat} (hi : i < q.length) :
    q.take i ++ [q[i]] = q.take (i + 1) := by
  rw [List.take_add_one, List.getElem?_eq_getElem hi]
  rfl

theorem drop_all_empty_eq_false {q : List String} (hreal : ∀ y ∈ q, RealName y) {j : Nat}
    (hj : j + 1 < q.length) : (q.drop (j + 1)).all (· = "") = false :=
  all_empty_eq_false (fun y hy => hreal y (List.mem_of_mem_drop hy))
    (List.ne_nil_of_length_pos (by simp; omega))

section Blocked

variable (t : Tree) (mode : LastLink) {q : List String} (hreal : ∀ y ∈ q, RealName y)
  (hfit : pathFits q = true)
include hreal hfit

/-- A walk from the top through the directories at the first `i` names of its path goes on from
the `i`-th name. -/
theorem walk_from_prefix {i : Nat} (hi : i < q.length)
    (hdirs : ∀ k, 0 < k → k ≤ i → t.get? (q.take k) = some .dir) :
    ∃ fuel, t.walk q mode = t.walkFrom mode (fuel + 1) maxLinks (q.take i) (q[i] :: q.drop (i + 1)) := by
  unfold walk
  rw [if_neg (by simp [hfit]), walkFrom_through_dirs t mode _ maxLinks [] hreal i hi
    (by simpa using hdirs) (by omega), List.drop_eq_getElem_cons hi, List.nil_append]
  refine ⟨q.length + (maxLinks + 1) * (t.longestTarget + 1) - i, ?_⟩
  congr 1
  omega

/-- A walk whose path leads through directories to a missing last name ends absent there. -/
theorem walk_absent (hne : q ≠ []) (hdirs : ∀ k, 0 < k → k < q.length → t.get? (q.take k) = some .dir)
    (hq : t.get? q = none) : t.walk q mode = .ok (.absent q.dropLast (q.getLast hne) false) := by
  have hlen : q.length - 1 < q.length := by
    have := List.length_pos_of_ne_nil hne
    omega
  obtain ⟨fuel, hwalk⟩ := walk_from_prefix t mode hreal hfit hlen
    (fun k hk hle => hdirs k hk (by omega))
  have hlast : q.length - 1 + 1 = q.length := by
    have := List.length_pos_of_ne_nil hne
    omega
  rw [hwalk, List.drop_eq_nil_of_le (by omega), List.getLast_eq_getElem, List.dropLast_eq_take]
  refine walkFrom_last_absent t mode fuel maxLinks _ (hreal _ (List.getElem_mem _)) ?_
  rwa [take_append_getElem hlen, hlast, List.take_length]

section Inner

variable {j : Nat} (hj : j + 1 < q.length)
  (hdirs : ∀ k, 0 < k → k ≤ j → t.get? (q.take k) = some .dir)
include hj hdirs

/-- A walk whose path leads through directories to a missing name before its last fails. -/
theorem walk_noEntry (hmiss : t.get? (q.take (j + 1)) = none) :
    t.walk q mode = .error .noEntry := by
  obtain ⟨fuel, hwalk⟩ := walk_from_prefix t mode hreal hfit (by omega : j < q.length) hdirs
  rw [hwalk]
  refine walkFrom_cons_absent t mode fuel maxLinks _ (drop_all_empty_eq_false hreal hj)
    (hreal _ (List.getElem_mem _)) ?_
  rwa [take_append_getElem]

/-- A walk whose path leads through directories to a file before its last name fails. -/
theorem walk_notDirectory {d : List UInt8} (hfile : t.get? (q.take (j + 1)) = some (.file d)) :
    t.walk q mode = .error .notDirectory := by
  obtain ⟨fuel, hwalk⟩ := walk_from_prefix t mode hreal hfit (by omega : j < q.length) hdirs
  have hn : t.get? (q.take j ++ [q[j]]) = some (.file d) := by rwa [take_append_getElem]
  rw [hwalk]
  exact walkFrom_cons_file t mode fuel maxLinks _ (drop_all_empty_eq_false hreal hj)
    (hreal _ (List.getElem_mem _)) hn

end Inner

end Blocked

/-! ## Listing a directory -/

/-- A path is one name `c` below `p` exactly when it is `p ++ [c]`. -/
theorem child_eq_some_iff {p q : List String} {c : String} :
    (if q.length = p.length + 1 ∧ within p q = true then q.getLast? else none) = some c ↔
      q = p ++ [c] := by
  constructor
  · intro h
    split_ifs at h with hq
    obtain ⟨s, rfl⟩ := within_iff.mp hq.2
    obtain ⟨d, rfl⟩ : ∃ d, s = [d] := List.length_eq_one_iff.mp (by simpa using hq.1)
    simpa using h
  · rintro rfl
    rw [if_pos ⟨by simp, within_iff.mpr (List.prefix_append _ _)⟩, List.getLast?_concat]

theorem mem_children {t : Tree} {p : List String} {c : String} :
    c ∈ t.children p ↔ p ++ [c] ∈ t.keys := by
  unfold children keys
  rw [List.mem_mergeSort, List.mem_filterMap, List.mem_map]
  constructor
  · rintro ⟨⟨q, n⟩, he, h⟩
    exact ⟨(q, n), he, child_eq_some_iff.mp h⟩
  · rintro ⟨⟨q, n⟩, he, rfl⟩
    exact ⟨(p ++ [c], n), he, child_eq_some_iff.mpr rfl⟩

theorem nodup_children {t : Tree} (hnd : t.keys.Nodup) (p : List String) : (t.children p).Nodup := by
  unfold children
  rw [(List.mergeSort_perm _ _).nodup_iff]
  -- one name below `p` comes from one path only
  have h := hnd.filterMap (f := fun q =>
    if q.length = p.length + 1 ∧ within p q = true then q.getLast? else none)
    fun q q' c hc hc' => by rw [child_eq_some_iff.mp hc, child_eq_some_iff.mp hc']
  rw [keys, List.filterMap_map] at h
  exact h

/-- A node below a directory lies in one of the directory's entries. -/
theorem mem_children_of_mem_keys {t : Tree} (hp : t.Plain) {p r : List String} {c : String}
    (hq : p ++ c :: r ∈ t.keys) : c ∈ t.children p := by
  rw [mem_children]
  rcases eq_or_ne r [] with rfl | hr
  · exact hq
  · -- the entry is a directory on the way to the node
    obtain ⟨e, he, hek⟩ := List.mem_map.mp hq
    have htake : e.1.take (p.length + 1) = p ++ [c] := by
      rw [hek]
      simp [List.take_append]
    have hlen : p.length + 1 < e.1.length := by
      have := List.length_pos_of_ne_nil hr
      rw [hek]
      simp
      omega
    have hdir := hp.dirs e he (p.length + 1) (by omega) hlen
    rw [htake] at hdir
    exact List.mem_map.mpr ⟨_, mem_of_get? (by simp) hdir, rfl⟩

/-! ## The size of a directory -/

/-- Sums over two lists may be taken in either order. -/
theorem sum_map_sum_map_comm {α β : Type} (l₁ : List α) (l₂ : List β) (f : α → β → Nat) :
    (l₁.map fun a => (l₂.map fun b => f a b).sum).sum =
      (l₂.map fun b => (l₁.map fun a => f a b).sum).sum := by
  simpa [Multiset.map_coe, Multiset.sum_coe] using
    @Multiset.sum_map_sum_map α β Nat _ l₁ l₂ f

theorem within_of_within_append {p q : List String} {c : String} (h : within (p ++ [c]) q = true) :
    within p q = true :=
  within_iff.mpr ((List.prefix_append p [c]).trans (within_iff.mp h))

theorem fitsWithin_iff {t : Tree} {p : List String} :
    t.fitsWithin p = true ↔ ∀ q ∈ t.keys, within p q = true → pathFits q = true := by
  simp [fitsWithin, List.all_eq_true, Bool.or_eq_true, imp_iff_not_or]

/-- Everything below a directory that fits fits below each of its entries. -/
theorem fitsWithin_append {t : Tree} {p : List String} (hw : t.fitsWithin p = true) (c : String) :
    t.fitsWithin (p ++ [c]) = true :=
  fitsWithin_iff.mpr fun q hq hwq => fitsWithin_iff.mp hw q hq (within_of_within_append hwq)

section Size

variable {t : Tree} (hp : t.Plain)
include hp

/-- A node below a directory lies below exactly one of the directory's entries. -/
theorem sum_children_weight {p : List String} (hd : t.get? p = some .dir)
    {e : List String × Node} (he : e ∈ t.nodes) :
    ((t.children p).map fun c => if within (p ++ [c]) e.1 then e.2.size else 0).sum =
      if within p e.1 then e.2.size else 0 := by
  by_cases hw : within p e.1 = true
  · obtain ⟨s, hs⟩ := within_iff.mp hw
    rw [if_pos hw]
    cases s with
    | nil =>
      -- the node is the directory itself, of size zero
      have hdir : e.2 = .dir := by
        have := get?_of_mem hp he
        rw [← hs, List.append_nil, hd] at this
        exact (Option.some.inj this).symm
      simp [hdir, Node.size]
    | cons c₀ r =>
      -- the entry the node lies in is `c₀`, which the directory lists
      have hc₀ : c₀ ∈ t.children p :=
        mem_children_of_mem_keys hp (hs ▸ List.mem_map_of_mem (f := Prod.fst) he)
      have honly : ∀ c, within (p ++ [c]) e.1 = true ↔ c = c₀ := fun c => by
        rw [within_iff, ← hs, List.prefix_append_right_inj, List.cons_prefix_cons]
        simp
      rw [List.sum_map_eq_nsmul_single c₀ _ fun c hc _ => by rw [if_neg ((honly c).not.mpr hc)],
        List.count_eq_one_of_mem (nodup_children hp.nodup p) hc₀,
        if_pos ((honly c₀).mpr rfl), one_smul]
  · -- nothing outside the directory lies below one of its entries
    rw [if_neg hw, List.sum_eq_zero]
    intro x hx
    obtain ⟨c, -, rfl⟩ := List.mem_map.mp hx
    rw [if_neg fun hc => hw (within_of_within_append hc)]

/-- The size of a directory is the sum of the sizes of its entries. -/
theorem sizeWithin_eq_sum_children {p : List String} (hd : t.get? p = some .dir) :
    t.sizeWithin p = ((t.children p).map fun c => t.sizeWithin (p ++ [c])).sum := by
  unfold sizeWithin
  rw [sum_map_sum_map_comm]
  exact congrArg List.sum (List.map_congr_left fun e he => (sum_children_weight hp hd he).symm)

/-- Only a directory has nodes below it: a path at or below one that is not a directory is that
path. -/
theorem eq_of_within_not_dir {q : List String} {n : Node} (he : (q, n) ∈ t.nodes)
    (hn : n ≠ .dir) {r : List String} (hr : r ∈ t.keys) (hw : within q r = true) : r = q := by
  obtain ⟨s, hs⟩ := within_iff.mp hw
  cases s with
  | nil => simpa using hs.symm
  | cons c rest =>
    -- a node below `q` would make `q` a directory
    obtain ⟨e', he', rfl⟩ := List.mem_map.mp hr
    have hdir := hp.dirs e' he' q.length (List.length_pos_of_ne_nil (hp.real _ he).1)
      (by rw [← hs]; simp)
    rw [← hs, List.take_left' rfl, get?_of_mem hp he] at hdir
    exact absurd (Option.some.inj hdir) hn

/-- The size at a node that is not a directory is the node's own. -/
theorem sizeWithin_of_not_dir {q : List String} {n : Node} (he : (q, n) ∈ t.nodes)
    (hn : n ≠ .dir) : t.sizeWithin q = n.size := by
  have hnodup : t.nodes.Nodup := List.Nodup.of_map _ hp.nodup
  have hothers : ∀ e ∈ t.nodes, e ≠ (q, n) → (if within q e.1 then e.2.size else 0) = 0 := by
    intro e he' hne
    rw [if_neg fun hw => hne (List.inj_on_of_nodup_map hp.nodup he' he
      (eq_of_within_not_dir hp he hn (List.mem_map_of_mem he') hw))]
  unfold sizeWithin
  rw [List.sum_map_eq_nsmul_single (q, n) _ fun e hne he' => hothers e he' hne,
    @List.count_eq_one_of_mem _ instBEqOfDecidableEq _ (q, n) t.nodes hnodup he]
  simp [within_iff]

/-- A path too long below a directory whose own path fits lies in one of its entries. -/
theorem exists_child_not_fitsWithin {p : List String} (hfit : pathFits p = true)
    (hw : t.fitsWithin p = false) : ∃ c ∈ t.children p, t.fitsWithin (p ++ [c]) = false := by
  have hbad : ¬∀ q ∈ t.keys, within p q = true → pathFits q = true := by
    rw [← fitsWithin_iff, hw]
    simp
  simp only [not_forall, Bool.not_eq_true, exists_prop] at hbad
  obtain ⟨q, hq, hwq, hq'⟩ := hbad
  obtain ⟨s, rfl⟩ := within_iff.mp hwq
  cases s with
  | nil => simp [hfit] at hq'
  | cons c r =>
    refine ⟨c, mem_children_of_mem_keys hp hq, ?_⟩
    rw [← Bool.not_eq_true, fitsWithin_iff]
    intro h
    rw [h _ hq (within_iff.mpr (by simp))] at hq'
    exact Bool.noConfusion hq'

/-- Each name of a node's path adds a node on the way, so no path has more names than the tree
has nodes. -/
theorem length_le_of_mem_keys {q : List String} (hq : q ∈ t.keys) : q.length ≤ t.nodes.length := by
  obtain ⟨e, he, rfl⟩ := List.mem_map.mp hq
  -- the nonempty prefixes of the path are distinct paths of the tree
  have hnodup : ((List.range e.1.length).map fun i => e.1.take (i + 1)).Nodup := by
    refine List.nodup_range.map_on fun i hi j hj hij => ?_
    have := congrArg List.length hij
    simp only [List.mem_range, List.length_take] at hi hj this
    omega
  have hsub : ((List.range e.1.length).map fun i => e.1.take (i + 1)) ⊆ t.keys := by
    intro r hr
    obtain ⟨i, hi, rfl⟩ := List.mem_map.mp hr
    rw [List.mem_range] at hi
    rcases Nat.lt_or_ge (i + 1) e.1.length with hlt | hge
    · have hdir := hp.dirs e he (i + 1) (by omega) hlt
      have hne : e.1.take (i + 1) ≠ [] := by simp [(hp.real e he).1]
      exact List.mem_map.mpr ⟨_, mem_of_get? hne hdir, rfl⟩
    · rw [List.take_of_length_le hge]
      exact hq
  simpa [keys] using hnodup.length_le_of_subset hsub

end Size

/-! ## Making the directories on a path -/

/-- The tree with a directory added at each nonempty prefix of `names` that it lacks, shortest
first. -/
def withDirs (t : Tree) (names : List String) : Tree :=
  ⟨t.nodes ++ (List.range names.length).filterMap fun i =>
    if names.take (i + 1) ∈ t.keys then none else some (names.take (i + 1), .dir)⟩

section WithDirs

variable {t : Tree} {names q : List String}

theorem find?_eq_none_of_not_mem_keys (hq : q ∉ t.keys) : t.nodes.find? (·.1 == q) = none :=
  List.find?_eq_none.mpr fun e he h => hq (List.mem_map.mpr ⟨e, he, by simpa using h⟩)

/-- A path the tree has keeps its node. -/
theorem get?_withDirs_of_mem (hq : q ∈ t.keys) : (t.withDirs names).get? q = t.get? q :=
  get?_append_of_mem hq _

/-- A prefix of `names` the tree lacks is made a directory. -/
theorem get?_withDirs_prefix {k : Nat} (hk : 0 < k) (hkl : k ≤ names.length)
    (hq : names.take k ∉ t.keys) : (t.withDirs names).get? (names.take k) = some .dir := by
  have hne : names.take k ≠ [] := take_ne_nil hk hkl
  have hmem : (names.take k, Node.dir) ∈ (List.range names.length).filterMap fun i =>
      if names.take (i + 1) ∈ t.keys then none else some (names.take (i + 1), .dir) := by
    rw [List.mem_filterMap]
    refine ⟨k - 1, List.mem_range.mpr (by omega), ?_⟩
    rw [Nat.sub_add_cancel hk, if_neg hq]
  obtain ⟨f, hf⟩ := Option.isSome_iff_exists.mp
    (List.find?_isSome.mpr ⟨_, hmem, by simp⟩ : (List.find? (·.1 == names.take k) _).isSome)
  -- every node added is a directory
  obtain ⟨i, -, hi⟩ := List.mem_filterMap.mp (List.mem_of_find?_eq_some hf)
  split_ifs at hi
  simp only [get?, hne, if_false, withDirs, List.find?_append, find?_eq_none_of_not_mem_keys hq,
    Option.none_or, hf, ← hi, Option.map_some]

/-- A prefix of `names` that the tree has as a directory, or lacks, is a directory once the
directories on `names` are made. -/
theorem get?_withDirs_of_dir_or_none {k : Nat} (hk : 0 < k) (hkl : k ≤ names.length)
    (h : t.get? (names.take k) = some .dir ∨ t.get? (names.take k) = none) :
    (t.withDirs names).get? (names.take k) = some .dir := by
  by_cases hmem : names.take k ∈ t.keys
  · rw [get?_withDirs_of_mem hmem]
    exact h.resolve_right fun hnone => (get?_eq_none_iff (take_ne_nil hk hkl)).mp hnone hmem
  · exact get?_withDirs_prefix hk hkl hmem

/-- A path the tree lacks that is no prefix of `names` stays missing. -/
theorem get?_withDirs_other (hne : q ≠ []) (hq : q ∉ t.keys)
    (hnot : ∀ k, 0 < k → k ≤ names.length → names.take k ≠ q) : (t.withDirs names).get? q = none := by
  have hnew : List.find? (·.1 == q) ((List.range names.length).filterMap fun i =>
      if names.take (i + 1) ∈ t.keys then none else some (names.take (i + 1), Node.dir)) = none := by
    refine List.find?_eq_none.mpr fun e he h => ?_
    obtain ⟨i, hi, he'⟩ := List.mem_filterMap.mp he
    split_ifs at he'
    rw [← Option.some.inj he'] at h
    exact hnot (i + 1) (by omega) (by simpa using List.mem_range.mp hi) (by simpa using h)
  simp only [get?, hne, if_false, withDirs, List.find?_append, find?_eq_none_of_not_mem_keys hq,
    Option.none_or, hnew, Option.map_none]

/-- Adding a node at a path the tree lacks puts it last. -/
theorem put_of_not_mem {p : List String} (hq : p ∉ t.keys) (n : Node) :
    t.put p n = ⟨t.nodes ++ [(p, n)]⟩ := by
  have hany : t.nodes.any (·.1 == p) = false := by
    rw [List.any_eq_false]
    intro e he h
    exact hq (List.mem_map.mpr ⟨e, he, by simpa using h⟩)
  simp only [put, hany, Bool.false_eq_true, if_false]

theorem not_mem_keys_withDirs_of_length (hq : q ∉ t.keys) (hlen : names.length < q.length) :
    q ∉ (t.withDirs names).keys := by
  intro hmem
  obtain ⟨e, he, rfl⟩ := List.mem_map.mp hmem
  simp only [withDirs] at he
  rcases List.mem_append.mp he with he | he
  · exact hq (List.mem_map_of_mem he)
  · obtain ⟨i, -, hi⟩ := List.mem_filterMap.mp he
    split_ifs at hi
    rw [← Option.some.inj hi] at hlen
    simp at hlen

/-- When every shorter prefix of `names` is there, only `names` is made. -/
theorem withDirs_of_prefixes (hne : names ≠ [])
    (hall : ∀ k, 0 < k → k < names.length → names.take k ∈ t.keys) (hq : names ∉ t.keys) :
    t.withDirs names = ⟨t.nodes ++ [(names, .dir)]⟩ := by
  obtain ⟨m, hm⟩ : ∃ m, names.length = m + 1 :=
    ⟨names.length - 1, by have := List.length_pos_of_ne_nil hne; omega⟩
  have hshort : ((List.range m).filterMap fun i =>
      if names.take (i + 1) ∈ t.keys then none else some (names.take (i + 1), Node.dir)) = [] := by
    rw [List.filterMap_eq_nil_iff]
    intro i hi
    rw [if_pos (hall (i + 1) (by omega) (by rw [List.mem_range] at hi; omega))]
  have hlast : names.take (m + 1) = names := List.take_of_length_le (by omega)
  simp only [withDirs, hm, List.range_succ, List.filterMap_append, hshort, List.nil_append,
    List.filterMap_cons, List.filterMap_nil, hlast, if_neg hq]

/-- Making the directories on `names` is making those on its parent, then `names`. -/
theorem withDirs_dropLast_put (hne : names ≠ []) (hq : names ∉ t.keys) :
    (t.withDirs names.dropLast).put names .dir = t.withDirs names := by
  obtain ⟨m, hm⟩ : ∃ m, names.length = m + 1 :=
    ⟨names.length - 1, by have := List.length_pos_of_ne_nil hne; omega⟩
  rw [put_of_not_mem (not_mem_keys_withDirs_of_length hq (by simp; omega))]
  have hparent : ((List.range names.dropLast.length).filterMap fun i =>
      if names.dropLast.take (i + 1) ∈ t.keys then none
      else some (names.dropLast.take (i + 1), Node.dir)) =
      (List.range m).filterMap fun i =>
        if names.take (i + 1) ∈ t.keys then none else some (names.take (i + 1), Node.dir) := by
    rw [List.length_dropLast, hm, Nat.add_sub_cancel]
    refine List.filterMap_congr fun i hi => ?_
    rw [List.mem_range] at hi
    rw [List.dropLast_eq_take, List.take_take, Nat.min_eq_left (by omega)]
  have hlast : names.take (m + 1) = names := List.take_of_length_le (by omega)
  simp only [withDirs, hparent, hm, List.range_succ, List.filterMap_append, List.append_assoc,
    List.filterMap_cons, List.filterMap_nil, hlast, if_neg hq]

end WithDirs

/-- A prefix of a path that fits a call fits too. -/
theorem pathFits_take {names : List String} (h : pathFits names = true) (k : Nat) :
    pathFits (names.take k) = true := by
  have hsum : ((names.take k).map Text.utf8Length).sum ≤ (names.map Text.utf8Length).sum := by
    rw [List.map_take]
    exact (List.take_sublist _ _).sum_le_sum (fun _ _ => Nat.zero_le _)
  have hlen : (names.take k).length ≤ names.length := List.length_take_le' _ _
  simp only [pathFits, pathBytes] at h ⊢
  have h' := of_decide_eq_true h
  exact decide_eq_true (by omega)

/-- A path of real names has no empty name or `.` at its end to drop. -/
theorem dropDots_of_real {names : List String} (hreal : ∀ y ∈ names, RealName y) :
    dropDots names = names := by
  unfold dropDots
  cases hr : names.reverse with
  | nil => simp [List.reverse_eq_nil_iff.mp hr]
  | cons y ys =>
    have hy : RealName y := hreal y (List.mem_reverse.mp (hr ▸ List.mem_cons_self))
    rw [List.dropWhile_cons_of_neg (by simp [hy.1, hy.2.1]), ← hr, List.reverse_reverse]

theorem parentNames_of_real {names : List String} (hreal : ∀ y ∈ names, RealName y) :
    parentNames names = names.dropLast := by
  rw [parentNames, dropDots_of_real hreal,
    dropDots_of_real fun y hy => hreal y (List.mem_of_mem_dropLast hy)]

section Way

variable {t : Tree} (hp : t.Plain) {names : List String}
include hp

/-- In a plain tree, a path missing at one prefix is missing at every longer one. -/
theorem get?_take_eq_none {k k' : Nat} (hle : k ≤ k') (hk' : k' ≤ names.length)
    (h : t.get? (names.take k) = none) : t.get? (names.take k') = none := by
  rcases Nat.eq_or_lt_of_le hle with rfl | hlt
  · exact h
  have hne : names.take k ≠ [] := fun hnil => by simp [get?, hnil] at h
  have hk : 0 < k := Nat.pos_of_ne_zero fun h0 => hne (by simp [h0])
  cases hn : t.get? (names.take k') with
  | none => rfl
  | some n =>
    -- a node at the longer prefix would make the shorter one a directory
    have hmem := mem_of_get? (take_ne_nil (by omega) hk') hn
    have hdir := hp.dirs _ hmem k hk (by simp; omega)
    rw [List.take_take, Nat.min_eq_left hle, h] at hdir
    exact absurd hdir (by simp)

/-- In a plain tree, a prefix on the way that holds no file is a directory or missing. -/
theorem get?_dir_or_none (hway : ∀ k, 0 < k → k < names.length → ∀ d,
      t.get? (names.take k) ≠ some (.file d)) {k : Nat} (hk : 0 < k) (hkl : k < names.length) :
    t.get? (names.take k) = some .dir ∨ t.get? (names.take k) = none := by
  cases hn : t.get? (names.take k) with
  | none => exact .inr rfl
  | some n =>
    have hmem := mem_of_get? (take_ne_nil hk hkl.le) hn
    cases n with
    | dir => exact .inl rfl
    | file d => exact absurd hn (hway k hk hkl d)
    | link target => exact absurd rfl (hp.noLinks _ hmem target)

end Way

section Mkdir

variable {t : Tree} {names : List String} (hreal : ∀ y ∈ names, RealName y)
  (hfit : pathFits names = true)
include hreal hfit

/-- Making a directory whose parent is there puts it last in the tree. -/
theorem mkdir_of_parent (hne : names ≠ [])
    (hall : ∀ k, 0 < k → k < names.length → t.get? (names.take k) = some .dir)
    (hq : t.get? names = none) : t.mkdir names = .ok (t.put names .dir) := by
  unfold mkdir
  rw [walk_absent t .keep hreal hfit hne hall hq]
  show Except.ok (t.put (names.dropLast ++ [names.getLast hne]) .dir) = _
  rw [List.dropLast_append_getLast]

/-- A walk stops at the first prefix on the way that is not a directory, when that prefix is
missing. -/
theorem walk_of_gap (hp : t.Plain)
    (hway : ∀ k, 0 < k → k < names.length → ∀ d, t.get? (names.take k) ≠ some (.file d))
    (hall : ¬∀ k, 0 < k → k < names.length → t.get? (names.take k) = some .dir) (mode : LastLink) :
    t.walk names mode = .error .noEntry := by
  have hex : ∃ k, 0 < k ∧ k < names.length ∧ t.get? (names.take k) ≠ some .dir := by
    simp only [not_forall] at hall
    obtain ⟨k, hk, hkl, hkd⟩ := hall
    exact ⟨k, hk, hkl, hkd⟩
  -- the first prefix that is not a directory is missing
  obtain ⟨hj0, hjl, hjd⟩ := Nat.find_spec hex
  have hmin : ∀ k, 0 < k → k ≤ Nat.find hex - 1 → t.get? (names.take k) = some .dir :=
    fun k hk hkj => by
      by_contra hc
      exact Nat.find_min hex (by omega : k < Nat.find hex) ⟨hk, by omega, hc⟩
  have hmiss : t.get? (names.take (Nat.find hex - 1 + 1)) = none := by
    rw [Nat.sub_add_cancel hj0]
    exact (get?_dir_or_none hp hway hj0 hjl).resolve_left hjd
  exact walk_noEntry t mode hreal hfit (by omega) hmin hmiss

/-- Making a directory fails while a prefix on the way is missing. -/
theorem mkdir_of_gap (hp : t.Plain)
    (hway : ∀ k, 0 < k → k < names.length → ∀ d, t.get? (names.take k) ≠ some (.file d))
    (hall : ¬∀ k, 0 < k → k < names.length → t.get? (names.take k) = some .dir) :
    t.mkdir names = .error .noEntry := by
  unfold mkdir
  rw [walk_of_gap hreal hfit hp hway hall]

/-- A missing path with no file on the way is no entry, whether its parent is there or not. -/
theorem stat_of_missing (hp : t.Plain) (hne : names ≠ [])
    (hway : ∀ k, 0 < k → k < names.length → ∀ d, t.get? (names.take k) ≠ some (.file d))
    (hq : t.get? names = none) : t.stat names = .error .noEntry := by
  unfold stat
  by_cases hall : ∀ k, 0 < k → k < names.length → t.get? (names.take k) = some .dir
  · rw [walk_absent t .follow hreal hfit hne hall hq]
  · rw [walk_of_gap hreal hfit hp hway hall]

/-- A file on the way to a path makes it no directory. -/
theorem stat_of_file_on_way (hp : t.Plain) {k : Nat} (hk : 0 < k) (hkl : k < names.length)
    {d : List UInt8} (hfile : t.get? (names.take k) = some (.file d)) :
    t.stat names = .error .notDirectory := by
  -- the file's node has directories on its own way, and they are the path's first prefixes
  have hmem := mem_of_get? (take_ne_nil hk hkl.le) hfile
  have hdirs : ∀ i, 0 < i → i ≤ k - 1 → t.get? (names.take i) = some .dir := fun i hi hik => by
    have h := hp.dirs _ hmem i hi (by simp; omega)
    rwa [List.take_take, Nat.min_eq_left (by omega)] at h
  unfold stat
  rw [walk_notDirectory t .follow hreal hfit (by omega) hdirs (by rwa [Nat.sub_add_cancel hk])]

end Mkdir

end Tree

/-! ## Runs on a tree -/

/-- Run on `t`, `x` answers `r` and leaves the tree `t'`. -/
def Runs {α : Type} (x : DiskM α) (t : Tree) (r : Except Errno α) (t' : Tree) : Prop :=
  x.run.run t = (r, t')

namespace Runs

variable {α β : Type} {t t₁ t₂ : Tree}

theorem pure (v : α) : Runs (Pure.pure v : DiskM α) t (.ok v) t := rfl

theorem bind {x : DiskM α} {f : α → DiskM β} {a : α} {r : Except Errno β}
    (hx : Runs x t (.ok a) t₁) (hf : Runs (f a) t₁ r t₂) : Runs (x >>= f) t r t₂ := by
  unfold Runs at *
  simp only [ExceptT.run_bind, StateT.run_bind, hx]
  exact hf

theorem bind_error {x : DiskM α} {e : Errno} (hx : Runs x t (.error e) t₁) (f : α → DiskM β) :
    Runs (x >>= f) t (.error e) t₁ := by
  unfold Runs at *
  simp only [ExceptT.run_bind, StateT.run_bind, hx]
  rfl

theorem get : Runs (MonadState.get : DiskM Tree) t (.ok t) t := rfl

theorem set (t' : Tree) : Runs (MonadState.set t' : DiskM PUnit) t (.ok ()) t' := rfl

theorem tryCatch_ok {x : DiskM α} {a : α} (hx : Runs x t (.ok a) t₁) (h : Errno → DiskM α) :
    Runs (tryCatch x h) t (.ok a) t₁ := by
  unfold Runs at *
  show (ExceptT.tryCatch x h).run.run t = _
  simp only [ExceptT.tryCatch, ExceptT.run_mk, StateT.run_bind]
  rw [show StateT.run x t = (Except.ok a, t₁) from hx]
  rfl

end Runs

/-! ## Computations that only read the tree -/

/-- Run on `t`, `x` answers `r` and leaves the tree as it is. -/
def Reads {α : Type} (x : DiskM α) (t : Tree) (r : Except Errno α) : Prop := Runs x t r t

namespace Reads

variable {α β : Type} {t : Tree}

theorem pure (v : α) : Reads (Pure.pure v : DiskM α) t (.ok v) := Runs.pure v

theorem bind {x : DiskM α} {f : α → DiskM β} {a : α} {r : Except Errno β}
    (hx : Reads x t (.ok a)) (hf : Reads (f a) t r) : Reads (x >>= f) t r := Runs.bind hx hf

theorem bind_error {x : DiskM α} {e : Errno} (hx : Reads x t (.error e)) (f : α → DiskM β) :
    Reads (x >>= f) t (.error e) := Runs.bind_error hx f

theorem query {f : Tree → Except Errno α} {r : Except Errno α} (h : f t = r) :
    Reads (Disk.query f) t r := by
  unfold Reads Disk.query
  refine Runs.bind Runs.get ?_
  simp only [h]
  cases r with
  | ok v => exact Runs.pure v
  | error e => rfl

/-- A fold whose every step only reads adds up what the steps add. -/
theorem foldlM {g : Nat → String → DiskM Nat} {v : String → Nat} {l : List String}
    (h : ∀ c ∈ l, ∀ total, Reads (g total c) t (.ok (total + v c))) (init : Nat) :
    Reads (l.foldlM g init) t (.ok (init + (l.map v).sum)) := by
  induction l generalizing init with
  | nil => exact pure init
  | cons c l ih =>
    rw [List.foldlM_cons, List.map_cons, List.sum_cons, ← Nat.add_assoc]
    exact bind (h c List.mem_cons_self init)
      (ih (fun c' hc' => h c' (List.mem_cons_of_mem c hc')) (init + v c))

/-- A fold fails at its first step that fails. -/
theorem foldlM_error {g : Nat → String → DiskM Nat} (v : String → Nat) {l₁ l₂ : List String}
    {c : String} {e : Errno} (h₁ : ∀ c ∈ l₁, ∀ total, Reads (g total c) t (.ok (total + v c)))
    (hc : ∀ total, Reads (g total c) t (.error e)) (init : Nat) :
    Reads ((l₁ ++ c :: l₂).foldlM g init) t (.error e) := by
  rw [List.foldlM_append]
  refine bind (foldlM h₁ init) ?_
  rw [List.foldlM_cons]
  exact bind_error (hc _) _

end Reads

/-- The depth a volume allows is never zero: measuring takes at least one step. -/
theorem measureDepth_eq_succ (t : Tree) : measureDepth t = (measureDepth t - 1) + 1 := by
  simp only [measureDepth, maxLinks]
  omega

section Measure

variable {t : Tree} (hp : t.Plain)
include hp

/-- What measuring a directory answers: its size when every path below it fits a call, and
otherwise the refusal of a path too long. -/
def sizeAnswer (t : Tree) (p : List String) : Except Errno Nat :=
  if t.fitsWithin p then .ok (t.sizeWithin p) else .error .nameTooLong

/-- Measuring one entry of a directory: the size at it, or the refusal of a path too long. -/
theorem entry_reads {p : List String} {c : String} (hc : c ∈ t.children p) {k : Nat}
    (hsub : t.get? (p ++ [c]) = some .dir → Reads (directorySize k (p ++ [c])) t
      (sizeAnswer t (p ++ [c]))) (total : Nat) :
    Reads (do
      let node ← Disk.query fun t => t.stat (p ++ [c])
      match node with
      | .dir => Pure.pure (total + (← directorySize k (p ++ [c])))
      | n => Pure.pure (total + n.size)) t
      ((sizeAnswer t (p ++ [c])).map (total + ·)) := by
  obtain ⟨⟨q, n⟩, hn, hq⟩ := List.mem_map.mp (Tree.mem_children.mp hc)
  obtain rfl : q = p ++ [c] := hq
  by_cases hfit : pathFits (p ++ [c]) = true
  · refine Reads.bind (Reads.query (Tree.stat_of_mem hp hn hfit)) ?_
    cases n with
    | dir =>
      have h := hsub (Tree.get?_of_mem hp hn)
      unfold sizeAnswer at h ⊢
      by_cases hw : t.fitsWithin (p ++ [c]) = true
      · rw [if_pos hw] at h ⊢
        exact Reads.bind h (Reads.pure _)
      · rw [if_neg hw] at h ⊢
        exact Reads.bind_error h _
    | file d =>
      -- a file holds nothing below it, so its path is the only one to fit
      have hw : t.fitsWithin (p ++ [c]) = true := Tree.fitsWithin_iff.mpr fun r hr hwr => by
        rw [Tree.eq_of_within_not_dir hp hn Node.noConfusion hr hwr]
        exact hfit
      rw [sizeAnswer, if_pos hw, Tree.sizeWithin_of_not_dir hp hn Node.noConfusion]
      exact Reads.pure _
    | link target => exact absurd rfl (hp.noLinks _ hn target)
  · have hw : t.fitsWithin (p ++ [c]) = false := by
      rw [← Bool.not_eq_true, Tree.fitsWithin_iff]
      exact fun h => hfit (h _ (List.mem_map_of_mem hn) (Tree.within_iff.mpr (List.prefix_refl _)))
    rw [sizeAnswer, if_neg (by simp [hw])]
    refine Reads.bind_error ?_ _
    exact Reads.query (Tree.stat_of_not_fits t (Bool.eq_false_iff.mpr hfit))

/-- One level of measuring: a directory's entries are measured in the order it lists them, a
subdirectory by measuring it. -/
theorem directorySize_succ {p : List String} (hd : t.get? p = some .dir) {k : Nat}
    (hsub : ∀ c ∈ t.children p, t.get? (p ++ [c]) = some .dir →
      Reads (directorySize k (p ++ [c])) t (sizeAnswer t (p ++ [c]))) :
    Reads (directorySize (k + 1) p) t (sizeAnswer t p) := by
  rw [directorySize]
  by_cases hfit : pathFits p = true
  · refine Reads.bind (Reads.query (Tree.readDir_of_dir hp hd hfit)) ?_
    by_cases hw : t.fitsWithin p = true
    · -- every entry reads its size
      rw [sizeAnswer, if_pos hw, Tree.sizeWithin_eq_sum_children hp hd, ← Nat.zero_add (List.sum _)]
      refine Reads.foldlM (fun c hc total => ?_) 0
      have h := entry_reads hp hc (hsub c hc) total
      rwa [sizeAnswer, if_pos (Tree.fitsWithin_append hw c)] at h
    · -- the first entry holding a path too long fails, after the entries before it read
      have hbad : ∃ c ∈ t.children p, t.fitsWithin (p ++ [c]) = false :=
        Tree.exists_child_not_fitsWithin hp hfit (Bool.eq_false_iff.mpr hw)
      let fits : String → Bool := fun c => t.fitsWithin (p ++ [c])
      have hne : (t.children p).dropWhile fits ≠ [] := by
        rw [Ne, List.dropWhile_eq_nil_iff]
        obtain ⟨c, hc, hc'⟩ := hbad
        exact fun h => absurd (h c hc) (by simp [fits, hc'])
      obtain ⟨c, l₂, hdrop⟩ := List.exists_cons_of_ne_nil hne
      have hc : fits c = false := by
        simpa [hdrop] using List.head_dropWhile_not fits hne
      have hmem : c ∈ t.children p :=
        (List.dropWhile_suffix fits).subset (hdrop ▸ List.mem_cons_self)
      have hsplit : t.children p = (t.children p).takeWhile fits ++ c :: l₂ := by
        rw [← hdrop, List.takeWhile_append_dropWhile]
      rw [sizeAnswer, if_neg hw, hsplit]
      refine Reads.foldlM_error (fun c => t.sizeWithin (p ++ [c])) (fun c' hc' total => ?_)
        (fun total => ?_) 0
      · have hgood : fits c' = true := List.mem_takeWhile_imp hc'
        have hmem' : c' ∈ t.children p := (List.takeWhile_sublist fits).subset hc'
        have h := entry_reads hp hmem' (hsub c' hmem') total
        rwa [sizeAnswer, if_pos hgood] at h
      · have h := entry_reads hp hmem (hsub c hmem) total
        rwa [sizeAnswer, if_neg (by simpa [fits] using hc)] at h
  · -- the directory's own path is too long, so listing it fails
    have hw : t.fitsWithin p = false := by
      rw [← Bool.not_eq_true, Tree.fitsWithin_iff]
      intro h
      rcases eq_or_ne p [] with rfl | hne
      · exact hfit rfl
      · exact hfit (h p (List.mem_map_of_mem (Tree.mem_of_get? hne hd))
          (Tree.within_iff.mpr (List.prefix_refl p)))
    rw [sizeAnswer, if_neg (by simp [hw])]
    exact Reads.bind_error (Reads.query (Tree.readDir_of_not_fits t (Bool.eq_false_iff.mpr hfit))) _

/-- Measuring a directory with room for every level below it answers its size, or the refusal
of a path too long. -/
theorem directorySize_reads (k : Nat) : ∀ p : List String, t.get? p = some .dir →
    (∀ q ∈ t.keys, Tree.within p q = true → q.length ≤ p.length + k) →
    Reads (directorySize (k + 1) p) t (sizeAnswer t p) := by
  induction k with
  | zero =>
    -- no room below: the directory has no entries
    intro p hd hdepth
    refine directorySize_succ hp hd fun c hc _ => absurd (hdepth _ (Tree.mem_children.mp hc)
      (Tree.within_iff.mpr (List.prefix_append _ _))) (by simp)
  | succ k ih =>
    intro p hd hdepth
    refine directorySize_succ hp hd fun c hc hdir => ih (p ++ [c]) hdir fun q hq hw => ?_
    have := hdepth q hq (Tree.within_of_within_append hw)
    simp only [List.length_append, List.length_singleton]
    omega

/-- The depth the volume allows is room for every level of a plain tree. -/
theorem directorySize_measureDepth {p : List String} (hd : t.get? p = some .dir) :
    Reads (directorySize (measureDepth t) p) t (sizeAnswer t p) := by
  rw [measureDepth_eq_succ]
  refine directorySize_reads hp _ p hd fun q hq _ => ?_
  -- no path is longer than the tree has nodes
  have := Tree.length_le_of_mem_keys hp hq
  simp only [measureDepth, maxLinks]
  omega

end Measure

/-! ## Making a missing root -/

section Create

variable {t : Tree} (hp : t.Plain)
include hp

/-- After the directories on a path's parent are made, every prefix on the way is a directory
and the path is still missing. -/
theorem withDirs_dropLast_way {names : List String} (hne : names ≠ [])
    (hway : ∀ k, 0 < k → k < names.length → ∀ d, t.get? (names.take k) ≠ some (.file d))
    (hq : names ∉ t.keys) :
    (∀ k, 0 < k → k < names.length →
      (t.withDirs names.dropLast).get? (names.take k) = some .dir) ∧
    (t.withDirs names.dropLast).get? names = none := by
  refine ⟨fun k hk hkl => ?_, ?_⟩
  · -- a prefix on the way is one of the parent's, and a directory or missing before
    have htake : names.take k = names.dropLast.take k := by
      rw [List.dropLast_eq_take, List.take_take, Nat.min_eq_left (by omega)]
    rw [htake]
    refine Tree.get?_withDirs_of_dir_or_none hk (by simp; omega) ?_
    rw [← htake]
    exact Tree.get?_dir_or_none hp hway hk hkl
  · refine Tree.get?_withDirs_other hne hq fun k _ hk heq => ?_
    have := congrArg List.length heq
    simp at this hk
    omega

/-- Making a missing path of real names that fits a call and holds no file on the way makes
the directories it lacks, shortest first. -/
theorem createDirAllWith_missing (fuel : Nat) : ∀ names : List String, names ≠ [] →
    (∀ y ∈ names, RealName y) → pathFits names = true →
    (∀ k, 0 < k → k < names.length → ∀ d, t.get? (names.take k) ≠ some (.file d)) →
    t.get? names = none → names.length ≤ fuel →
    Runs (createDirAllWith fuel names) t (.ok ()) (t.withDirs names) := by
  induction fuel with
  | zero =>
    intro names hne _ _ _ _ hlen
    exact absurd (List.eq_nil_of_length_eq_zero (by omega)) hne
  | succ f ih =>
    intro names hne hreal hfit hway hq hlen
    have hqkeys : names ∉ t.keys := (Tree.get?_eq_none_iff hne).mp hq
    rw [createDirAllWith]
    refine Runs.bind Runs.get ?_
    by_cases hall : ∀ k, 0 < k → k < names.length → t.get? (names.take k) = some .dir
    · -- the parent is there: one directory is made
      have hput : t.put names .dir = t.withDirs names := by
        rw [Tree.put_of_not_mem hqkeys, Tree.withDirs_of_prefixes hne (fun k hk hkl => ?_) hqkeys]
        exact List.mem_map.mpr
          ⟨_, Tree.mem_of_get? (Tree.take_ne_nil hk hkl.le) (hall k hk hkl), rfl⟩
      simp only [Tree.mkdir_of_parent hreal hfit hne hall hq, hput]
      exact Runs.set _
    · -- a prefix is missing: the parent is made first, then the path
      have hlen' : 2 ≤ names.length := by
        simp only [not_forall] at hall
        obtain ⟨k, hk, hkl, -⟩ := hall
        omega
      have hparent : names.dropLast ≠ [] := List.ne_nil_of_length_pos (by simp; omega)
      have hparentMissing : t.get? names.dropLast = none := by
        simp only [not_forall] at hall
        obtain ⟨k, hk, hkl, hkd⟩ := hall
        rw [List.dropLast_eq_take]
        exact Tree.get?_take_eq_none hp (by omega) (by omega)
          ((Tree.get?_dir_or_none hp hway hk hkl).resolve_left hkd)
      have hsub := ih names.dropLast hparent
        (fun y hy => hreal y (List.mem_of_mem_dropLast hy))
        (by rw [List.dropLast_eq_take]; exact Tree.pathFits_take hfit _)
        (fun k hk hkl d => by
          rw [List.dropLast_eq_take, List.take_take, Nat.min_eq_left (by simp at hkl; omega)]
          exact hway k hk (by simp at hkl; omega) d)
        hparentMissing (by simp; omega)
      obtain ⟨hdirs, hmissing⟩ := withDirs_dropLast_way hp hne hway hqkeys
      simp only [Tree.mkdir_of_gap hreal hfit hp hway hall, Tree.parentNames_of_real hreal]
      refine Runs.bind hsub (Runs.bind Runs.get ?_)
      simp only [Tree.mkdir_of_parent hreal hfit hne hdirs hmissing,
        Tree.withDirs_dropLast_put hne hqkeys]
      exact Runs.set _

/-- Measuring a missing path of real names, once the directories on it are made, finds it
empty. -/
theorem directorySize_withDirs {names : List String} (hne : names ≠ [])
    (hreal : ∀ y ∈ names, RealName y) (hfit : pathFits names = true)
    (hway : ∀ k, 0 < k → k < names.length → ∀ d, t.get? (names.take k) ≠ some (.file d))
    (hq : t.get? names = none) (k : Nat) :
    Reads (directorySize (k + 1) names) (t.withDirs names) (.ok 0) := by
  have hdir : ∀ k, 0 < k → k ≤ names.length →
      (t.withDirs names).get? (names.take k) = some .dir := fun k hk hkl =>
    Tree.get?_withDirs_of_dir_or_none hk hkl (by
      rcases Nat.lt_or_eq_of_le hkl with hlt | rfl
      · exact Tree.get?_dir_or_none hp hway hk hlt
      · exact .inr (by rwa [List.take_length]))
  have hself : (t.withDirs names).get? names = some .dir := by
    simpa using hdir names.length (List.length_pos_of_ne_nil hne) le_rfl
  -- nothing is below the path: the tree had nothing there, and only shorter paths are made
  have hempty : (t.withDirs names).children names = [] := by
    refine List.eq_nil_iff_forall_not_mem.mpr fun c hc => ?_
    by_cases hold : names ++ [c] ∈ t.keys
    · obtain ⟨e, he, hek⟩ := List.mem_map.mp hold
      have h := hp.dirs e he names.length (List.length_pos_of_ne_nil hne) (by simp [hek])
      simp [hek, hq] at h
    · exact Tree.not_mem_keys_withDirs_of_length hold (by simp) (Tree.mem_children.mp hc)
  have hread : (t.withDirs names).readDir names = .ok [] := by
    unfold Tree.readDir
    rw [Tree.walk_of_dirs hreal hne hfit (fun k hk hkl => hdir k hk hkl.le) hself
      (fun _ => Node.noConfusion) .follow]
    exact congrArg Except.ok hempty
  rw [directorySize]
  exact Reads.bind (Reads.query hread) (Reads.pure 0)

end Create

/-! ## The volume's answer -/

namespace QuotaVolume

variable {v : QuotaVolume} {t t' : Tree}

theorem rootAvailable_of_dir (h : t.stat v.root = .ok .dir) :
    Runs v.rootAvailable t (.ok true) t := by
  unfold rootAvailable
  refine Runs.bind Runs.get ?_
  simp only [h]
  exact Runs.pure _

theorem rootAvailable_of_not_dir {n : Node} (h : t.stat v.root = .ok n) (hn : n ≠ .dir) :
    Runs v.rootAvailable t (.ok false) t := by
  unfold rootAvailable
  refine Runs.bind Runs.get ?_
  cases n with
  | dir => exact absurd rfl hn
  | file d => simp only [h]; exact Runs.pure _
  | link target => simp only [h]; exact Runs.pure _

theorem rootAvailable_of_error {e : Errno} (h : t.stat v.root = .error e) (he : e ≠ .noEntry) :
    Runs v.rootAvailable t (.ok false) t := by
  unfold rootAvailable
  refine Runs.bind Runs.get ?_
  cases e with
  | noEntry => exact absurd rfl he
  | _ => simp only [h]; exact Runs.pure _

/-- A missing root is made, and the volume is then available. -/
theorem rootAvailable_of_created (h : t.stat v.root = .error .noEntry)
    (hc : Runs (createDirAll v.root) t (.ok ()) t') : Runs v.rootAvailable t (.ok true) t' := by
  unfold rootAvailable
  refine Runs.bind Runs.get ?_
  simp only [h]
  exact Runs.tryCatch_ok (Runs.bind hc (Runs.pure true)) _

theorem info_of_unavailable (h : Runs v.rootAvailable t (.ok false) t') :
    Runs v.info t (.ok (false, 0)) t' := by
  unfold info
  exact Runs.bind h (Runs.pure _)

/-- An available volume answers its quota less what measuring its root reads. -/
theorem info_of_available (h : Runs v.rootAvailable t (.ok true) t') {r : Except Errno Nat}
    (hs : Reads (directorySize (measureDepth t') v.root) t' r) :
    Runs v.info t (r.map fun used => (true, v.quota - used)) t' := by
  unfold info
  refine Runs.bind h (Runs.bind Runs.get ?_)
  cases r with
  | ok used => exact Runs.bind hs (Runs.pure _)
  | error e => exact Runs.bind_error hs _

theorem info_of_not_fits (hfit : pathFits v.root = false) : Runs v.info t (.ok (false, 0)) t :=
  info_of_unavailable (rootAvailable_of_error (Tree.stat_of_not_fits t hfit) (by decide))

section Plain

variable (hp : t.Plain) (hreal : ∀ y ∈ v.root, RealName y) (hfit : pathFits v.root = true)
include hp hfit

/-- A root that is a directory: the volume is mounted, with the quota less what is below it. -/
theorem info_of_dir (hd : t.get? v.root = some .dir) :
    Runs v.info t ((sizeAnswer t v.root).map fun used => (true, v.quota - used)) t :=
  info_of_available (rootAvailable_of_dir (Tree.stat_of_dir hp hd hfit))
    (directorySize_measureDepth hp hd)

/-- A root that is there but no directory leaves the volume unmounted. -/
theorem info_of_not_dir {n : Node} (hn : t.get? v.root = some n) (hnd : n ≠ .dir) :
    Runs v.info t (.ok (false, 0)) t := by
  have hne : v.root ≠ [] := fun hnil => hnd (by simpa [hnil, Tree.get?] using hn.symm)
  exact info_of_unavailable
    (rootAvailable_of_not_dir (Tree.stat_of_mem hp (Tree.mem_of_get? hne hn) hfit) hnd)

include hreal

/-- A root below a file leaves the volume unmounted. -/
theorem info_of_file_on_way {k : Nat} (hk : 0 < k) (hkl : k < v.root.length) {d : List UInt8}
    (hfile : t.get? (v.root.take k) = some (.file d)) : Runs v.info t (.ok (false, 0)) t :=
  info_of_unavailable
    (rootAvailable_of_error (Tree.stat_of_file_on_way hreal hfit hp hk hkl hfile) (by decide))

/-- A missing root with no file on the way is made, and the volume is mounted with its whole
quota. -/
theorem info_of_missing
    (hway : ∀ k, 0 < k → k < v.root.length → ∀ d, t.get? (v.root.take k) ≠ some (.file d))
    (hq : t.get? v.root = none) : Runs v.info t (.ok (true, v.quota)) (t.withDirs v.root) := by
  have hne : v.root ≠ [] := fun hnil => by simp [hnil, Tree.get?] at hq
  have hmade := createDirAllWith_missing hp (v.root.length + 1) v.root hne hreal hfit hway hq
    (Nat.le_succ _)
  have hsize := directorySize_withDirs hp hne hreal hfit hway hq
    (measureDepth (t.withDirs v.root) - 1)
  rw [← measureDepth_eq_succ] at hsize
  exact info_of_available
    (rootAvailable_of_created (Tree.stat_of_missing hreal hfit hp hne hway hq) hmade) hsize

end Plain

end QuotaVolume

/-! ## A cache of two tracks -/

/-- A cache holding two tracks of three hundred and two hundred bytes, each in a directory of its
own. -/
def cacheTree : Tree :=
  ⟨[(["cache"], .dir), (["cache", "1"], .dir), (["cache", "1", "a.mp3"], .file (List.replicate 300 0)),
    (["cache", "2"], .dir), (["cache", "2", "b.mp3"], .file (List.replicate 200 0))]⟩

/-- The cache is grown a node at a time, each in a directory already there. -/
theorem cacheTree_plain : cacheTree.Plain := by
  have hdir : ∀ target, Node.dir ≠ .link target := fun _ => Node.noConfusion
  have hfile : ∀ d target, Node.file d ≠ .link target := fun _ _ => Node.noConfusion
  have h₀ : (⟨[]⟩ : Tree).Plain := ⟨List.nodup_nil, by simp, by simp, by simp⟩
  have h₁ := h₀.snoc (q := ["cache"]) (by decide) (by simp) (by decide) (.inl rfl) hdir
  have h₂ := h₁.snoc (q := ["cache", "1"]) (by decide) (by simp) (by decide) (.inr rfl) hdir
  have h₃ := h₂.snoc (q := ["cache", "1", "a.mp3"]) (n := .file (List.replicate 300 0))
    (by decide) (by simp) (by decide) (.inr rfl) (hfile _)
  have h₄ := h₃.snoc (q := ["cache", "2"]) (by decide) (by simp) (by decide) (.inr rfl) hdir
  exact h₄.snoc (q := ["cache", "2", "b.mp3"]) (n := .file (List.replicate 200 0))
    (by decide) (by simp) (by decide) (.inr rfl) (hfile _)


/-- A name of `n` letters. -/
def repeatedName (n : Nat) : String := String.ofList (List.replicate n 'n')

theorem utf8Length_repeatedName (n : Nat) : Text.utf8Length (repeatedName n) = n := by
  have hn : 'n'.utf8Size = 1 := rfl
  simp [repeatedName, Text.utf8Length, List.map_replicate, List.sum_replicate, hn]

/-- The bytes of a path of `n` names of one length. -/
theorem pathBytes_replicate (n : Nat) (x : String) :
    pathBytes (List.replicate n x) = topPathBytes + 1 + n * Text.utf8Length x + (n - 1) := by
  simp [pathBytes, List.sum_replicate]

theorem realName_repeatedName {n : Nat} (hn : 2 < n) (hle : n ≤ maxNameBytes) :
    RealName (repeatedName n) := by
  -- the names a real name may not be are all shorter
  have hshort : ∀ s : String, s.length ≤ 2 → repeatedName n ≠ s := fun s hs h => by
    have hlen : (repeatedName n).length = n := by simp [repeatedName]
    rw [h] at hlen
    omega
  exact ⟨hshort "" (by decide), hshort "." (by decide), hshort ".." (by decide),
    by rw [utf8Length_repeatedName]; exact hle⟩

/-! ## What a volume answers -/

/-- The cache with a chain of `m` directories named `x` below it. -/
def dirChain (x : String) : Nat → Tree
  | 0 => ⟨[(["cache"], .dir)]⟩
  | m + 1 => ⟨(dirChain x m).nodes ++ [("cache" :: List.replicate (m + 1) x, .dir)]⟩

section Chain

variable {x : String}

theorem cache_mem_dirChain (m : Nat) : (["cache"], Node.dir) ∈ (dirChain x m).nodes := by
  induction m with
  | zero => simp [dirChain]
  | succ m ih => exact List.mem_append_left _ ih

theorem deepest_mem_dirChain (m : Nat) :
    ("cache" :: List.replicate m x, Node.dir) ∈ (dirChain x m).nodes := by
  cases m with
  | zero => simp [dirChain]
  | succ m => simp [dirChain]

theorem length_le_of_mem_dirChain {m : Nat} {q : List String} (hq : q ∈ (dirChain x m).keys) :
    q.length ≤ m + 1 := by
  induction m generalizing q with
  | zero => simp_all [dirChain, Tree.keys]
  | succ m ih =>
    simp only [dirChain, Tree.keys, List.map_append, List.mem_append, List.map_cons,
      List.map_nil, List.mem_singleton] at hq
    rcases hq with hq | rfl
    · have := ih hq
      omega
    · simp

theorem sizeWithin_dirChain (p : List String) (m : Nat) : (dirChain x m).sizeWithin p = 0 := by
  induction m with
  | zero => simp [dirChain, Tree.sizeWithin, Node.size]
  | succ m ih =>
    rw [dirChain, Tree.sizeWithin_snoc, ih]
    split <;> rfl

/-- Each directory of a chain of real names is made in the one before it. -/
theorem dirChain_plain (hx : RealName x) (m : Nat) : (dirChain x m).Plain := by
  induction m with
  | zero =>
    exact Tree.Plain.snoc (t := ⟨[]⟩) ⟨List.nodup_nil, by simp, by simp, by simp⟩
      (by simp [Tree.keys]) (by simp) (by decide) (.inl rfl) fun _ => Node.noConfusion
  | succ m ih =>
    refine ih.snoc (fun hq => ?_) (List.cons_ne_nil _ _) (fun y hy => ?_) (.inr ?_)
      fun _ => Node.noConfusion
    · have := length_le_of_mem_dirChain hq
      simp at this
    · rcases List.mem_cons.mp hy with rfl | hy
      · decide
      · rw [List.eq_of_mem_replicate hy]
        exact hx
    · have hparent : ("cache" :: List.replicate (m + 1) x).dropLast = "cache" :: List.replicate m x := by
        rw [List.dropLast_cons_of_ne_nil (by simp), List.replicate_succ', List.dropLast_concat]
      rw [hparent]
      exact Tree.get?_of_mem ih (deepest_mem_dirChain m)

end Chain

/-- The path of a file below eighteen directories of 250-letter names in the cache. -/
def deepFile : List String := ("cache" :: List.replicate 18 (repeatedName 250)) ++ ["f"]

/-- The cache with eighteen directories of 250-letter names below it, the last holding a file of
one byte. -/
def deepTree : Tree := ⟨(dirChain (repeatedName 250) 18).nodes ++ [(deepFile, .file [120])]⟩

theorem deepTree_plain : deepTree.Plain := by
  have hx : RealName (repeatedName 250) := realName_repeatedName (by decide) (by decide)
  refine (dirChain_plain hx 18).snoc (fun hq => ?_) (List.cons_ne_nil _ _) (fun y hy => ?_) (.inr ?_)
    fun _ => Node.noConfusion
  · have := length_le_of_mem_dirChain hq
    simp [deepFile] at this
  · simp only [deepFile, List.mem_append, List.mem_cons, List.mem_replicate, List.not_mem_nil,
      or_false] at hy
    rcases hy with (rfl | ⟨-, rfl⟩) | rfl
    · decide
    · exact hx
    · decide
  · have hparent : deepFile.dropLast = "cache" :: List.replicate 18 (repeatedName 250) := by
      rw [deepFile, List.dropLast_concat]
    have hdir := Tree.get?_of_mem (dirChain_plain hx 18) (deepest_mem_dirChain 18)
    rw [hparent]
    exact hdir

theorem pathBytes_chain_file (x : String) (n : Nat) :
    pathBytes (("cache" :: List.replicate n x) ++ ["f"]) =
      topPathBytes + 1 + (Text.utf8Length "cache" + n * Text.utf8Length x + Text.utf8Length "f") +
        (n + 1) := by
  simp [pathBytes, List.sum_replicate]
  omega

/-- The file's path is longer than a call takes. -/
theorem pathFits_deepFile : pathFits deepFile = false := by
  have hcache : Text.utf8Length "cache" = 5 := rfl
  have hf : Text.utf8Length "f" = 1 := rfl
  rw [pathFits, deepFile, pathBytes_chain_file, utf8Length_repeatedName, hcache, hf]
  rfl

end PlaybackEngine.Disk
