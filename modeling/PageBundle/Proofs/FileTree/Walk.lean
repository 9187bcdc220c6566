import Mathlib.Data.List.Nodup
import PageBundle.FileTree.Walk
import PageBundle.Proofs.FileTree.Write
import PageBundle.Proofs.Text.Order

/-! A walk through a tree. It meets exactly what stands in the tree outside the data of version control, and in the order
of the names that lead there, compared one after the other; so it meets each thing once, and a tree with the same files
in it has them met in the same order. In each directory the entries are sorted by name, what is below an entry has its
name in front, and the order of the first names decides between two entries. -/

namespace PageBundle.Node

open Text

variable {n m child : Node} {v : Visit} {f : Found} {name : String} {names : List String} {content : ByteArray}
  {entries : List (String × Node)}

/-- Whether the names in each directory are distinct and have no slash. -/
inductive Proper : Node → Prop
  | file (content : ByteArray) : Proper (file content)
  | link (target : String) : Proper (link target)
  | directory {entries : List (String × Node)} (distinct : (entries.map Prod.fst).Nodup)
      (names : ∀ e ∈ entries, '/' ∉ e.1.toList) (children : ∀ e ∈ entries, e.2.Proper) : Proper (directory entries)

/-- Whether some names lead to a node, through directories that are not those of version control. -/
def Reaches (n : Node) (names : List String) (m : Node) : Prop :=
  n.get? names = some m ∧ metadataName ∉ if m.isDirectory then names else names.dropLast

/-- Whether some names lead to a file of some content, through directories that are not those of version control. -/
def HasFile (n : Node) (names : List String) (content : ByteArray) : Prop :=
  n.get? names = some (file content) ∧ metadataName ∉ names.dropLast

theorem reaches_file : n.Reaches names (file content) ↔ n.HasFile names content := Iff.rfl

/-! ## One directory -/

theorem lookup_eq_some_iff_mem (h : (entries.map Prod.fst).Nodup) :
    entries.lookup name = some child ↔ (name, child) ∈ entries := by
  induction entries with
  | nil => simp
  | cons e entries ih =>
    obtain ⟨hn, h⟩ := List.nodup_cons.1 h
    rw [List.lookup_cons, List.mem_cons]
    by_cases he : name = e.1
    · subst he
      have hn : (e.1, child) ∉ entries := fun hm => hn (List.mem_map.2 ⟨_, hm, rfl⟩)
      simp [hn, Prod.ext_iff, eq_comm]
    · rw [beq_eq_false_iff_ne.2 he, ih h]
      simp [he, Prod.ext_iff]

theorem visitEntries_eq (entries : List (String × Node)) : visitEntries entries =
    entries.map fun e => (e.1, if e.2.isDirectory && e.1 == metadataName then [] else e.2.visits) := by
  induction entries with
  | nil => rfl
  | cons e entries ih => rw [visitEntries, ih, List.map_cons]

theorem mem_inOrder {l : List (String × List Visit)} :
    v ∈ inOrder l ↔ ∃ e ∈ l, ∃ u ∈ e.2, v = ⟨e.1 :: u.names, u.node⟩ := by
  simp only [inOrder, List.mem_flatMap, List.mem_mergeSort, List.mem_map, eq_comm]

theorem mem_visits_directory : v ∈ (directory entries).visits ↔ v = ⟨[], directory entries⟩ ∨ ∃ e ∈ entries,
    ¬ (e.2.isDirectory = true ∧ e.1 = metadataName) ∧ ∃ u ∈ e.2.visits, v = ⟨e.1 :: u.names, u.node⟩ := by
  rw [visits, List.mem_cons, mem_inOrder, visitEntries_eq]
  simp only [List.mem_map]
  refine or_congr_right ⟨?_, ?_⟩
  · rintro ⟨_, ⟨e, he, rfl⟩, u, hu, rfl⟩
    split at hu
    · cases hu
    · rename_i hm
      exact ⟨e, he, by simpa using hm, u, hu, rfl⟩
  · rintro ⟨e, he, hm, u, hu, rfl⟩
    refine ⟨_, ⟨e, he, rfl⟩, u, ?_, rfl⟩
    rwa [if_neg (by simpa using hm)]

theorem reaches_nil : n.Reaches [] m ↔ n = m := by
  simp [Reaches, get?]

theorem reaches_directory_cons (h : (entries.map Prod.fst).Nodup) :
    (directory entries).Reaches (name :: names) m ↔
      ∃ child, (name, child) ∈ entries ∧ ¬ (child.isDirectory = true ∧ name = metadataName) ∧ child.Reaches names m := by
  rw [Reaches, get?_directory_cons, Option.bind_eq_some_iff]
  simp only [lookup_eq_some_iff_mem h]
  cases names with
  | nil =>
    simp only [reaches_nil, get?, Option.some.injEq]
    constructor
    · rintro ⟨⟨child, hc, rfl⟩, hm⟩
      refine ⟨child, hc, fun hd => ?_, rfl⟩
      rw [if_pos hd.1] at hm
      exact hm (List.mem_singleton.2 hd.2.symm)
    · rintro ⟨child, hc, hd, rfl⟩
      refine ⟨⟨child, hc, rfl⟩, ?_⟩
      split
      · rename_i hdir
        exact fun hm => hd ⟨hdir, (List.mem_singleton.1 hm).symm⟩
      · exact List.not_mem_nil
  | cons name' names =>
    have hfront : metadataName ∉ (if m.isDirectory then name :: name' :: names else (name :: name' :: names).dropLast) ↔
        metadataName ≠ name ∧ metadataName ∉ if m.isDirectory then name' :: names else (name' :: names).dropLast := by
      split
      · rw [List.mem_cons, not_or]
      · rw [List.dropLast_cons_cons, List.mem_cons, not_or]
    rw [hfront]
    constructor
    · rintro ⟨⟨child, hc, hget⟩, hne, hm⟩
      exact ⟨child, hc, fun hd => hne hd.2.symm, hget, hm⟩
    · rintro ⟨child, hc, hd, hget, hm⟩
      refine ⟨⟨child, hc, hget⟩, fun he => hd ⟨?_, he.symm⟩, hm⟩
      -- Only a directory has something below it.
      by_contra hdir
      rw [get?_cons (Bool.eq_false_iff.2 hdir)] at hget
      cases hget

/-- The order in which the entries are kept has no say in what is below them. -/
theorem hasFile_directory_perm {entries' : List (String × Node)} (hp : entries'.Perm entries)
    (h : (entries.map Prod.fst).Nodup) :
    (directory entries').HasFile names content ↔ (directory entries).HasFile names content := by
  cases names with
  | nil => simp [HasFile, get?]
  | cons name names =>
    rw [← reaches_file, ← reaches_file, reaches_directory_cons h,
      reaches_directory_cons ((hp.map Prod.fst).nodup_iff.2 h)]
    simp only [hp.mem_iff]

/-! ## The whole tree -/

/-- A walk meets just what names lead to. -/
theorem mem_visits_iff (h : n.Proper) : v ∈ n.visits ↔ n.Reaches v.names v.node := by
  obtain ⟨names, node⟩ := v
  induction h generalizing names with
  | file content =>
    cases names with
    | nil => simp [visits, reaches_nil, eq_comm]
    | cons => simp [visits, Reaches, get?]
  | link target =>
    cases names with
    | nil => simp [visits, reaches_nil, eq_comm]
    | cons => simp [visits, Reaches, get?]
  | @directory entries distinct _ _ ih =>
    rw [mem_visits_directory]
    cases names with
    | nil =>
      rw [reaches_nil]
      constructor
      · rintro (hv | ⟨e, -, -, u, -, hv⟩)
        · cases hv
          rfl
        · cases hv
      · rintro rfl
        exact .inl rfl
    | cons name names =>
      rw [reaches_directory_cons distinct]
      constructor
      · rintro (hv | ⟨e, he, hd, u, hu, hv⟩)
        · cases hv
        · cases hv
          exact ⟨e.2, he, hd, (ih e he _).1 hu⟩
      · rintro ⟨child, hc, hd, hr⟩
        exact .inr ⟨(name, child), hc, hd, ⟨names, node⟩, (ih _ hc _).2 hr, rfl⟩

theorem found?_eq_some_iff : v.found? = some f ↔ v = ⟨f.names, file f.content⟩ := by
  obtain ⟨names, node⟩ := v
  obtain ⟨names', content⟩ := f
  cases node <;> simp [Visit.found?]

theorem mem_walk_iff (h : n.Proper) : f ∈ n.walk ↔ n.HasFile f.names f.content := by
  rw [walk, List.mem_filterMap]
  simp only [found?_eq_some_iff, exists_eq_right, mem_visits_iff h, reaches_file]

theorem pairwise_inOrder {l : List (String × List Visit)} (hd : (l.map Prod.fst).Nodup)
    (hl : ∀ e ∈ l, e.2.Pairwise fun u v => u.names < v.names) :
    (inOrder l).Pairwise fun u v => u.names < v.names := by
  have hperm := List.mergeSort_perm l fun a b => decide (a.1 ≤ b.1)
  have htrans : ∀ a b c : String × List Visit, decide (a.1 ≤ b.1) = true → decide (b.1 ≤ c.1) = true →
      decide (a.1 ≤ c.1) = true := by
    intro a b c hab hbc
    exact decide_eq_true (le_trans (of_decide_eq_true hab) (of_decide_eq_true hbc))
  have htotal : ∀ a b : String × List Visit, (decide (a.1 ≤ b.1) || decide (b.1 ≤ a.1)) = true := by
    intro a b
    simpa using le_total a.1 b.1
  have hle := List.pairwise_mergeSort htrans htotal l
  have hne : (l.mergeSort fun a b => decide (a.1 ≤ b.1)).Pairwise fun a b => a.1 ≠ b.1 :=
    List.pairwise_map.1 ((hperm.map Prod.fst).nodup_iff.2 hd)
  rw [inOrder, List.pairwise_flatMap]
  refine ⟨fun e he => ?_, (hle.and hne).imp fun h u hu v hv => ?_⟩
  · rw [List.pairwise_map]
    exact (hl e (hperm.mem_iff.1 he)).imp fun h => List.Lex.cons h
  · obtain ⟨u, -, rfl⟩ := List.mem_map.1 hu
    obtain ⟨v, -, rfl⟩ := List.mem_map.1 hv
    exact List.Lex.rel (lt_of_le_of_ne (of_decide_eq_true h.1) h.2)

/-- A walk meets things in the order of the names that lead to them, whatever the order of the entries. -/
theorem pairwise_visits (h : n.Proper) : n.visits.Pairwise fun u v => u.names < v.names := by
  induction h with
  | file content => exact List.pairwise_singleton _ _
  | link target => exact List.pairwise_singleton _ _
  | @directory entries distinct _ _ ih =>
    rw [visits, visitEntries_eq, List.pairwise_cons]
    constructor
    · intro v hv
      obtain ⟨e, -, u, -, rfl⟩ := mem_inOrder.1 hv
      exact List.Lex.nil
    · refine pairwise_inOrder (by rwa [List.map_map]) fun e he => ?_
      obtain ⟨e', he', rfl⟩ := List.mem_map.1 he
      dsimp only
      split
      · exact .nil
      · exact ih e' he'

theorem pairwise_walk (h : n.Proper) : n.walk.Pairwise fun f g => f.names < g.names := by
  rw [walk, List.pairwise_filterMap]
  refine (pairwise_visits h).imp fun hlt f hf g hg => ?_
  rw [found?_eq_some_iff] at hf hg
  rwa [hf, hg] at hlt

/-- The files of a tree, each of them once, in the order of the bytes of the names that lead to them. -/
structure Lists (n : Node) (l : List Found) : Prop where
  mem_iff : ∀ f, f ∈ l ↔ n.HasFile f.names f.content
  sorted : l.Pairwise fun f g => f.names.map utf8 < g.names.map utf8

/-- The walk lists the files of a tree. -/
theorem lists_walk (h : n.Proper) : n.Lists n.walk :=
  ⟨fun _ => mem_walk_iff h, (pairwise_walk h).imp map_utf8_lt_map_utf8⟩

/-- A tree has one such list, and so has another one with the same files in it. -/
theorem Lists.eq_of_same {l l' : List Found} (h : n.Lists l) (h' : m.Lists l')
    (hsame : ∀ names content, m.HasFile names content ↔ n.HasFile names content) : l' = l := by
  have nodup : ∀ {n : Node} {l : List Found}, n.Lists l → l.Nodup :=
    fun h => h.sorted.imp fun {f g} (hlt : f.names.map utf8 < g.names.map utf8) he => List.lt_irrefl _ (he ▸ hlt)
  refine List.Perm.eq_of_pairwise (fun f g _ _ hfg hgf => absurd hgf (List.lt_asymm hfg)) h'.sorted h.sorted ?_
  refine (List.perm_ext_iff_of_nodup (nodup h') (nodup h)).2 fun f => ?_
  rw [h'.mem_iff, h.mem_iff, hsame]

theorem Proper.slash_notMem (h : n.Proper) (hm : n.get? names = some m) :
    ∀ name ∈ names, '/' ∉ name.toList := by
  induction h generalizing names with
  | file | link =>
    cases names with
    | nil => exact fun _ h => absurd h List.not_mem_nil
    | cons => cases hm
  | @directory entries distinct hnames _ ih =>
    cases names with
    | nil => exact fun _ h => absurd h List.not_mem_nil
    | cons name names =>
      rw [get?_directory_cons, Option.bind_eq_some_iff] at hm
      obtain ⟨child, hc, hm⟩ := hm
      rw [lookup_eq_some_iff_mem distinct] at hc
      exact List.forall_mem_cons.2 ⟨hnames _ hc, ih _ hc hm⟩

end PageBundle.Node
