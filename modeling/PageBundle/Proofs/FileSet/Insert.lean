import Mathlib.Data.List.Nodup
import PageBundle.Proofs.FileSet.Lookup

/-! Sets built by inserting. A path that is new goes to the end, so a list of files with distinct paths makes a
set of these files in their order. A set can thus be put below a directory, file by file. -/

namespace PageBundle

def File.under (root : String) (f : File) : File := ⟨root ++ "/" ++ f.path, f.content⟩

namespace FileSet

variable {s : FileSet} {path content : String}

/-- No two files of a set have the same path. -/
theorem nodup_paths (s : FileSet) : s.paths.Nodup := by
  have hget : ∀ i : Nat, s.paths[i]? = (s.files[i]?).map File.path := by
    intro i
    rw [paths, toList, List.getElem?_map, Array.getElem?_toList]
  rw [List.nodup_iff_getElem?_ne_getElem?]
  intro i j hij hj he
  rw [hget, hget] at he
  have hlt : j < s.files.size := by simpa [paths, toList] using hj
  have hp : (s.files[j]?).map File.path = some s.files[j].path := by
    rw [Array.getElem?_eq_getElem hlt, Option.map_some]
  have hi := (s.index_iff _ i).2 (he.trans hp)
  rw [(s.index_iff _ j).2 hp] at hi
  exact absurd (Option.some.inj hi) (Nat.ne_of_gt hij)

theorem toList_insert (h : path ∉ s.paths) : (s.insert path content).toList = s.toList ++ [⟨path, content⟩] := by
  unfold insert
  split
  · rename_i i hi
    obtain ⟨f, hf, rfl⟩ := Option.map_eq_some_iff.1 ((s.index_iff _ _).1 hi)
    exact absurd (List.mem_map.2 ⟨f, Array.mem_toList_iff.2 (Array.mem_of_getElem? hf), rfl⟩) h
  · exact Array.toList_push

/-- A path that is there keeps its place and gets the new content. -/
theorem toList_insert_replace {f : File} {a b : List File} (h : s.toList = a ++ f :: b) :
    (s.insert f.path content).toList = a ++ ⟨f.path, content⟩ :: b := by
  have hf : s.files[a.length]? = some f := by
    rw [← Array.getElem?_toList]
    change s.toList[a.length]? = some f
    rw [h, List.getElem?_append_right (Nat.le_refl _), Nat.sub_self]
    rfl
  have hi : s.index[f.path]? = some a.length := (s.index_iff _ _).2 (by rw [hf]; rfl)
  unfold insert
  split
  · rename_i i hi'
    rw [hi] at hi'
    obtain rfl := Option.some.inj hi'
    change (s.files.modify a.length _).toList = _
    rw [Array.toList_modify, List.modify_eq_take_drop]
    change s.toList.take a.length ++ (s.toList.drop a.length).modifyHead _ = _
    rw [h, List.take_left, List.drop_left]
    rfl
  · rename_i hn
    rw [hi] at hn
    cases hn

theorem exists_toList_eq (h : path ∈ s.paths) : ∃ a f b, s.toList = a ++ f :: b ∧ f.path = path := by
  obtain ⟨f, hf, rfl⟩ := List.mem_map.1 h
  obtain ⟨a, b, hl⟩ := List.append_of_mem hf
  exact ⟨a, f, b, hl, rfl⟩

/-- A new path comes last; one that is there already keeps its place. -/
theorem paths_insert : (s.insert path content).paths = if path ∈ s.paths then s.paths else s.paths ++ [path] := by
  split
  · rename_i h
    obtain ⟨a, f, b, hl, rfl⟩ := exists_toList_eq h
    rw [paths, toList_insert_replace hl, paths, hl, List.map_append, List.map_append]
    rfl
  · rename_i h
    rw [paths, toList_insert h, List.map_append]
    rfl

theorem mem_toList_insert {g : File} :
    g ∈ (s.insert path content).toList ↔ g = ⟨path, content⟩ ∨ g ∈ s.toList ∧ g.path ≠ path := by
  by_cases h : path ∈ s.paths
  · obtain ⟨a, f, b, hl, rfl⟩ := exists_toList_eq h
    have hnd := nodup_paths s
    rw [paths, hl, List.map_append, List.map_cons, List.nodup_middle, List.nodup_cons, ← List.map_append] at hnd
    have hne : ∀ g ∈ a ++ b, g.path ≠ f.path := fun g hg he => hnd.1 (List.mem_map.2 ⟨g, hg, he⟩)
    rw [toList_insert_replace hl, hl]
    grind
  · have hne : ∀ g ∈ s.toList, g.path ≠ path := by
      rintro g hg rfl
      exact h (List.mem_map.2 ⟨g, hg, rfl⟩)
    rw [toList_insert h, List.mem_append, List.mem_singleton, or_comm]
    grind

/-- The file at the path is the new one, and nothing changes elsewhere. -/
theorem find?_insert {p : String} :
    (s.insert path content).find? p = if p = path then some ⟨path, content⟩ else s.find? p := by
  ext g
  rw [find?_eq_some_iff, mem_toList_insert]
  split
  · grind
  · rw [find?_eq_some_iff]
    grind

theorem toList_foldl_insert (l : List (String × String)) (hs : ∀ x ∈ l, x.1 ∉ s.paths) (hl : (l.map Prod.fst).Nodup) :
    (l.foldl (fun s (path, content) => s.insert path content) s).toList = s.toList ++ l.map fun x => ⟨x.1, x.2⟩ := by
  induction l generalizing s with
  | nil => exact (List.append_nil _).symm
  | cons x l ih =>
    obtain ⟨hx, hl⟩ := List.nodup_cons.1 hl
    have hins := @toList_insert s x.1 x.2 (hs x List.mem_cons_self)
    rw [List.foldl_cons, ih (fun y hy => ?_) hl, hins, List.append_assoc]
    · rfl
    · rw [paths, hins, List.map_append, List.mem_append, not_or]
      refine ⟨hs y (List.mem_cons_of_mem x hy), fun hm => hx ?_⟩
      rw [List.map_singleton, List.mem_singleton] at hm
      exact List.mem_map.2 ⟨y, hy, hm⟩

theorem toList_ofList {l : List (String × String)} (hl : (l.map Prod.fst).Nodup) :
    (ofList l).toList = l.map fun x => ⟨x.1, x.2⟩ := by
  rw [ofList, toList_foldl_insert l (fun x _ => List.not_mem_nil) hl]
  rfl

/-- The files of a set below a directory of their own. -/
def under (root : String) (s : FileSet) : FileSet :=
  ofList (s.toList.map fun f => (root ++ "/" ++ f.path, f.content))

theorem toList_under (root : String) (s : FileSet) : (s.under root).toList = s.toList.map (File.under root) := by
  have hinj : Function.Injective fun p : String => root ++ "/" ++ p := by
    intro p q h
    have := congrArg String.toList h
    simp only [String.toList_append] at this
    exact String.toList_inj.1 (List.append_cancel_left this)
  rw [under, toList_ofList, List.map_map]
  · rfl
  · have := (nodup_paths s).map hinj
    rw [paths, List.map_map] at this
    rw [List.map_map]
    exact this

theorem paths_under (root : String) (s : FileSet) :
    (s.under root).paths = s.paths.map fun p => root ++ "/" ++ p := by
  rw [paths, toList_under, paths, List.map_map, List.map_map]
  rfl

theorem mem_paths_under {root : String} (h : path ∈ s.paths) : root ++ "/" ++ path ∈ (s.under root).paths := by
  rw [paths_under]
  exact List.mem_map.2 ⟨path, h, rfl⟩

def without (s : FileSet) (path : String) : FileSet :=
  ofList ((s.toList.filter fun f => f.path ≠ path).map fun f => (f.path, f.content))

theorem toList_without (s : FileSet) (path : String) : (s.without path).toList = s.toList.filter fun f => f.path ≠ path := by
  rw [without, toList_ofList, List.map_map]
  · exact List.map_id _
  · rw [List.map_map]
    exact (nodup_paths s).sublist (List.filter_sublist.map File.path)

end FileSet

end PageBundle
