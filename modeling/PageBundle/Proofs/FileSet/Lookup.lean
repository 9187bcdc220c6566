import Mathlib.Data.List.Basic
import PageBundle.FileSet

/-! Look-ups in a set of files, and two sets with the same paths. A path stands at one place only, so a
look-up gives a file exactly if the file is in the set. Two sets with the same paths in the same order can
differ in contents alone: what is found by its path is found in both, and it is the same file where the two
sets agree on the content at that path. -/

namespace PageBundle.FileSet

variable {s F G : FileSet} {p : String} {f : File}

/-- Looking up a path finds the file of the set that has it. -/
theorem find?_eq_some_iff : s.find? p = some f ↔ f ∈ s.toList ∧ f.path = p := by
  rw [find?, Option.bind_eq_some_iff]
  constructor
  · rintro ⟨i, hi, hf⟩
    obtain ⟨g, hg, hp⟩ := position?_eq_some_iff.1 hi
    rw [hg] at hf
    cases hf
    exact ⟨Array.mem_toList_iff.2 (Array.mem_of_getElem? hg), hp⟩
  · rintro ⟨hf, hp⟩
    obtain ⟨i, hi⟩ := Array.getElem?_of_mem (Array.mem_toList_iff.1 hf)
    exact ⟨i, position?_eq_some_iff.2 ⟨f, hi, hp⟩, hi⟩

theorem find?_path (hf : f ∈ s.toList) : s.find? f.path = some f := find?_eq_some_iff.2 ⟨hf, rfl⟩

theorem eq_of_path {g : File} (hf : f ∈ s.toList) (hg : g ∈ s.toList) (h : f.path = g.path) : f = g := by
  have hfind := find?_path hf
  rw [h, find?_path hg] at hfind
  exact (Option.some.inj hfind).symm

theorem path_of_find? (h : s.find? p = some f) : f.path = p := (find?_eq_some_iff.1 h).2

theorem mem_of_find? (h : s.find? p = some f) : f ∈ s.toList := (find?_eq_some_iff.1 h).1

theorem get?_path (hf : f ∈ s.toList) : s.get? f.path = some f.content := by
  rw [get?, find?_path hf]
  rfl

theorem map_path_find? : (s.find? p).map File.path = s.paths.find? fun q => q == p := by
  cases h : s.find? p with
  | some f =>
    obtain ⟨hf, hp⟩ := find?_eq_some_iff.1 h
    have hm : p ∈ s.paths := List.mem_map.2 ⟨f, hf, hp⟩
    cases hq : s.paths.find? fun q => q == p with
    | none => exact absurd (beq_self_eq_true p) (List.find?_eq_none.1 hq p hm)
    | some q =>
      have hb := List.find?_some hq
      rw [Option.map_some, hp, eq_of_beq hb]
  | none =>
    symm
    refine List.find?_eq_none.2 fun q hq hqp => ?_
    obtain ⟨g, hg, rfl⟩ := List.mem_map.1 hq
    rw [← eq_of_beq hqp, find?_path hg] at h
    cases h

/-- A search by path alone is a search among the paths. -/
theorem map_path_toList_find? (q : String → Bool) :
    (s.toList.find? fun f => q f.path).map File.path = s.paths.find? q := by
  rw [paths, List.find?_map]
  rfl

/-- Files of a set are told by their paths. -/
theorem filterMap_find? {l : List File} (h : ∀ f ∈ l, f ∈ s.toList) :
    (l.map File.path).filterMap s.find? = l := by
  rw [List.filterMap_map]
  induction l with
  | nil => rfl
  | cons f l ih =>
    have hf : (s.find? ∘ File.path) f = some f := find?_path (h f List.mem_cons_self)
    rw [List.filterMap_cons_some hf, ih fun g hg => h g (List.mem_cons_of_mem f hg)]

/-! ## Sets with the same paths -/

theorem find?_congr (h : F.get? p = G.get? p) : F.find? p = G.find? p := by
  unfold get? at h
  cases hF : F.find? p with
  | none =>
    rw [hF] at h
    exact (Option.map_eq_none_iff.1 h.symm).symm
  | some f =>
    rw [hF] at h
    obtain ⟨g, hG, hc⟩ := Option.map_eq_some_iff.1 h.symm
    have hp : g.path = f.path := (path_of_find? hG).trans (path_of_find? hF).symm
    rw [hG]
    cases f
    cases g
    simp_all

theorem mem_congr (hf : f ∈ F.toList) (h : F.get? f.path = G.get? f.path) : f ∈ G.toList :=
  mem_of_find? ((find?_congr h).symm.trans (find?_path hf))

/-- A file found by its path is the one found in the other set, if the two agree on it. -/
theorem eq_of_map_path_eq {x y : Option File} (hx : ∀ f, x = some f → f ∈ F.toList)
    (hy : ∀ f, y = some f → f ∈ G.toList) (hp : x.map File.path = y.map File.path)
    (h : ∀ f, x = some f → F.get? f.path = G.get? f.path) : x = y := by
  cases x with
  | none => exact (Option.map_eq_none_iff.1 hp.symm).symm
  | some f =>
    obtain ⟨g, rfl, hg⟩ := Option.map_eq_some_iff.1 hp.symm
    have hF := find?_path (mem_congr (hx f rfl) (h f rfl))
    rw [← hg, find?_path (hy g rfl)] at hF
    exact hF.symm

/-- A search by paths finds the same file in two sets if they agree on the one that is found. -/
theorem toList_find?_congr (hp : F.paths = G.paths) {q : String → Bool}
    (h : ∀ f, (F.toList.find? fun f => q f.path) = some f → F.get? f.path = G.get? f.path) :
    (F.toList.find? fun f => q f.path) = G.toList.find? fun f => q f.path := by
  refine eq_of_map_path_eq (fun f hf => List.mem_of_find?_eq_some hf)
    (fun f hf => List.mem_of_find?_eq_some hf) ?_ h
  rw [map_path_toList_find?, map_path_toList_find?, hp]

/-- The files that a test on paths keeps are the same where the two sets agree on all it keeps. -/
theorem toList_filter_congr (hp : F.paths = G.paths) {q : String → Bool}
    (h : ∀ f ∈ F.toList, q f.path = true → F.get? f.path = G.get? f.path) :
    (F.toList.filter fun f => q f.path) = G.toList.filter fun f => q f.path := by
  have paths_filter : ∀ s : FileSet, (s.toList.filter fun f => q f.path).map File.path = s.paths.filter q := by
    intro s
    rw [paths, List.filter_map]
    rfl
  rw [← filterMap_find? fun f hf => (List.mem_filter.1 hf).1,
    ← filterMap_find? (s := G) fun f hf => (List.mem_filter.1 hf).1, paths_filter, paths_filter, ← hp]
  refine List.filterMap_congr fun p hm => find?_congr ?_
  obtain ⟨hm, hq⟩ := List.mem_filter.1 hm
  obtain ⟨f, hf, rfl⟩ := List.mem_map.1 hm
  exact h f hf hq

theorem isEmpty_congr (hp : F.paths = G.paths) : F.isEmpty = G.isEmpty := by
  have hl := congrArg List.length hp
  simp only [paths, toList, List.length_map, Array.length_toList] at hl
  rw [isEmpty, isEmpty, Array.isEmpty, Array.isEmpty, hl]

end PageBundle.FileSet
