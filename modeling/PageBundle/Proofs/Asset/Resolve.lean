import PageBundle.Asset.Locator
import PageBundle.Proofs.FileSet.Lookup

/-! The path that a locator leads to depends on the paths of the set alone: each of the four kinds of match
is a search among the paths. So two sets with the same paths resolve a locator to the same path, and to the
same file if they agree on the content there. -/

namespace PageBundle.Asset
open Text Locator

variable {F G : FileSet} {f : File}

/-- The path that a clean locator names among some paths. -/
def resolvePath? (paths : List String) (l : List Char) : Option String :=
  (paths.find? fun p => p == String.ofList (rootRelative l))
    |>.or (paths.find? fun p => belowRoot p.toList == l)
    |>.or (paths.find? fun p => l.isSuffixOf p.toList)
    |>.or (if (bare l).isEmpty then none else paths.find? fun p => contains p.toList (bare l))

theorem map_path_resolveClean? (F : FileSet) (l : List Char) :
    (resolveClean? F l).map File.path = resolvePath? F.paths l := by
  unfold resolveClean? resolvePath?
  rw [Option.map_or, Option.map_or, Option.map_or, FileSet.map_path_find?,
    FileSet.map_path_toList_find? fun p => belowRoot p.toList == l,
    FileSet.map_path_toList_find? fun p => l.isSuffixOf p.toList]
  split
  · rfl
  · rw [FileSet.map_path_toList_find? fun p => contains p.toList (bare l)]

theorem mem_of_resolveClean? {l : List Char} (h : resolveClean? F l = some f) : f ∈ F.toList := by
  unfold resolveClean? at h
  rcases Option.or_eq_some_iff.1 h with h | ⟨-, h⟩
  · rcases Option.or_eq_some_iff.1 h with h | ⟨-, h⟩
    · rcases Option.or_eq_some_iff.1 h with h | ⟨-, h⟩
      · exact FileSet.mem_of_find? h
      · exact List.mem_of_find?_eq_some h
    · exact List.mem_of_find?_eq_some h
  · split at h
    · cases h
    · exact List.mem_of_find?_eq_some h

theorem map_path_resolve? (F : FileSet) (locator : String) :
    (resolve? F locator).map File.path =
      if (clean locator).isEmpty || isRemote (clean locator) then none
      else resolvePath? F.paths (clean locator) := by
  simp only [resolve?]
  split
  · rfl
  · exact map_path_resolveClean? F _

theorem mem_of_resolve? {locator : String} (h : resolve? F locator = some f) : f ∈ F.toList := by
  simp only [resolve?] at h
  split at h
  · cases h
  · exact mem_of_resolveClean? h

theorem map_path_resolve?_congr (hp : F.paths = G.paths) (locator : String) :
    (resolve? F locator).map File.path = (resolve? G locator).map File.path := by
  rw [map_path_resolve?, map_path_resolve?, hp]

theorem resolve?_congr (hp : F.paths = G.paths) {locator : String}
    (h : ∀ f, resolve? F locator = some f → F.get? f.path = G.get? f.path) :
    resolve? F locator = resolve? G locator :=
  FileSet.eq_of_map_path_eq (fun _ => mem_of_resolve?) (fun _ => mem_of_resolve?)
    (map_path_resolve?_congr hp locator) h

@[simp] theorem map_reference_resolve (F : FileSet) (l : List Reference) :
    (l.map (Reference.resolve F)).map Resolved.reference = l := by
  rw [List.map_map]
  exact List.map_id l

end PageBundle.Asset
