import PageBundle.Proofs.Asset.Best

/-! Locators that name no file. A remote one never resolves. One that is all `./` and `/` leads nowhere by its path, its
path below the root or its end, if no path of the set is empty or ends with a slash. But for the loosest match only the
`./` at its start is dropped: what begins with a `/` of its own is not empty then, and any path may hold it. -/

namespace PageBundle.Asset

open Text Locator

variable {F : FileSet} {locator p : String} {l : List Char} {paths : List String}

/-- Whether some paths can be those of files: none is empty and none ends with a slash. -/
def PathsOfFiles (paths : List String) : Prop := ∀ p ∈ paths, p ≠ "" ∧ p.toList.getLast? ≠ some '/'

instance (paths : List String) : Decidable (PathsOfFiles paths) :=
  inferInstanceAs (Decidable (∀ p ∈ paths, p ≠ "" ∧ p.toList.getLast? ≠ some '/'))

theorem getLast?_of_rootRelative_eq_nil (h : rootRelative l = []) (hne : l ≠ []) : l.getLast? = some '/' := by
  fun_induction rootRelative l with
  | case1 l ih =>
    cases l with
    | nil => rfl
    | cons c l => exact ih h (List.cons_ne_nil c l)
  | case2 l ih =>
    cases l with
    | nil => rfl
    | cons c l => exact ih h (List.cons_ne_nil c l)
  | case3 l => exact absurd h hne

/-- What is all `./` and `/` ends with a slash, so no path of a file ends with it. -/
theorem PathsOfFiles.not_suffix (hF : PathsOfFiles paths) (hp : p ∈ paths) (h : rootRelative l = []) (hne : l ≠ []) :
    ¬ l <:+ p.toList := by
  rintro ⟨u, hu⟩
  have hlast := getLast?_of_rootRelative_eq_nil h hne
  refine (hF p hp).2 ?_
  rw [← hu, List.getLast?_append_of_ne_nil _ hne, hlast]

/-- Only the loosest match is left for what is all `./` and `/`. -/
theorem PathsOfFiles.resolvePath?_eq (hF : PathsOfFiles paths) (h : rootRelative l = []) (hne : l ≠ []) :
    resolvePath? paths l =
      if (bare l).isEmpty then none else paths.find? fun p => contains p.toList (bare l) := by
  have hpath : (paths.find? fun p => p == String.ofList (rootRelative l)) = none := by
    refine List.find?_eq_none.2 fun p hp hb => (hF p hp).1 ?_
    rw [eq_of_beq hb, h]
  have hbelow : (paths.find? fun p => belowRoot p.toList == l) = none := by
    refine List.find?_eq_none.2 fun p hp hb => hF.not_suffix hp h hne ?_
    rw [← eq_of_beq hb]
    exact belowRoot_suffix p.toList
  have hend : (paths.find? fun p => l.isSuffixOf p.toList) = none :=
    List.find?_eq_none.2 fun p hp hb => hF.not_suffix hp h hne (List.isSuffixOf_iff_suffix.1 hb)
  rw [resolvePath?, hpath, hbelow, hend]
  rfl

theorem resolve?_eq_none_of_isRemote (h : isRemote (clean locator) = true) : resolve? F locator = none := by
  simp only [resolve?, h, Bool.or_true, if_true]

theorem resolvedPath?_of_rootRelative_eq_nil (hF : PathsOfFiles F.paths) (h : rootRelative (clean locator) = [])
    (hr : isRemote (clean locator) = false) :
    resolvedPath? F locator = if (bare (clean locator)).isEmpty then none
      else F.paths.find? fun p => contains p.toList (bare (clean locator)) := by
  rw [resolvedPath?, map_path_resolve?, hr, Bool.or_false]
  split
  · rename_i hempty
    rw [List.isEmpty_iff.1 hempty]
    rfl
  · rename_i hne
    exact hF.resolvePath?_eq h fun hl => hne (List.isEmpty_iff.2 hl)

/-- A remote locator never resolves. One that is all `./` and `/` resolves to the first path that holds it without the
`./` at its start. So it does not resolve exactly if nothing is left of it then, or no path of the set holds what is. -/
theorem resolvedPath?_of_nameless (F : FileSet) (locator : String) (hF : PathsOfFiles F.paths) :
    (isRemote (clean locator) = true → resolve? F locator = none) ∧
      (rootRelative (clean locator) = [] → isRemote (clean locator) = false →
        resolvedPath? F locator = (if (bare (clean locator)).isEmpty then none
          else F.paths.find? fun p => contains p.toList (bare (clean locator))) ∧
        (resolve? F locator = none ↔
          bare (clean locator) = [] ∨ ∀ p ∈ F.paths, ¬ bare (clean locator) <:+: p.toList)) := by
  refine ⟨resolve?_eq_none_of_isRemote, fun h hr => ?_⟩
  have hpath := resolvedPath?_of_rootRelative_eq_nil hF h hr
  refine ⟨hpath, ?_⟩
  rw [← Option.map_eq_none_iff (f := File.path)]
  change resolvedPath? F locator = none ↔ _
  rw [hpath]
  split
  · rename_i hempty
    simp [List.isEmpty_iff.1 hempty]
  · rename_i hne
    rw [List.isEmpty_iff] at hne
    simp only [List.find?_eq_none, contains_iff_isInfix, hne, false_or]

def nestedScript : FileSet := .ofList [("index.html", "<script src=/></script>"), ("p/a.js", "a()")]

theorem resolvedPath?_of_nameless_nestedScript :
    resolve? nestedScript "https://p/a.js" = none ∧ resolve? nestedScript " ././?v=1" = none ∧
      resolvedPath? nestedScript ".//#top" = some "p/a.js" := by
  have hF : PathsOfFiles nestedScript.paths := by decide +kernel
  have hremote := (resolvedPath?_of_nameless nestedScript "https://p/a.js" hF).1
  have hdots := (resolvedPath?_of_nameless nestedScript " ././?v=1" hF).2 (by decide +kernel) (by decide +kernel)
  have hslash := (resolvedPath?_of_nameless nestedScript ".//#top" hF).2 (by decide +kernel) (by decide +kernel)
  refine ⟨hremote (by decide +kernel), hdots.2.2 (.inl (by decide +kernel)), ?_⟩
  rw [hslash.1]
  decide +kernel

/-- The root itself is taken for the first file in a directory. -/
theorem resolve?_root_eq_some : PathsOfFiles nestedScript.paths ∧ rootRelative (clean "/") = [] ∧
    resolve? nestedScript "/" = some ⟨"p/a.js", "a()"⟩ := by
  decide +kernel

end PageBundle.Asset
