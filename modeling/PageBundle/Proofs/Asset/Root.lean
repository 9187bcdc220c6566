import Mathlib.Data.List.TakeWhile
import PageBundle.Proofs.Asset.Resolve
import PageBundle.Proofs.FileSet.Insert
import PageBundle.Proofs.Text.Trim

/-! Locators in a project whose files lie below a directory, as in an archive. In the project itself a path is
found at once, be it spelled as it is, with `./` or with `/` in front. Below a directory the exact match
fails. The path as it is equals the path below the root, so it is still found. The other two spellings go on
to the looser matches, where another file that comes first can be taken. -/

namespace PageBundle.Asset
open Text Locator

variable {F : FileSet} {f : File} {root p q locator : String} {l : List Char} {paths : List String}

/-- A path that a page can name in its own words, in the project and below a root directory. -/
structure Nameable (root path : String) : Prop where
  ne_empty : path ≠ ""
  start : path.toList.head? ≠ some '.' ∧ path.toList.head? ≠ some '/'
  outside : ¬ (root ++ "/").toList <+: path.toList
  noQuery : '?' ∉ path.toList ∧ '#' ∉ path.toList
  trimmed : trim path.toList = path.toList
  isLocal : isRemote path.toList = false

instance (root path : String) : Decidable (Nameable root path) :=
  decidable_of_iff (_ ∧ _ ∧ _ ∧ _ ∧ _ ∧ _)
    ⟨fun h => ⟨h.1, h.2.1, h.2.2.1, h.2.2.2.1, h.2.2.2.2.1, h.2.2.2.2.2⟩, fun h => ⟨h.1, h.2, h.3, h.4, h.5, h.6⟩⟩

/-- What may stand in front of a path to say that it starts at the root of the project. -/
def spellings : List String := ["", "./", "/"]

/-! ## Clean locators -/

theorem Nameable.toList_ne_nil (h : Nameable root p) : p.toList ≠ [] :=
  fun hn => h.ne_empty (String.toList_inj.1 (by rw [hn]; rfl))

theorem rootRelative_eq_self (h : l.head? ≠ some '.' ∧ l.head? ≠ some '/') : rootRelative l = l := by
  unfold rootRelative
  split
  · exact absurd rfl h.1
  · exact absurd rfl h.2
  · rfl

theorem bare_eq_self (h : l.head? ≠ some '.') : bare l = l := by
  unfold bare
  split
  · exact absurd rfl h
  · rfl

theorem rootRelative_append {u : String} (hu : u ∈ spellings) (hl : l.head? ≠ some '.' ∧ l.head? ≠ some '/') :
    rootRelative (u.toList ++ l) = l := by
  simp only [spellings, List.mem_cons, List.not_mem_nil, or_false] at hu
  rcases hu with rfl | rfl | rfl
  · exact rootRelative_eq_self hl
  · exact rootRelative_eq_self hl
  · exact rootRelative_eq_self hl

theorem mem_spelling {u : String} (hu : u ∈ spellings) : ∀ c ∈ u.toList, c = '.' ∨ c = '/' := by
  have hall : ∀ v ∈ spellings, (v.toList.all fun c => c = '.' ∨ c = '/') = true := by decide +kernel
  exact fun c hc => of_decide_eq_true (List.all_eq_true.1 (hall u hu) c hc)

/-- Nothing is cut off a path that a page can name. -/
theorem Nameable.clean_append {u : String} (h : Nameable root p) (hu : u ∈ spellings) :
    clean (u ++ p) = u.toList ++ p.toList := by
  have hchar : ∀ c ∈ u.toList, isBlank c = false ∧ c ≠ '?' ∧ c ≠ '#' := by
    intro c hc
    rcases mem_spelling hu c hc with rfl | rfl
    · decide
    · decide
  have htrim : trim (u.toList ++ p.toList) = u.toList ++ p.toList := by
    refine trim_eq_self (fun c hc => ?_) fun c hc => ?_
    · rw [List.head?_append] at hc
      rcases Option.or_eq_some_iff.1 hc with hc | ⟨-, hc⟩
      · exact (hchar c (List.mem_of_mem_head? hc)).1
      · exact head?_trim (by rw [h.trimmed, hc])
    · rw [List.getLast?_append_of_ne_nil _ h.toList_ne_nil] at hc
      exact getLast?_trim (by rw [h.trimmed, hc])
  rw [clean, String.toList_append, htrim, List.takeWhile_eq_self_iff]
  intro c hc
  have hq : c ≠ '?' ∧ c ≠ '#' := by
    rcases List.mem_append.1 hc with hc | hc
    · exact (hchar c hc).2
    · exact ⟨fun he => h.noQuery.1 (he ▸ hc), fun he => h.noQuery.2 (he ▸ hc)⟩
  rw [decide_eq_true hq.1, decide_eq_true hq.2]
  rfl

theorem isRemote_eq_false_iff : isRemote l = false ↔
    ¬ [':', '/', '/'] <:+: l ∧ ¬ ['/', '/'] <+: l ∧ ¬ ['d', 'a', 't', 'a', ':'] <+: l := by
  have h1 : "://".toList = [':', '/', '/'] := by decide +kernel
  have h2 : "//".toList = ['/', '/'] := by decide +kernel
  have h3 : "data:".toList = ['d', 'a', 't', 'a', ':'] := by decide +kernel
  rw [isRemote, h1, h2, h3, Bool.or_eq_false_iff, Bool.or_eq_false_iff, and_assoc, ← Bool.not_eq_true,
    contains_iff_isInfix, ← Bool.not_eq_true, List.isPrefixOf_iff_prefix, ← Bool.not_eq_true,
    List.isPrefixOf_iff_prefix]

theorem Nameable.isRemote_append {u : String} (h : Nameable root p) (hu : u ∈ spellings) :
    isRemote (u.toList ++ p.toList) = false := by
  have hp := isRemote_eq_false_iff.1 h.isLocal
  have hslash : ∀ {c : Char} {l : List Char}, c ≠ ':' → ¬ [':', '/', '/'] <:+: l → ¬ [':', '/', '/'] <:+: c :: l := by
    intro c l hc hl hi
    rcases List.infix_cons_iff.1 hi with hi | hi
    · exact hc (List.cons_prefix_cons.1 hi).1.symm
    · exact hl hi
  rw [isRemote_eq_false_iff]
  simp only [spellings, List.mem_cons, List.not_mem_nil, or_false] at hu
  rcases hu with rfl | rfl | rfl
  · exact hp
  · refine ⟨hslash (by decide) (hslash (by decide) hp.1), fun hi => ?_, fun hi => ?_⟩
    · exact absurd (List.cons_prefix_cons.1 hi).1 (by decide)
    · exact absurd (List.cons_prefix_cons.1 hi).1 (by decide)
  · refine ⟨hslash (by decide) hp.1, fun hi => ?_, fun hi => ?_⟩
    · obtain ⟨v, hv⟩ := (List.cons_prefix_cons.1 hi).2
      exact h.start.2 (List.head?_eq_some_iff.2 ⟨v, hv.symm⟩)
    · exact absurd (List.cons_prefix_cons.1 hi).1 (by decide)

/-! ## Searches -/

/-- In the set, a locator that can name a file resolves to the file with the path that it leads to. -/
theorem resolve?_eq_some_iff (hf : f ∈ F.toList) (hl : clean locator = l) (hne : l ≠ []) (hr : isRemote l = false) :
    resolve? F locator = some f ↔ resolvePath? F.paths l = some f.path := by
  have hmap := map_path_resolve? F locator
  rw [hl, hr, Bool.or_false, List.isEmpty_eq_false_iff.2 hne] at hmap
  simp only [Bool.false_eq_true, if_false] at hmap
  rw [← hmap]
  constructor
  · intro h
    rw [h]
    rfl
  · intro h
    obtain ⟨g, hg, hp⟩ := Option.map_eq_some_iff.1 h
    rw [hg, FileSet.eq_of_path (mem_of_resolve? hg) hf hp]

theorem find?_eq_some_of_unique {test : String → Bool} (hm : p ∈ paths) (ht : test p = true)
    (h : ∀ q ∈ paths, test q = true → q = p) : paths.find? test = some p := by
  cases hq : paths.find? test with
  | none => exact absurd ht (List.find?_eq_none.1 hq p hm)
  | some q => rw [h q (List.mem_of_find?_eq_some hq) (List.find?_some hq)]

theorem find?_beq_eq_some (h : p ∈ paths) : (paths.find? fun q => q == p) = some p :=
  find?_eq_some_of_unique h (beq_self_eq_true p) fun _ _ => eq_of_beq

/-- A path is found by any locator that is the path once what stands in front is dropped. -/
theorem resolvePath?_of_mem (h : p ∈ paths) (hl : rootRelative l = p.toList) : resolvePath? paths l = some p := by
  rw [resolvePath?, hl, String.ofList_toList, find?_beq_eq_some h]
  rfl

/-! ## Below a directory -/

theorem belowRoot_append (h : '/' ∉ root.toList) : belowRoot (root ++ "/" ++ q).toList = q.toList := by
  have hd : (root.toList ++ '/' :: q.toList).dropWhile (· ≠ '/') = '/' :: q.toList := by
    rw [List.dropWhile_append_of_pos]
    · rfl
    · intro c hc
      refine decide_eq_true ?_
      rintro rfl
      exact h hc
  have hlist : (root ++ "/" ++ q).toList = root.toList ++ '/' :: q.toList := by
    simp [String.toList_append]
  rw [belowRoot, hlist, hd]

/-- Below the root, at most one path is the locator. -/
theorem find?_belowRoot (hroot : '/' ∉ root.toList) (F : FileSet) (q : String) :
    ((F.under root).paths.find? fun p => belowRoot p.toList == q.toList) =
      if q ∈ F.paths then some (root ++ "/" ++ q) else none := by
  have htest : (fun p : String => belowRoot (root ++ "/" ++ p).toList == q.toList) = fun p => p == q := by
    funext p
    rw [belowRoot_append hroot, Bool.eq_iff_iff, beq_iff_eq, beq_iff_eq, String.toList_inj]
  rw [FileSet.paths_under, List.find?_map, Function.comp_def, htest]
  split
  · rename_i h
    rw [find?_beq_eq_some h]
    rfl
  · rename_i h
    have hnone : (F.paths.find? fun p => p == q) = none := by
      refine List.find?_eq_none.2 fun p hp hb => h ?_
      rw [← eq_of_beq hb]
      exact hp
    rw [hnone]
    rfl

/-- Below a directory the exact match fails. -/
theorem find?_beq_under (F : FileSet) (h : ¬ (root ++ "/").toList <+: l) :
    ((F.under root).paths.find? fun p => p == String.ofList l) = none := by
  refine List.find?_eq_none.2 fun p hp hb => h ?_
  rw [FileSet.paths_under] at hp
  obtain ⟨q, -, rfl⟩ := List.mem_map.1 hp
  refine ⟨q.toList, ?_⟩
  rw [← String.toList_append, eq_of_beq hb, String.toList_ofList]

/-- Whether a path is the first of some paths that ends with a locator or, if none does, the first that holds the
locator without any `./` at its start. -/
def IsFirstMatch (paths : List String) (l : List Char) (p : String) : Prop :=
  ((paths.find? fun q => l.isSuffixOf q.toList).or (paths.find? fun q => contains q.toList (bare l))) = some p

theorem bare_append {u : String} (hu : u ∈ spellings) (hp : Nameable root p) :
    bare (u ++ p).toList = if u = "/" then (u ++ p).toList else p.toList := by
  simp only [spellings, List.mem_cons, List.not_mem_nil, or_false] at hu
  rw [String.toList_append]
  rcases hu with rfl | rfl | rfl
  · exact bare_eq_self hp.start.1
  · exact bare_eq_self hp.start.1
  · rfl

/-- Below a directory, a spelling of a path leads to its file exactly if no path of the project is spelled so
and the looser matches find that file. -/
theorem resolvePath?_under_iff {u : String} (hroot : '/' ∉ root.toList) (hp : Nameable root p) (hu : u ∈ spellings)
    (hne : u ≠ "") : resolvePath? (F.under root).paths (u ++ p).toList = some (root ++ "/" ++ p) ↔
      u ++ p ∉ F.paths ∧ IsFirstMatch (F.under root).paths (u ++ p).toList (root ++ "/" ++ p) := by
  have hrel : rootRelative (u ++ p).toList = p.toList := by
    rw [String.toList_append]
    exact rootRelative_append hu hp.start
  have hbare : (bare (u ++ p).toList).isEmpty = false := by
    rw [bare_append hu hp, List.isEmpty_eq_false_iff]
    split
    · rw [String.toList_append]
      exact fun h => hp.toList_ne_nil (List.append_eq_nil_iff.1 h).2
    · exact hp.toList_ne_nil
  unfold resolvePath? IsFirstMatch
  rw [hrel, find?_beq_under F hp.outside, Option.none_or, find?_belowRoot hroot, Option.or_assoc, hbare,
    if_neg Bool.false_ne_true]
  split
  · rename_i hm
    simp only [Option.some_or, Option.some.injEq, hm, not_true_eq_false, false_and, iff_false]
    intro he
    -- The file of another path cannot be that of the path itself.
    have hlen := congrArg String.length he
    simp only [String.length_append] at hlen
    have hz : u.length = 0 := by omega
    exact hne (String.length_eq_zero_iff.1 hz)
  · rename_i hm
    rw [Option.none_or]
    exact (and_iff_right hm).symm

/-- A path that no other one below the root holds is the first match, however it is spelled. -/
theorem isFirstMatch_of_unique {u : String} (hm : p ∈ F.paths) (hp : Nameable root p) (hu : u ∈ spellings)
    (h : ∀ q ∈ (F.under root).paths, p.toList <:+: q.toList → q = root ++ "/" ++ p) :
    IsFirstMatch (F.under root).paths (u ++ p).toList (root ++ "/" ++ p) := by
  have hmem : root ++ "/" ++ p ∈ (F.under root).paths := FileSet.mem_paths_under hm
  have hends : ∀ q ∈ (F.under root).paths, (u ++ p).toList.isSuffixOf q.toList = true → q = root ++ "/" ++ p := by
    intro q hq hs
    refine h q hq (List.IsInfix.trans ?_ (List.isSuffixOf_iff_suffix.1 hs).isInfix)
    rw [String.toList_append]
    exact (List.suffix_append u.toList p.toList).isInfix
  unfold IsFirstMatch
  cases hfind : (F.under root).paths.find? fun q => (u ++ p).toList.isSuffixOf q.toList with
  | some q =>
    have hq := List.find?_some hfind
    rw [hends q (List.mem_of_find?_eq_some hfind) hq, Option.some_or]
  | none =>
    have hnot := List.find?_eq_none.1 hfind _ hmem
    -- The root's own slash would end the search.
    have hslash : u ≠ "/" := by
      rintro rfl
      refine hnot (List.isSuffixOf_iff_suffix.2 ⟨root.toList, ?_⟩)
      simp only [String.toList_append, List.append_assoc]
    rw [Option.none_or, bare_append hu hp, if_neg hslash]
    refine find?_eq_some_of_unique hmem ?_ fun q hq hc => h q hq (contains_iff_isInfix.1 hc)
    rw [contains_iff_isInfix, String.toList_append]
    exact (List.suffix_append _ p.toList).isInfix

/-- A path that stands in front of itself in the set is held by another one below the root. -/
theorem notMem_of_unique {u : String} (hne : u ≠ "")
    (h : ∀ q ∈ (F.under root).paths, p.toList <:+: q.toList → q = root ++ "/" ++ p) : u ++ p ∉ F.paths := by
  intro hm
  have hi : p.toList <:+: (root ++ "/" ++ (u ++ p)).toList := by
    simp only [String.toList_append, ← List.append_assoc]
    exact (List.suffix_append _ p.toList).isInfix
  have hlen := congrArg String.length (h _ (FileSet.mem_paths_under hm) hi)
  simp only [String.length_append] at hlen
  exact hne (String.length_eq_zero_iff.1 (by omega))

/-- In a project a path resolves to its file, however it is spelled, and below a root directory it does so as it
is. There, with `./` or `/` in front, it does exactly if no path of the project is spelled so and the file is
what the looser matches find first; no other path below the root that holds it is enough for that. -/
theorem resolve?_under (F : FileSet) (root : String) (f : File) (hroot : '/' ∉ root.toList) (hf : f ∈ F.toList)
    (hp : Nameable root f.path) :
    (∀ u ∈ ["", "./", "/"], resolve? F (u ++ f.path) = some f) ∧
      resolve? (F.under root) f.path = some (f.under root) ∧
      (∀ u ∈ ["./", "/"], resolve? (F.under root) (u ++ f.path) = some (f.under root) ↔
        u ++ f.path ∉ F.paths ∧
          IsFirstMatch (F.under root).paths (u ++ f.path).toList (root ++ "/" ++ f.path)) ∧
      ((∀ q ∈ (F.under root).paths, f.path.toList <:+: q.toList → q = root ++ "/" ++ f.path) →
        ∀ u ∈ ["./", "/"], resolve? (F.under root) (u ++ f.path) = some (f.under root)) := by
  have hpath : f.path ∈ F.paths := List.mem_map.2 ⟨f, hf, rfl⟩
  have hunder : f.under root ∈ (F.under root).toList := by
    rw [FileSet.toList_under]
    exact List.mem_map.2 ⟨f, hf, rfl⟩
  have hclean : ∀ {u : String}, u ∈ spellings →
      clean (u ++ f.path) = (u ++ f.path).toList ∧ (u ++ f.path).toList ≠ [] ∧
        isRemote (u ++ f.path).toList = false := by
    intro u hu
    rw [String.toList_append]
    exact ⟨hp.clean_append hu, fun h => hp.toList_ne_nil (List.append_eq_nil_iff.1 h).2, hp.isRemote_append hu⟩
  have hne : ∀ {u : String}, u ∈ ["./", "/"] → u ≠ "" := by
    rintro u hu rfl
    exact absurd hu (by decide)
  have hiff : ∀ u ∈ ["./", "/"], resolve? (F.under root) (u ++ f.path) = some (f.under root) ↔
      u ++ f.path ∉ F.paths ∧ IsFirstMatch (F.under root).paths (u ++ f.path).toList (root ++ "/" ++ f.path) := by
    intro u hu
    have hs : u ∈ spellings := List.mem_cons_of_mem "" hu
    obtain ⟨hl, hn, hr⟩ := hclean hs
    rw [resolve?_eq_some_iff hunder hl hn hr]
    exact resolvePath?_under_iff hroot hp hs (hne hu)
  refine ⟨fun u hu => ?_, ?_, hiff, fun h u hu => ?_⟩
  · obtain ⟨hl, hn, hr⟩ := hclean hu
    refine (resolve?_eq_some_iff hf hl hn hr).2 (resolvePath?_of_mem hpath ?_)
    rw [String.toList_append]
    exact rootRelative_append hu hp.start
  · obtain ⟨hl, hn, hr⟩ := hclean (u := "") List.mem_cons_self
    rw [String.empty_append] at hl hn hr
    rw [resolve?_eq_some_iff hunder hl hn hr, resolvePath?, rootRelative_eq_self hp.start,
      find?_beq_under F hp.outside, Option.none_or, find?_belowRoot hroot, if_pos hpath]
    rfl
  · have hs : u ∈ spellings := List.mem_cons_of_mem "" hu
    exact (hiff u hu).2 ⟨notMem_of_unique (hne hu) h, isFirstMatch_of_unique hpath hp hs h⟩

def scriptBelow : FileSet := FileSet.ofList [("index.html", "<script src=./js/app.js></script>"), ("js/app.js", "run()")]

theorem resolve?_under_scriptBelow :
    (∀ u ∈ ["", "./", "/"], resolve? scriptBelow (u ++ "js/app.js") = some ⟨"js/app.js", "run()"⟩) ∧
      ∀ u ∈ ["", "./", "/"],
        resolve? (scriptBelow.under "site-1f2e") (u ++ "js/app.js") = some ⟨"site-1f2e/js/app.js", "run()"⟩ := by
  obtain ⟨hin, hplain, -, hunique⟩ := resolve?_under scriptBelow "site-1f2e" ⟨"js/app.js", "run()"⟩ (by decide +kernel)
    (by decide +kernel) (by decide +kernel)
  refine ⟨hin, fun u hu => ?_⟩
  rcases List.mem_cons.1 hu with rfl | hu
  · exact hplain
  · exact hunique (by decide +kernel) u hu

/-- A project with a sheet and another one of that name in a directory that comes first. -/
def twoSheets : FileSet := FileSet.ofList [("a/style.css", "p{}"), ("style.css", "q{}")]

/-- Below a root directory the file in the directory is taken, unless the path is spelled as it is. -/
theorem resolve?_under_ne : Nameable "site" "style.css" ∧
    resolve? twoSheets "./style.css" = some ⟨"style.css", "q{}"⟩ ∧
    resolve? twoSheets "/style.css" = some ⟨"style.css", "q{}"⟩ ∧
    resolve? (twoSheets.under "site") "./style.css" = some ⟨"site/a/style.css", "p{}"⟩ ∧
    resolve? (twoSheets.under "site") "/style.css" = some ⟨"site/a/style.css", "p{}"⟩ := by
  decide +kernel

end PageBundle.Asset
