import PageBundle.Proofs.FileSet.Insert
import PageBundle.Proofs.Source.Walk

/-! What a directory is read into. Of the files met on the walk through it those that are text are put in, each at the
path that its names make. Names have no slash, so a path gives back its names and no two files come to stand at the same
path; the files of the set are the text files of the tree, in the order of the walk. -/

namespace PageBundle

open Text

namespace Disk

variable {d : Disk} {path : String} {place : List String}

theorem resolve_eq_ok {n : Node} (h : (d.resolve true path).map Spot.place = .ok place) (hn : d.node? place = some n) :
    d.resolve true path = .ok ⟨place, some n⟩ := by
  cases hr : d.resolve true path with
  | error why =>
    rw [hr] at h
    cases h
  | ok spot =>
    rw [hr] at h
    obtain rfl : spot.place = place := Except.ok.inj h
    have hreached := reached_of_followLinks ((resolve_eq_followLinks hr d).symm.trans hr)
    rw [hreached.node_eq] at hn
    rw [← hn]

end Disk

theorem Path.steps_intercalate {names : List String} (hne : names ≠ []) (h : ∀ name ∈ names, '/' ∉ name.toList) :
    steps ("/".intercalate names) = names := by
  have hslash : "/".toList = ['/'] := by decide
  have hne : names.map String.toList ≠ [] := by simpa using hne
  rw [steps, String.toList_intercalate, hslash, List.splitOn_intercalate '/' (by simpa using h) hne, List.map_map]
  simp [Function.comp_def]

namespace Source

variable {d : Disk} {path : String} {place : List String} {entries : List (String × Node)} {found : List Found}

/-- A directory whose files can all be had is read into the set of its texts. -/
theorem readDirectory_eq (hd : d.resolve true path = .ok ⟨place, some (.directory entries)⟩)
    (hroot : isMetadata d path = false) (hopens : d.Opens place (.directory entries))
    (hproper : (Node.directory entries).Proper) (hl : (Node.directory entries).Lists found) :
    readDirectory d path = .ok (collect found) := by
  rw [(Node.lists_walk hproper).eq_of_same hl fun _ _ => Iff.rfl, readDirectory, hd]
  dsimp only
  rw [hroot]
  exact readSteps_visits_eq_ok_iff.2 ⟨(opens_iff hproper).1 hopens, rfl⟩

theorem steps_of_textFile? (hproper : (Node.directory entries).Proper) (hl : (Node.directory entries).Lists found)
    {f : Found} {x : String × String} (hf : f ∈ found) (hx : textFile? f = some x) : Path.steps x.1 = f.names := by
  obtain ⟨text, -, rfl⟩ := Option.map_eq_some_iff.1 hx
  obtain ⟨hget, -⟩ := (hl.mem_iff f).1 hf
  refine Path.steps_intercalate ?_ (hproper.slash_notMem hget)
  intro hnil
  rw [hnil] at hget
  cases hget

/-- The paths that are collected come in the order of their parts. -/
theorem pairwise_entries (hproper : (Node.directory entries).Proper) (hl : (Node.directory entries).Lists found) :
    (found.filterMap textFile?).Pairwise fun x y => (Path.steps x.1).map utf8 < (Path.steps y.1).map utf8 := by
  rw [List.pairwise_filterMap]
  refine hl.sorted.imp_of_mem fun hf hg hlt x hx y hy => ?_
  rwa [steps_of_textFile? hproper hl hf hx, steps_of_textFile? hproper hl hg hy]

theorem toList_collect (hproper : (Node.directory entries).Proper) (hl : (Node.directory entries).Lists found) :
    (collect found).toList = (found.filterMap textFile?).map fun x => ⟨x.1, x.2⟩ := by
  have hnodup : ((found.filterMap textFile?).map Prod.fst).Nodup := by
    refine List.pairwise_map.2 ((pairwise_entries hproper hl).imp ?_)
    intro x y hlt he
    rw [he] at hlt
    exact List.lt_irrefl _ hlt
  rw [collect, FileSet.toList_ofList hnodup]

/-- A directory that is not one of version control is read, whatever is in it, if the system refuses nothing that is met
there. What is read are its files that are text, each once, under the names that lead to them and without a byte order
mark, in the order of the bytes of these names. It is the same for every directory with the same files in it, whatever
the order of its entries. -/
theorem readDirectory_isWalk (hd : d.resolve true path = .ok ⟨place, some (.directory entries)⟩)
    (hroot : isMetadata d path = false) (hopens : d.Opens place (.directory entries))
    (hproper : (Node.directory entries).Proper) :
    ∃ files, readDirectory d path = .ok files ∧
      (∀ f, f ∈ files.toList ↔ ∃ names content text, (Node.directory entries).HasFile names content ∧
        String.fromUTF8? content = some text ∧ f = ⟨"/".intercalate names, withoutMark text⟩) ∧
      (files.paths.Pairwise fun p q => (Path.steps p).map utf8 < (Path.steps q).map utf8) ∧
      ∀ d' path' place' entries', d'.resolve true path' = .ok ⟨place', some (.directory entries')⟩ →
        isMetadata d' path' = false → d'.Opens place' (.directory entries') → (Node.directory entries').Proper →
        (∀ names content, (Node.directory entries').HasFile names content ↔
          (Node.directory entries).HasFile names content) →
        readDirectory d' path' = .ok files := by
  have hl := Node.lists_walk hproper
  refine ⟨_, readDirectory_eq hd hroot hopens hproper hl, ?_, ?_, ?_⟩
  · intro f
    rw [toList_collect hproper hl, List.mem_map]
    simp only [List.mem_filterMap, hl.mem_iff, textFile?, Option.map_eq_some_iff]
    constructor
    · rintro ⟨x, ⟨g, hg, text, ht, rfl⟩, rfl⟩
      exact ⟨g.names, g.content, text, hg, ht, rfl⟩
    · rintro ⟨names, content, text, hg, ht, rfl⟩
      exact ⟨_, ⟨⟨names, content⟩, hg, text, ht, rfl⟩, rfl⟩
  · rw [FileSet.paths, toList_collect hproper hl, List.map_map]
    exact List.pairwise_map.2 (pairwise_entries hproper hl)
  · intro d' path' place' entries' hd' hroot' hopens' hproper' hsame
    have hl' := Node.lists_walk hproper'
    rw [readDirectory_eq hd' hroot' hopens' hproper' hl', hl.eq_of_same hl' hsame]

/-- A directory with a file that has a byte order mark, one that is no text, a link, the data of version control, and
names whose order is not that of the paths that they make. -/
def siteEntries : List (String × Node) := [
  ("z.css", .file "p{}".toUTF8),
  (".git", .directory [("HEAD", .file "ref".toUTF8)]),
  ("a.css", .file [0xEF, 0xBB, 0xBF, 97].toByteArray),
  ("link", .link "a"),
  ("a", .directory [("x.js", .file "x()".toUTF8), ("logo.png", .file [0xFF].toByteArray), (".git", .file "up".toUTF8)]),
  ("a-b", .directory [("y.js", .file "y()".toUTF8)])]

theorem proper_siteEntries : (Node.directory siteEntries).Proper := by
  refine .directory (by decide +kernel) (by decide +kernel) ?_
  simp only [siteEntries, List.forall_mem_cons, List.not_mem_nil, false_imp_iff, implies_true, and_true]
  refine ⟨.file _, .directory (by decide +kernel) (by decide +kernel) ?_, .file _, .link _,
    .directory (by decide +kernel) (by decide +kernel) ?_, .directory (by decide +kernel) (by decide +kernel) ?_⟩
  · simp [Node.Proper.file]
  · simp [Node.Proper.file]
  · simp [Node.Proper.file]

/-- A file system with the directory and with a link that leads to it. It refuses all writing, and whatever one might want
of the data of version control. -/
def siteDisk (entries : List (String × Node)) : Disk where
  root := .directory [("home", .directory [("site", .directory entries)]), ("latest", .link "home/./site")]
  working := []
  refusal? access place :=
    if access = .write ∨ ["home", "site", Node.metadataName] <+: place then some .denied else none

theorem opens_siteDisk {l : List (String × Node)}
    (hl : ∃ data, (Node.directory l).get? [Node.metadataName] = some (.directory data)) :
    (siteDisk entries).Opens ["home", "site"] (.directory l) := by
  obtain ⟨data, hl⟩ := hl
  intro names m hr _
  have hfront : ¬ [Node.metadataName] <+: names := by
    rintro ⟨rest, rfl⟩
    obtain ⟨hget, hm⟩ := hr
    cases rest with
    | nil =>
      rw [List.append_nil, hl] at hget
      cases hget
      exact hm (List.mem_singleton_self _)
    | cons name rest =>
      split at hm
      · exact hm List.mem_cons_self
      · exact hm List.mem_cons_self
  have hfree : ∀ before, before <+: names → ∀ access, access ≠ .write →
      (siteDisk entries).refusal? access (["home", "site"] ++ before) = none := by
    intro before hb access haccess
    refine if_neg (not_or.2 ⟨haccess, fun hp => hfront (.trans ?_ hb)⟩)
    exact (List.prefix_append_right_inj ["home", "site"]).1 hp
  exact ⟨fun before hb _ => hfree before hb .search nofun, hfree names (List.prefix_refl _) .read nofun⟩

/-- The directory is read through the link, and read the same if its entries are kept in the opposite order. -/
theorem readDirectory_isWalk_siteEntries :
    ∃ files, readDirectory (siteDisk siteEntries) "latest" = .ok files ∧ ⟨"a.css", "a"⟩ ∈ files.toList ∧
      (files.paths.Pairwise fun p q => (Path.steps p).map utf8 < (Path.steps q).map utf8) ∧
      readDirectory (siteDisk siteEntries.reverse) "home/site" = .ok files := by
  have hplace : ((siteDisk siteEntries).resolve true "latest").map Spot.place = .ok ["home", "site"] := by
    decide +kernel
  have hplace' : ((siteDisk siteEntries.reverse).resolve true "home/site").map Spot.place = .ok ["home", "site"] := by
    decide +kernel
  have hperm := siteEntries.reverse_perm
  have hproper' : (Node.directory siteEntries.reverse).Proper := by
    cases proper_siteEntries with
    | directory distinct names children =>
      exact .directory ((hperm.map Prod.fst).nodup_iff.2 distinct) (fun e he => names e (hperm.mem_iff.1 he))
        fun e he => children e (hperm.mem_iff.1 he)
  obtain ⟨files, hread, hmem, hsorted, hsame⟩ := readDirectory_isWalk (Disk.resolve_eq_ok hplace rfl)
    (by decide +kernel) (opens_siteDisk ⟨_, rfl⟩) proper_siteEntries
  refine ⟨files, hread, (hmem _).2 ⟨["a.css"], _, "\uFEFFa", ⟨rfl, by decide⟩, ?_, ?_⟩, hsorted, ?_⟩
  · decide +kernel
  · decide +kernel
  · exact hsame _ _ _ _ (Disk.resolve_eq_ok hplace' rfl) (by decide +kernel) (opens_siteDisk ⟨_, rfl⟩) hproper'
      fun names content => Node.hasFile_directory_perm hperm (by decide +kernel)

end Source

end PageBundle
