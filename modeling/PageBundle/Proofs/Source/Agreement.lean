import PageBundle.Proofs.Archive.Budget
import PageBundle.Proofs.Build.Phases
import PageBundle.Proofs.Source.Directory

/-! A directory and an archive of it are the same project. Both readers leave out what is no text and take the byte order
mark away, and an archive that has the files in the order of the walk has them put in in the same order; so the sets are
equal, and all that is made of them is. -/

namespace PageBundle

theorem mem_intercalate {sep : List Char} {l : List (List Char)} {c : Char} (h : c ∈ sep.intercalate l) :
    c ∈ sep ∨ ∃ x ∈ l, c ∈ x := by
  induction l with
  | nil => simp at h
  | cons x l ih =>
    cases l with
    | nil => exact .inr ⟨x, List.mem_cons_self, by simpa using h⟩
    | cons y l =>
      rw [List.intercalate_cons_cons, List.mem_append, List.mem_append] at h
      rcases h with (h | h) | h
      · exact .inr ⟨x, List.mem_cons_self, h⟩
      · exact .inl h
      · exact (ih h).imp_right fun ⟨z, hz, hc⟩ => ⟨z, List.mem_cons_of_mem x hz, hc⟩

/-- A file that is a text, with the text. -/
def textAt? (x : String × ByteArray) : Option (String × String) :=
  (String.fromUTF8? x.2).map fun text => (x.1, withoutMark text)

namespace Source

/-- The files met on a walk: their paths and their bytes. -/
def files (found : List Found) : List (String × ByteArray) := found.map fun f => ("/".intercalate f.names, f.content)

/-- A walk collects the texts among the files that it meets. -/
theorem collect_eq_textAt (found : List Found) : collect found = .ofList ((files found).filterMap textAt?) := by
  rw [collect, files, List.filterMap_map]
  rfl

end Source

namespace Archive

variable {l : List Content}

/-- The files among some members: their names and their bytes. -/
def files (l : List Content) : List (String × ByteArray) :=
  (l.filter fun c => !c.isDirectory).map fun c => (c.name, c.bytes)

theorem slashed_eq_self {s : List Char} (h : '\\' ∉ s) : slashed s = s := by
  induction s with
  | nil => rfl
  | cons c s ih =>
    rw [List.mem_cons, not_or] at h
    rw [slashed, ih h.2]
    exact fun hc => h.1 hc.symm

theorem Content.path_eq_self {c : Content} (h : '\\' ∉ c.name.toList) : c.path = c.name := by
  rw [path, slashed_eq_self h, String.ofList_toList]

theorem weight_eq_sum (l : List Content) : weight l = ((files l).map fun x => x.2.size).sum := by
  induction l with
  | nil => rfl
  | cons c l ih =>
    rw [weight_cons, ih, files, files, List.filter_cons]
    cases hd : c.isDirectory <;> simp [Content.weight, hd]

theorem filterMap_entry? (h : ∀ x ∈ files l, '\\' ∉ x.1.toList) :
    l.filterMap Content.entry? = (files l).filterMap textAt? := by
  induction l with
  | nil => rfl
  | cons c l ih =>
    rw [files, List.filter_cons] at h ⊢
    cases hd : c.isDirectory with
    | true =>
      simp only [hd, Bool.not_true, Bool.false_eq_true, if_false] at h ⊢
      rw [List.filterMap_cons, Content.entry?, hd, ← files, ← ih h]
      rfl
    | false =>
      simp only [hd, Bool.not_false, if_true, List.map_cons, List.forall_mem_cons] at h ⊢
      rw [List.filterMap_cons, List.filterMap_cons, Content.entry?, hd, Content.path_eq_self h.1, ← files, ← ih h.2]
      rfl

/-- An archive gives the texts among its members, if no name has a backslash. -/
theorem insertAll_empty_eq (h : ∀ x ∈ files l, '\\' ∉ x.1.toList) :
    insertAll .empty l = .ofList ((files l).filterMap textAt?) := by
  rw [insertAll, filterMap_entry? h, FileSet.ofList]

end Archive

namespace Source

variable {w w' : World} {opts : BuildOptions} {s t : Source} {set : FileSet}

/-- Projects are built from their files alone, wherever these come from. -/
theorem result_build_congr (hmake : s.make = t.make)
    (h : (s.read w opts.hosting).result = (t.read w' opts.hosting).result) :
    (build w opts s).result = (build w' opts t).result := by
  rw [build_result, build_result, draft, draft, collectFiles, collectFiles, h, hmake]

theorem result_inspect_congr (h : (s.read w opts.hosting).result = (t.read w' opts.hosting).result) :
    (inspect w opts s).result = (inspect w' opts t).result := by
  rw [inspect, inspect, h]

/-- An archive with the files of a directory in the order of the walk through it is read into the set that the directory
is read into, whatever directories are among its members, and the documents built from the two are equal. The system
must let all of the directory be read, the files have to fit into the budget of an archive, and no name may hold a
backslash, which separates names in an archive. -/
theorem readArchive_eq_readDirectory {path : String} {place : List String} {entries : List (String × Node)}
    {found : List Found} {l : List Archive.Content}
    (hd : w.disk.resolve true path = .ok ⟨place, some (.directory entries)⟩)
    (hroot : isMetadata w.disk path = false) (hopens : w.disk.Opens place (.directory entries))
    (hproper : (Node.directory entries).Proper)
    (hl : (Node.directory entries).Lists found) (hnames : ∀ f ∈ found, ∀ name ∈ f.names, '\\' ∉ name.toList)
    (hsize : (found.map fun f => f.content.size).sum ≤ Archive.maxBytes) (hsame : Archive.files l = files found) :
    ∃ set, readDirectory w.disk path = .ok set ∧
      (∀ ms, List.Forall₂ Archive.Member.Tells ms l → Archive.collect Archive.maxBytes ms = .ok set) ∧
      ∀ b, Archive.contents? b = some l → Archive.read b = .ok set ∧
        ∀ w' archive opts, w'.disk.readFile archive = .ok b →
          (build w' opts (.archive archive)).result = (build w opts (.directory path)).result ∧
          (inspect w' opts (.archive archive)).result = (inspect w opts (.directory path)).result := by
  have hread := readDirectory_eq hd hroot hopens hproper hl
  have hslash : ∀ x ∈ Archive.files l, '\\' ∉ x.1.toList := by
    rw [hsame]
    intro x hx hc
    obtain ⟨f, hf, rfl⟩ := List.mem_map.1 hx
    rw [String.toList_intercalate] at hc
    rcases mem_intercalate hc with hc | ⟨_, hs, hc⟩
    · exact absurd hc (by decide)
    · obtain ⟨name, hname, rfl⟩ := List.mem_map.1 hs
      exact hnames f hf name hname hc
  have hweight : Archive.weight l ≤ Archive.maxBytes := by
    rwa [Archive.weight_eq_sum, hsame, files, List.map_map]
  have hcollect : ∀ ms, List.Forall₂ Archive.Member.Tells ms l →
      Archive.collect Archive.maxBytes ms = .ok (collect found) := by
    intro ms hms
    rw [Archive.collect_of_le hms hweight, Archive.insertAll_empty_eq hslash, hsame, collect_eq_textAt]
  refine ⟨_, hread, hcollect, fun b hb => ?_⟩
  have hzip : Archive.read b = .ok (collect found) := by
    obtain ⟨rs, hrs, hms⟩ := Archive.exists_tells_of_contents? hb
    rw [Archive.read, Archive.readCapped, hrs]
    dsimp only
    rw [hcollect _ hms]
    rfl
  refine ⟨hzip, fun w' archive opts hfile => ?_⟩
  have hsets : (Source.read w' opts.hosting (.archive archive)).result =
      (Source.read w opts.hosting (.directory path)).result := by
    rw [Source.read, Source.read, hread, readArchive, hfile]
    exact hzip
  exact ⟨result_build_congr rfl hsets, result_inspect_congr hsets⟩

section Pack

open Archive

def packedEntries : List (String × Node) := [
  ("a", .directory [("x.js", .file [120].toByteArray)]),
  ("b.css", .file [0xEF, 0xBB, 0xBF, 98].toByteArray),
  ("c.png", .file [0xFE].toByteArray)]

/-- An archive of it that has a member for the directory as well. -/
def packedSite : ByteArray := pack [
  ⟨"a/", 0, [], []⟩,
  ⟨"a/x.js", 0, [120], [120]⟩,
  ⟨"b.css", 0, [0xEF, 0xBB, 0xBF, 98], [0xEF, 0xBB, 0xBF, 98]⟩,
  ⟨"c.png", 0, [0xFE], [0xFE]⟩]

theorem size_empty_le : ByteArray.empty.size ≤ maxCount := by decide

def packedContents : List Content := [
  ⟨"a/", true, .empty, size_empty_le⟩,
  ⟨"a/x.js", false, [120].toByteArray, by decide⟩,
  ⟨"b.css", false, [0xEF, 0xBB, 0xBF, 98].toByteArray, by decide⟩,
  ⟨"c.png", false, [0xFE].toByteArray, by decide⟩]

def packedDisk : Disk where
  root := .directory [("site", .directory packedEntries), ("site.zip", .file packedSite)]
  working := []

theorem proper_packedEntries : (Node.directory packedEntries).Proper := by
  refine .directory (by decide +kernel) (by decide +kernel) ?_
  simp only [packedEntries, List.forall_mem_cons, List.not_mem_nil, false_imp_iff, implies_true, and_true]
  refine ⟨.directory (by decide +kernel) (by decide +kernel) ?_, .file _, .file _⟩
  simp [Node.Proper.file]

theorem walk_packedEntries : (Node.directory packedEntries).walk = [
    ⟨["a", "x.js"], [120].toByteArray⟩, ⟨["b.css"], [0xEF, 0xBB, 0xBF, 98].toByteArray⟩,
    ⟨["c.png"], [0xFE].toByteArray⟩] := by
  cbv

/-- The directory and the archive beside it hold the same project. -/
theorem readArchive_eq_readDirectory_packedSite :
    ∃ set, readDirectory packedDisk "site" = .ok set ∧ Archive.read packedSite = .ok set ∧
      ∀ opts, (build { disk := packedDisk } opts (.archive "site.zip")).result =
        (build { disk := packedDisk } opts (.directory "site")).result := by
  have hplace : (packedDisk.resolve true "site").map Spot.place = .ok ["site"] := by decide +kernel
  have hplace' : (packedDisk.resolve true "site.zip").map Spot.place = .ok ["site.zip"] := by decide +kernel
  have hfile : packedDisk.readFile "site.zip" = .ok packedSite :=
    Disk.readFile_of_resolve (Disk.resolve_eq_ok hplace' rfl) rfl
  have hopens : packedDisk.Opens ["site"] (.directory packedEntries) := fun _ _ _ _ => ⟨fun _ _ _ => rfl, rfl⟩
  have hl := Node.lists_walk proper_packedEntries
  rw [walk_packedEntries] at hl
  have hb : contents? packedSite = some packedContents := by decide +kernel
  obtain ⟨set, hread, -, harchive⟩ := readArchive_eq_readDirectory (w := { disk := packedDisk }) (l := packedContents)
    (Disk.resolve_eq_ok hplace rfl) (by decide +kernel) hopens proper_packedEntries hl (by decide +kernel)
    (by decide +kernel) (by decide +kernel)
  obtain ⟨hzip, hbuild⟩ := harchive packedSite hb
  exact ⟨set, hread, hzip, fun opts => (hbuild _ "site.zip" opts hfile).1⟩

end Pack

end Source

end PageBundle
