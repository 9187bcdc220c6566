import PageBundle.Proofs.Asset.Log
import PageBundle.Proofs.Asset.Unconsumed
import PageBundle.Proofs.Bundle.Basic

/-! What a bundle depends on. Of the contents in a set only those of the entry page, of the files that the log
names, of the project's own style sheets and scripts and of its manifest count: another set with the same
paths that agrees on these has the same bundle. Which files the log names comes out during the run itself, so
the two runs are compared step by step: equal texts make equal references, these lead to equal paths, and the
files there are equal because the log names them. -/

namespace PageBundle
open Asset Markup

/-- The paths whose contents a bundle with the given log depends on: that of the entry page, those that the log
names, those of the project's own style sheets and scripts, and that of its manifest. -/
def relevantPaths (F : FileSet) (log : List Resolved) : List String :=
  (Entry.select? F).toList ++ log.filterMap Resolved.path ++ (F.toList.filter File.isAsset).map File.path ++
    ((ProjectKind.manifest? F).map File.path).toList

/-- Whether two sets have the same content at every path that a bundle of the first depends on. -/
structure Agree (F G : FileSet) (log : List Resolved) : Prop where
  entry : ∀ p, Entry.select? F = some p → F.get? p = G.get? p
  named : AgreeOn F G log
  asset : ∀ f ∈ F.toList, f.isAsset = true → F.get? f.path = G.get? f.path
  manifest : ∀ f, ProjectKind.manifest? F = some f → F.get? f.path = G.get? f.path

variable {F G : FileSet} {opts : BundleOptions}

theorem agree_of_relevantPaths {log : List Resolved} (h : ∀ p ∈ relevantPaths F log, F.get? p = G.get? p) :
    Agree F G log := by
  simp only [relevantPaths, List.mem_append, Option.mem_toList, List.mem_filterMap, List.mem_map,
    List.mem_filter, Option.map_eq_some_iff] at h
  constructor
  · intro p hp
    exact h p (.inl (.inl (.inl hp)))
  · intro a ha p hp
    exact h p (.inl (.inl (.inr ⟨a, ha, hp⟩)))
  · intro f hf ha
    exact h _ (.inl (.inr ⟨f, ⟨hf, ha⟩, rfl⟩))
  · intro f hf
    exact h _ (.inr ⟨f, hf, rfl⟩)

theorem select?_congr (hp : F.paths = G.paths) : Entry.select? F = Entry.select? G := by
  rw [Entry.select?, Entry.select?, hp]

/-- The manifest is found by paths alone, so only its own content matters. -/
theorem manifest?_congr (hp : F.paths = G.paths)
    (h : ∀ f, ProjectKind.manifest? F = some f → F.get? f.path = G.get? f.path) :
    ProjectKind.manifest? F = ProjectKind.manifest? G :=
  FileSet.toList_find?_congr hp
    (q := fun p => (⟨p, ""⟩ : File).hasSuffix "package.json" && !(⟨p, ""⟩ : File).isDependency) h

theorem detect_congr (hp : F.paths = G.paths)
    (h : ∀ f, ProjectKind.manifest? F = some f → F.get? f.path = G.get? f.path) :
    ProjectKind.detect F = ProjectKind.detect G := by
  unfold ProjectKind.detect ProjectKind.ofPaths ProjectKind.somePathHas
  rw [manifest?_congr hp h, hp]

theorem inlinedHead_congr (hp : F.paths = G.paths) {page : String}
    (h : AgreeOn F G (inlinedBody F page).log) : inlinedHead F page = inlinedHead G page := by
  refine inlineAssets_congr hp (h.mono fun a ha => ?_)
  rw [inlinedBody, log_inlineAssets]
  exact List.mem_append_left _ ha

/-- Inlining asks for no content but that of the files it logs. -/
theorem inlinedBody_congr (hp : F.paths = G.paths) {page : String}
    (h : AgreeOn F G (inlinedBody F page).log) : inlinedBody F page = inlinedBody G page := by
  unfold inlinedBody
  rw [← inlinedHead_congr hp h]
  exact inlineAssets_congr hp h

theorem entryParts_congr (hp : F.paths = G.paths) {page : String}
    (hl : AgreeOn F G (inlinedBody F page).log)
    (ha : ∀ f ∈ F.toList, f.isAsset = true → F.get? f.path = G.get? f.path) :
    entryParts F opts page = entryParts G opts page := by
  unfold entryParts inlinedTexts
  rw [← inlinedHead_congr hp hl, ← inlinedBody_congr hp hl, unconsumed_congr hp ha, unconsumed_congr hp ha]

/-- Sets that agree on all that a bundle depends on have the same bundle. -/
theorem bundleFull_congr (hp : F.paths = G.paths) (h : Agree F G (bundleFull F opts).assets) :
    bundleFull F opts = bundleFull G opts := by
  have hk : ProjectKind.detect F = ProjectKind.detect G := detect_congr hp h.manifest
  cases he : Entry.select? F with
  | none =>
    rw [bundleFull_of_select?_none he, bundleFull_of_select?_none (select?_congr hp ▸ he), ← hk]
    unfold bundleSynthetic
    rw [unconsumed_congr hp h.asset, unconsumed_congr hp h.asset]
  | some entry =>
    obtain ⟨page, hF⟩ := exists_get?_of_select? he
    have hG : G.get? entry = some page := (h.entry entry he).symm.trans hF
    have hl : AgreeOn F G (inlinedBody F page).log := by
      have hn := h.named
      rwa [bundleFull_of_select? he hF] at hn
    rw [bundleFull_of_select? he hF, bundleFull_of_select? (select?_congr hp ▸ he) hG,
      ← entryParts_congr hp hl h.asset, ← inlinedBody_congr hp hl, hk]

/-- A set that is not empty has a bundle, and every set with the same paths that agrees with it on the
relevant contents has this very bundle. -/
theorem bundle_eq_of_agree (F : FileSet) (opts : BundleOptions) (hF : F.isEmpty = false) :
    ∃ b, bundle F opts = .ok b ∧
      ∀ G : FileSet, F.paths = G.paths → (∀ p ∈ relevantPaths F b.assets, F.get? p = G.get? p) →
        bundle G opts = .ok b := by
  refine ⟨finish opts (bundleFull F opts), bundle_eq_ok hF, fun G hp h => ?_⟩
  rw [finish_assets] at h
  have hfull : bundleFull F opts = bundleFull G opts := bundleFull_congr hp (agree_of_relevantPaths h)
  rw [bundle_eq_ok (FileSet.isEmpty_congr hp ▸ hF), hfull]

/-- A site with a page, a sheet, a script, a manifest, notes and an installed library. -/
def siteWithNotes (notes library : String) : FileSet :=
  FileSet.ofList [("app/index.html", "<link rel=stylesheet href=a.css><script src=b.js></script>"),
    ("app/a.css", "ul > li { margin: 0 }"), ("app/b.js", "start()"), ("app/package.json", "{}"),
    ("app/notes.txt", notes), ("app/node_modules/library.js", library)]

/-- Neither the notes nor the library have a say. -/
theorem bundle_eq_of_agree_siteWithNotes : ∃ b, bundle (siteWithNotes "To do" "f()") {} = .ok b ∧
    bundle (siteWithNotes "Done" "<script src=b.js></script>") {} = .ok b := by
  obtain ⟨b, hb, h⟩ := bundle_eq_of_agree (siteWithNotes "To do" "f()") {} (by decide +kernel)
  have hlog : b.assets = (bundleFull (siteWithNotes "To do" "f()") {}).assets := by
    rw [bundle_eq_ok (by decide +kernel)] at hb
    rw [← Except.ok.inj hb, finish_assets]
  rw [hlog] at h
  exact ⟨b, hb, h _ (by decide +kernel) (by decide +kernel)⟩

end PageBundle
