import PageBundle.Project
import PageBundle.Proofs.FileSet.Insert

/-! What a manifest that is not JSON does to the kind of a project. Only the first manifest of a set is ever read. If that one
is broken the paths decide, whatever the manifests behind it say, so such a file is ignored exactly if it is not the first
one or the next one would tell nothing else than the paths. -/

namespace PageBundle.ProjectKind

variable {F : FileSet} {f g : File} {text : String} {k : ProjectKind}

/-- Whether a file is a manifest of the project itself that is not JSON, with no framework's configuration in its path. -/
structure IsBroken (f : File) : Prop where
  isManifest : f.hasSuffix "package.json" = true
  isOwn : f.isDependency = false
  noNext : ¬ "next.config".toList <:+: f.path.toList
  noVite : ¬ "vite.config".toList <:+: f.path.toList
  notJson : Json.parse? f.content = none

theorem ofManifest?_eq_none (h : Json.parse? f.content = none) : ofManifest? f.content = none := by
  rw [ofManifest?, h]
  rfl

theorem somePathHas_iff : somePathHas F text = true ↔ ∃ g ∈ F.toList, text.toList <:+: g.path.toList := by
  simp only [somePathHas, FileSet.paths, List.any_map, List.any_eq_true, Function.comp_apply, Text.contains_iff_isInfix]

/-- Leaving a file out does not matter to a text that is not in its path. -/
theorem somePathHas_without (h : ¬ text.toList <:+: f.path.toList) :
    somePathHas (F.without f.path) text = somePathHas F text := by
  rw [Bool.eq_iff_iff, somePathHas_iff, somePathHas_iff]
  simp only [FileSet.toList_without, List.mem_filter]
  constructor
  · rintro ⟨g, ⟨hg, -⟩, hi⟩
    exact ⟨g, hg, hi⟩
  · rintro ⟨g, hg, hi⟩
    exact ⟨g, ⟨hg, decide_eq_true fun he => h (he ▸ hi)⟩, hi⟩

/-- The path of a broken manifest tells no kind of project. -/
theorem IsBroken.ofPaths_without (h : IsBroken f) : ofPaths (F.without f.path) = ofPaths F := by
  rw [ofPaths, ofPaths, somePathHas_without h.noNext, somePathHas_without h.noVite]

/-- Without another file the first manifest is the same. -/
theorem manifest?_without (hf : f ∈ F.toList) (hne : manifest? F ≠ some f) :
    manifest? (F.without f.path) = manifest? F := by
  cases hm : manifest? F with
  | none =>
    refine List.find?_eq_none.2 fun g hg => ?_
    rw [FileSet.toList_without] at hg
    exact List.find?_eq_none.1 hm g (List.mem_of_mem_filter hg)
  | some g =>
    have hpath : g.path ≠ f.path := by
      intro he
      rw [hm, FileSet.eq_of_path (List.mem_of_find?_eq_some hm) hf he] at hne
      exact hne rfl
    obtain ⟨hg, before, after, hl, hb⟩ := List.find?_eq_some_iff_append.1 hm
    refine List.find?_eq_some_iff_append.2 ⟨hg, before.filter fun f' => f'.path ≠ f.path,
      after.filter fun f' => f'.path ≠ f.path, ?_, fun b hb' => hb b (List.mem_of_mem_filter hb')⟩
    rw [FileSet.toList_without, hl, List.filter_append, List.filter_cons, if_pos (decide_eq_true hpath)]

/-- The paths decide if the first manifest is broken. -/
theorem IsBroken.detect_eq (h : IsBroken f) (hm : manifest? F = some f) : detect F = ofPaths F := by
  rw [detect, hm, Option.bind_some, ofManifest?_eq_none h.notJson, Option.getD_none]

/-- A kind that comes from a manifest or else from the paths is that of the paths exactly if no manifest tells another. -/
theorem getD_eq_self_iff {m : Option File} {kind : ProjectKind} : (m.bind fun f => ofManifest? f.content).getD kind = kind ↔
    ∀ g k, m = some g → ofManifest? g.content = some k → k = kind := by
  constructor
  · rintro h g k rfl hk
    rwa [Option.bind_some, hk, Option.getD_some] at h
  · intro h
    cases hb : m.bind fun f => ofManifest? f.content with
    | none => rfl
    | some k =>
      obtain ⟨g, hg, hk⟩ := Option.bind_eq_some_iff.1 hb
      exact h g k hg hk

/-- A broken manifest is ignored exactly if it is not the first one of the set, or if the one that is the first without it
tells no other kind than the paths do. If it is the first one the paths decide. -/
theorem detect_without_eq_iff (hf : f ∈ F.toList) (h : IsBroken f) :
    (manifest? F = some f → detect F = ofPaths F) ∧
    (detect F = detect (F.without f.path) ↔
      (manifest? F = some f → ∀ g k, manifest? (F.without f.path) = some g → ofManifest? g.content = some k →
        k = ofPaths F)) := by
  refine ⟨h.detect_eq, ?_⟩
  by_cases hm : manifest? F = some f
  · rw [h.detect_eq hm, detect, h.ofPaths_without, eq_comm, getD_eq_self_iff]
    exact ⟨fun hk _ => hk, fun hk => hk hm⟩
  · rw [detect, detect, manifest?_without hf hm, h.ofPaths_without]
    exact ⟨fun _ hm' => absurd hm' hm, fun _ => rfl⟩

def brokenBehind : FileSet := .ofList [
  ("web/package.json", "\x7b\"dependencies\": \x7b\"vue\": \"3\"\x7d\x7d"), ("web/old/package.json", "\x7bnot json")]

theorem detect_without_eq_iff_brokenBehind : detect brokenBehind = detect (brokenBehind.without "web/old/package.json") := by
  have hf : (⟨"web/old/package.json", "\x7bnot json"⟩ : File) ∈ brokenBehind.toList := by decide +kernel
  have hfirst : manifest? brokenBehind ≠ some ⟨"web/old/package.json", "\x7bnot json"⟩ := by decide +kernel
  have hbroken : IsBroken ⟨"web/old/package.json", "\x7bnot json"⟩ :=
    ⟨by decide +kernel, by decide +kernel, by decide +kernel, by decide +kernel, by decide +kernel⟩
  exact (detect_without_eq_iff hf hbroken).2.2 fun hm => absurd hm hfirst

def brokenFirst : FileSet := .ofList [
  ("package.json", "\x7bnot json"), ("app/package.json", "\x7b\"dependencies\":\x7b\"react\":\"18\"\x7d\x7d")]

/-- The second manifest is not read, though it is without the first one. -/
theorem detect_ne_without_brokenFirst : IsBroken ⟨"package.json", "\x7bnot json"⟩ ∧
    (⟨"package.json", "\x7bnot json"⟩ : File) ∈ brokenFirst.toList ∧
    detect brokenFirst = .static ∧ detect (brokenFirst.without "package.json") = .react := by
  refine ⟨⟨?_, ?_, ?_, ?_, ?_⟩, ?_, ?_, ?_⟩ <;> decide +kernel

end PageBundle.ProjectKind
