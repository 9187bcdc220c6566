import PageBundle.Asset.Inline
import PageBundle.Proofs.FileSet.Lookup

/-! The files that nothing refers to. A style sheet or script of the project's own is left over exactly if
its content stands in none of the given texts, and these are the only files whose contents are looked at. -/

namespace PageBundle

open Asset Text

/-- Whether the file is a style sheet or a script, and not part of an installed dependency. -/
def File.isAsset (f : File) : Bool :=
  !f.isDependency && (f.hasSuffix Kind.stylesheet.suffix || f.hasSuffix Kind.script.suffix)

theorem File.isAsset_iff {f : File} :
    f.isAsset = true ↔ f.isDependency = false ∧ ∃ k : Kind, f.hasSuffix k.suffix = true := by
  rw [isAsset, Bool.and_eq_true, Bool.or_eq_true, Bool.not_eq_true']
  refine and_congr_right fun _ => ⟨?_, ?_⟩
  · rintro (h | h)
    · exact ⟨.stylesheet, h⟩
    · exact ⟨.script, h⟩
  · rintro ⟨k, h⟩
    cases k with
    | stylesheet => exact .inl h
    | script => exact .inr h

/-- An element that is written around the content of a file shows it. -/
theorem File.content_infix_between (f : File) (before after : String) :
    f.content.toList <:+: (before ++ f.content ++ after).toList := by
  rw [String.toList_append, String.toList_append]
  exact ⟨before.toList, after.toList, rfl⟩

namespace Asset

variable {F G : FileSet} {k : Kind} {texts : List String} {f : File}

/-- A file is left over if it is of the kind, belongs to the project itself, and its content stands in none of the
texts. -/
theorem mem_unconsumed : f ∈ unconsumed F k texts ↔
    (f ∈ F.toList ∧ f.hasSuffix k.suffix = true) ∧ f.isDependency = false ∧
      ∀ t ∈ texts, ¬ f.content.toList <:+: t.toList := by
  simp only [unconsumed, FileSet.withSuffix, List.mem_filter, Bool.and_eq_true, Bool.not_eq_true',
    List.any_map, List.any_eq_false, Function.comp_apply, contains_iff_isInfix]

/-- A file of the project is left over unless one of the texts has its content. -/
theorem mem_unconsumed_of_isAsset (hf : f ∈ F.toList) (ha : f.isAsset = true)
    (ht : ∀ t ∈ texts, ¬ f.content.toList <:+: t.toList) : ∃ k, f ∈ unconsumed F k texts := by
  obtain ⟨hd, k, hk⟩ := File.isAsset_iff.1 ha
  exact ⟨k, mem_unconsumed.2 ⟨⟨hf, hk⟩, hd, ht⟩⟩

theorem unconsumed_congr (hp : F.paths = G.paths)
    (h : ∀ f ∈ F.toList, f.isAsset = true → F.get? f.path = G.get? f.path) (k : Kind) (texts : List String) :
    unconsumed F k texts = unconsumed G k texts := by
  -- What does not hang on contents is done first: the files of the kind that are the project's own.
  have split : ∀ s : FileSet, unconsumed s k texts =
      (s.toList.filter fun f => !(⟨f.path, ""⟩ : File).isDependency &&
        (⟨f.path, ""⟩ : File).hasSuffix k.suffix).filter fun f =>
          !((texts.map String.toList).any fun t => contains t f.content.toList) := by
    intro s
    rw [unconsumed, FileSet.withSuffix, List.filter_filter, List.filter_filter]
    refine List.filter_congr fun f _ => ?_
    change (!f.isDependency && _ && f.hasSuffix k.suffix) = (_ && (!f.isDependency && f.hasSuffix k.suffix))
    ac_rfl
  rw [split F, split G]
  refine congrArg (List.filter _) (FileSet.toList_filter_congr hp
    (q := fun p => !(⟨p, ""⟩ : File).isDependency && (⟨p, ""⟩ : File).hasSuffix k.suffix) ?_)
  intro f hf hq
  obtain ⟨hd, hk⟩ := Bool.and_eq_true_iff.1 hq
  rw [Bool.not_eq_true'] at hd
  exact h f hf (File.isAsset_iff.2 ⟨hd, k, hk⟩)

end Asset

end PageBundle
