import PageBundle.Proofs.Asset.Log

/-! References that name no file. Where nothing is put in, each part of a text is written as it stands, so the text comes
out as it was; the search for scripts then runs on the very text that the search for links ran on, and the log grows by
the references that a search beforehand finds. The tags need not be well formed. -/

namespace PageBundle.Asset

open Text Markup

variable {F : FileSet} {s : List Char}

/-- Whether none of some references names a file. -/
def Dangling (F : FileSet) (l : List Reference) : Prop := ∀ r ∈ l, resolve? F r.locator = none

instance (F : FileSet) (l : List Reference) : Decidable (Dangling F l) :=
  inferInstanceAs (Decidable (∀ r ∈ l, resolve? F r.locator = none))

/-- References that name no file are logged without one. -/
theorem Dangling.map_resolve {l : List Reference} (h : Dangling F l) :
    l.map (Reference.resolve F) = l.map fun r => ⟨r, none⟩ := by
  refine List.map_congr_left fun r hr => ?_
  rw [Reference.resolve, h r hr]
  rfl

theorem text_writeReference_eq_self {text : List Char} {r : Reference} {element : File → String}
    (h : resolve? F r.locator = none) : (writeReference F text r element).text = text := by
  rw [writeReference, h]

section Pieces

variable {α : Type} {refer? : α → Option Reference} {element : α → File → String}

/-- A part of the text whose reference names no file is written as it is. -/
theorem text_writePiece_eq_self {q : Piece α} (h : Dangling F (q.value?.bind refer?).toList) :
    (writePiece refer? element F q).text = q.text := by
  cases q with
  | plain c => rfl
  | found text v =>
    rw [Piece.value?, Option.bind_some] at h
    rw [writePiece]
    cases hr : refer? v with
    | none => rfl
    | some r => exact text_writeReference_eq_self (h r (by rw [hr]; exact List.mem_singleton_self r))

/-- A scan that changes only what refers to a file gives the text back if nothing in it does. -/
theorem flatMap_text_eq_self (R : Recogniser α) (h : Dangling F ((R.findAll s).filterMap refer?)) :
    ((R.pieces s).map (writePiece refer? element F)).flatMap Written.text = s := by
  rw [List.flatMap_map]
  refine Eq.trans (List.flatMap_congr fun q hq => text_writePiece_eq_self fun r hr => h r ?_)
    (R.flatMap_text_pieces s)
  rw [Recogniser.findAll, List.filterMap_filterMap]
  exact List.mem_filterMap.2 ⟨q, hq, Option.mem_toList.1 hr⟩

end Pieces

theorem inlineStyles_eq_self {markup : String} (log : List Resolved) (h : Dangling F (sheetsIn markup.toList)) :
    (inlineStyles F log markup).html = markup := by
  rw [inlineStyles, writeLink_eq, Inlined.ofParts, flatMap_text_eq_self linkTags h, String.ofList_toList]

theorem inlineScripts_eq_self {markup : String} (log : List Resolved) (h : Dangling F (scriptsIn markup.toList)) :
    (inlineScripts F log markup).html = markup := by
  rw [inlineScripts, writeScript_eq, Inlined.ofParts, flatMap_text_eq_self scriptElements h, String.ofList_toList]

/-- A text whose references name no file comes out as it was, and the log grows by just these references, in order and
without files. -/
theorem inlineAssets_of_dangling (F : FileSet) (log : List Resolved) (markup : String)
    (h : ∀ r ∈ references markup, resolve? F r.locator = none) :
    inlineAssets F log markup = ⟨markup, log ++ (references markup).map fun r => ⟨r, none⟩⟩ := by
  have hall : Dangling F (sheetsIn markup.toList ++ scriptsIn markup.toList) := h
  have hsheets : Dangling F (sheetsIn markup.toList) := fun r hr => hall r (List.mem_append_left _ hr)
  have hscripts : Dangling F (scriptsIn markup.toList) := fun r hr => hall r (List.mem_append_right _ hr)
  -- The scripts are looked for in the text that the links were looked for in.
  have hstyled : styled F markup = markup := inlineStyles_eq_self [] hsheets
  have hhtml : (inlineAssets F log markup).html = markup := by
    rw [inlineAssets, inlineStyles_eq_self log hsheets, inlineScripts_eq_self _ hscripts]
  have hlog : (inlineAssets F log markup).log = log ++ (references markup).map fun r => ⟨r, none⟩ := by
    rw [log_inlineAssets, hstyled, ← references_eq, Dangling.map_resolve h]
  calc inlineAssets F log markup = ⟨(inlineAssets F log markup).html, (inlineAssets F log markup).log⟩ := rfl
    _ = ⟨markup, log ++ (references markup).map fun r => ⟨r, none⟩⟩ := by rw [hhtml, hlog]

/-- A link within a link, a script within the tag of another one whose end is broken, and a third in its body. -/
def brokenPage : String :=
  "<link <link rel=stylesheet href=gone.css><script src=a.js <script src=b.js>c</script <p><script src=//d/s.js></script>"

theorem inlineAssets_of_dangling_brokenPage :
    let files : FileSet := .ofList [("s/s.js", "x"), ("s/s.css", "y")]
    let log : List Resolved := [⟨⟨.script, "s.js"⟩, some "s/s.js"⟩]
    (∀ r ∈ references brokenPage, resolve? files r.locator = none) ∧
      inlineAssets files log brokenPage =
        ⟨brokenPage, log ++ [⟨⟨.stylesheet, "gone.css"⟩, none⟩, ⟨⟨.script, "a.js"⟩, none⟩]⟩ := by
  intro files log
  have hnone : ∀ r ∈ references brokenPage, resolve? files r.locator = none := by decide +kernel
  refine ⟨hnone, ?_⟩
  have hpage : references brokenPage = [⟨.stylesheet, "gone.css"⟩, ⟨.script, "a.js"⟩] := by decide +kernel
  rw [inlineAssets_of_dangling files log brokenPage hnone, hpage]
  rfl

end PageBundle.Asset
