import Mathlib.Data.List.Infix
import PageBundle.Proofs.Asset.Log
import PageBundle.Proofs.Bundle.Leftover

/-! No script runs twice. The search for scripts is the last one, so what it writes for a script that has a file is in
the section that comes out of it. There the content of the file is found again when the files that are left over are
looked for, and the file is none of them. -/

namespace PageBundle

open Asset Markup Text

variable {files : FileSet} {opts : BundleOptions} {entry page markup : String} {log : List Resolved} {r : Reference}
  {f : File}

namespace Asset

/-- Whether each file that a log has for a script is in the set, and its content is in a text. -/
def ShowsScripts (files : FileSet) (log : List Resolved) (html : String) : Prop :=
  ∀ a ∈ log, a.reference.kind = .script → ∀ p ∈ a.path, ∃ content ∈ files.get? p, content.toList <:+: html.toList

instance (files : FileSet) (log : List Resolved) (html : String) : Decidable (ShowsScripts files log html) :=
  inferInstanceAs (Decidable (∀ a ∈ log, a.reference.kind = .script → ∀ p ∈ a.path,
    ∃ content ∈ files.get? p, content.toList <:+: html.toList))

theorem content_infix_scriptElement (f : File) (type? : Option (List Char)) :
    f.content.toList <:+: (scriptElement f type?).toList :=
  f.content_infix_between _ _

/-- A script that has a file is written with the content of the file. -/
theorem content_infix_inlineScripts (hr : r ∈ scriptsIn markup.toList) (hf : resolve? files r.locator = some f) :
    f.content.toList <:+: (inlineScripts files log markup).html.toList := by
  obtain ⟨e, he, hr⟩ := List.mem_filterMap.1 hr
  obtain ⟨q, hq, hv⟩ := List.mem_filterMap.1 he
  have htext : f.content.toList <:+: (writeScript files q).text := by
    cases q with
    | plain c => cases hv
    | found text e' =>
      obtain rfl := Option.some.inj hv
      simp only [writeScript, hr, writeReference, hf]
      exact content_infix_scriptElement f _
  have hpart : (writeScript files q).text ∈
      (((scriptElements.pieces markup.toList).map (writeScript files)).map Written.text) :=
    List.mem_map_of_mem (List.mem_map_of_mem hq)
  rw [inlineScripts, Inlined.ofParts, String.toList_ofList, List.flatMap_def]
  exact htext.trans (List.infix_of_mem_flatten hpart)

/-- What was noted before has no say in what is written. -/
theorem inlineAssets_eq (files : FileSet) (log : List Resolved) (markup : String) :
    inlineAssets files log markup =
      ⟨(inlineAssets files [] markup).html, log ++ (inlineAssets files [] markup).log⟩ := by
  have hlog : (inlineAssets files log markup).log = log ++ (inlineAssets files [] markup).log := by
    rw [log_inlineAssets, log_inlineAssets, List.nil_append]
  rw [← hlog]
  rfl

/-- Each script that inlining logs with a file stands in the text that results. -/
theorem showsScripts_inlineAssets (files : FileSet) (markup : String) :
    ShowsScripts files (inlineAssets files [] markup).log (inlineAssets files [] markup).html := by
  intro a ha hk p hp
  rw [log_inlineAssets, List.nil_append, List.map_append, List.mem_append] at ha
  rcases ha with ha | ha
  · obtain ⟨r, hr, rfl⟩ := List.mem_map.1 ha
    rw [Reference.resolve, kind_of_mem_sheetsIn hr] at hk
    cases hk
  · obtain ⟨r, hr, rfl⟩ := List.mem_map.1 ha
    obtain ⟨f, hf, rfl⟩ := Option.map_eq_some_iff.1 hp
    exact ⟨f.content, FileSet.get?_path (mem_of_resolve? hf), content_infix_inlineScripts hr hf⟩

end Asset

def bodyLog (files : FileSet) (page : String) : List Resolved :=
  (inlineAssets files [] (Sections.ofPage page).body).log

/-- The log of the body does not depend on that of the head. -/
theorem inlinedBody_eq (files : FileSet) (page : String) : inlinedBody files page =
    ⟨(inlineAssets files [] (Sections.ofPage page).body).html, (inlinedHead files page).log ++ bodyLog files page⟩ :=
  inlineAssets_eq files _ _

theorem showsScripts_inlinedBody (files : FileSet) (page : String) :
    ShowsScripts files (bodyLog files page) (inlinedBody files page).html := by
  rw [inlinedBody_eq]
  exact showsScripts_inlineAssets files _

@[simp] theorem finish_appended {b : Bundle} : (finish opts b).appended = b.appended := by
  unfold finish
  split <;> rfl

/-- What stands in a section is not appended. -/
theorem path_notMem_appended_of_inSections (hf : f ∈ files.toList) (h : InSections files f) :
    f.path ∉ (bundleFull files opts).appended := by
  rw [(bundleFull_appends files opts).1,
    path_mem_append_iff (isLeftover_unconsumed files .stylesheet) (isLeftover_unconsumed files .script) hf]
  exact fun hm => hm.2 h

/-- What a text shows is not appended if the text is a section of the page. -/
theorem path_notMem_appended {log : List Resolved} {t : String} {a : Resolved} {p : String}
    (h : ShowsScripts files log t) (hpage : entryPage? files = some page) (ht : t ∈ inlinedTexts files page)
    (ha : a ∈ log) (hk : a.reference.kind = .script) (hp : p ∈ a.path) : p ∉ (bundleFull files opts).appended := by
  obtain ⟨content, hc, hi⟩ := h a ha hk p hp
  obtain ⟨f, hf, rfl⟩ := Option.map_eq_some_iff.1 hc
  obtain ⟨hm, rfl⟩ := FileSet.find?_eq_some_iff.1 hf
  refine path_notMem_appended_of_inSections hm (inSections_iff.2 ⟨t, ?_, hi⟩)
  rw [searchedTexts, hpage]
  exact ht

/-- The log of a bundle with an entry page is that of its head and then that of its body. The content of every file that
it has for a script stands in the section, after inlining, that the script was found in, and the file is not appended. -/
theorem scripts_not_appended (files : FileSet) (opts : BundleOptions) (entry : String)
    (he : Entry.select? files = some entry) :
    ∃ page b, files.get? entry = some page ∧ bundle files opts = .ok b ∧
      b.assets = (inlinedHead files page).log ++ bodyLog files page ∧
      ShowsScripts files (inlinedHead files page).log (inlinedHead files page).html ∧
      ShowsScripts files (bodyLog files page) (inlinedBody files page).html ∧
      ∀ a ∈ b.assets, a.reference.kind = .script → ∀ p ∈ a.path, p ∉ b.appended := by
  obtain ⟨page, hp⟩ := exists_get?_of_select? he
  have hpage : entryPage? files = some page := entryPage?_eq_some_iff.2 ⟨entry, he, hp⟩
  have hhead : ShowsScripts files (inlinedHead files page).log (inlinedHead files page).html :=
    showsScripts_inlineAssets files _
  have hbody := showsScripts_inlinedBody files page
  have hassets : (bundleFull files opts).assets = (inlinedHead files page).log ++ bodyLog files page := by
    rw [bundleFull_of_select? he hp, inlinedBody_eq]
  refine ⟨page, finish opts (bundleFull files opts), hp, bundle_eq_ok (isEmpty_of_select? he), ?_, hhead, hbody, ?_⟩
  · rw [finish_assets, hassets]
  · intro a ha hk p hap
    rw [finish_appended]
    rw [finish_assets, hassets, List.mem_append] at ha
    rcases ha with ha | ha
    · exact path_notMem_appended hhead hpage (by simp [inlinedTexts]) ha hk hap
    · exact path_notMem_appended hbody hpage (by simp [inlinedTexts]) ha hk hap

/-- A page that loads one script in its head and again in its body, and one whose element holds the tag of a third. -/
def loadedAgain : FileSet :=
  FileSet.ofList [("index.html", "<head><script src=a.js></script></head>" ++
      "<body><script src=./a.js></script><script src=b.js><script src=c.js></script></body>"),
    ("a.js", "a()"), ("b.js", "b('</script>')"), ("c.js", "c()")]

theorem scripts_not_appended_loadedAgain : ∃ page b, loadedAgain.get? "index.html" = some page ∧
    bundle loadedAgain {} = .ok b ∧ ⟨⟨.script, "./a.js"⟩, some "a.js"⟩ ∈ b.assets ∧
      ⟨⟨.script, "b.js"⟩, some "b.js"⟩ ∈ b.assets ∧ "a.js" ∉ b.appended ∧ "b.js" ∉ b.appended := by
  obtain ⟨page, b, hp, hb, -, -, -, h⟩ := scripts_not_appended loadedAgain {} "index.html" (by decide +kernel)
  have hmem : ∀ a ∈ [(⟨⟨.script, "./a.js"⟩, some "a.js"⟩ : Resolved), ⟨⟨.script, "b.js"⟩, some "b.js"⟩],
      a ∈ b.assets := by
    rw [bundle_eq_ok (by decide +kernel)] at hb
    rw [← Except.ok.inj hb, finish_assets]
    decide +kernel
  have ha := hmem _ List.mem_cons_self
  have hb' := hmem _ (List.mem_cons_of_mem _ List.mem_cons_self)
  exact ⟨page, b, hp, hb, ha, hb', h _ ha rfl _ rfl, h _ hb' rfl _ rfl⟩

end PageBundle
