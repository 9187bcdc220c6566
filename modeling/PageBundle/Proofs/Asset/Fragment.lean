import PageBundle.Proofs.Asset.Log
import PageBundle.Proofs.Asset.Spelling
import PageBundle.Proofs.Markup.Plain

/-! Inlining is local on well-formed markup. In a page that is texts, tags, links and scripts in a row each link and each
script is found where it stands and nothing else is, before the sheets are put in and after it. So every reference is
replaced by itself. The sheets may hold anything but the beginning of a script tag. -/

namespace PageBundle.Asset

open Text Markup Attribute

/-- A part of a well-formed page: a text, a tag that is no link and no script in whatever case, a link, or a script. -/
inductive Fragment where
  | text (s : List Char) (hs : '<' ∉ s := by decide +kernel)
  | tag (s : List Char) (hlt : '<' ∉ s := by decide +kernel) (hgt : '>' ∉ s := by decide +kernel)
    (hlink : readName? "link".toList s = none := by decide +kernel)
    (hscript : readName? "script".toList s = none := by decide +kernel)
  | link (attrs : List Spelled)
  | script (attrs : List Spelled) (body : List Char) (hbody : '<' ∉ body := by decide +kernel)

namespace Fragment

def markup : Fragment → List Char
  | text s _ => s
  | tag s _ _ _ _ => '<' :: (s ++ ['>'])
  | link attrs => opening "link".toList (spell attrs)
  | script attrs body _ => opening "script".toList (spell attrs) ++ body ++ closing "script".toList

/-- The reference of a link to a style sheet: its first `rel` says what it is, and its first `href` where. -/
def sheet? : Fragment → Option Reference
  | link attrs => do
    let rel ← first? attrs "rel"
    let href ← first? attrs "href"
    if eqIgnoringCase (trim rel) "stylesheet".toList then some ⟨.stylesheet, String.ofList href⟩ else none
  | _ => none

def script? : Fragment → Option Reference
  | script attrs _ _ => (first? attrs "src").map fun src => ⟨.script, String.ofList src⟩
  | _ => none

def file? (F : FileSet) (p : Fragment) : Option File := (p.sheet?.or p.script?).bind fun r => resolve? F r.locator

def element : Fragment → File → String
  | script attrs _ _, f => scriptElement f (first? attrs "type")
  | _, f => styleElement f

def inlined (F : FileSet) (p : Fragment) : List Char :=
  match p.file? F with
  | some f => (p.element f).toList
  | none => p.markup

/-- The markup of a fragment after the sheets are put in. -/
def styled (F : FileSet) : Fragment → List Char
  | link attrs => (link attrs).inlined F
  | p => p.markup

/-- What the search for links makes of a fragment. -/
def linkPieces : Fragment → List (Piece (List Char))
  | link attrs => [.found (link attrs).markup (spell attrs)]
  | p => p.markup.map .plain

def elementPieces : Fragment → List (Piece Element)
  | script attrs body h => [.found (script attrs body h).markup ⟨spell attrs, body⟩]
  | p => p.markup.map .plain

def scriptPieces (F : FileSet) : Fragment → List (Piece Element)
  | script attrs body h => [.found (script attrs body h).markup ⟨spell attrs, body⟩]
  | p => (p.styled F).map .plain

end Fragment

variable {F : FileSet} {log : List Resolved} {attrs : List Spelled} {f : File}

/-! ## The two scans -/

theorem spells_link : Spells "link".toList "link".toList := spells_self (by decide +kernel)

theorem spells_script : Spells "script".toList "script".toList := spells_self (by decide +kernel)

theorem holds_spell (attrs : List Spelled) : NameEnd.word.holds (spell attrs ++ ['>']) = true := by
  rw [NameEnd.holds, startsWithWord_spell]
  rfl

theorem isPlain_linkTag : scriptElements.IsPlain (Fragment.link attrs).markup := by
  have hlt : '<' ∉ "link".toList ++ spell attrs := by
    rw [List.mem_append, not_or]
    exact ⟨by decide +kernel, lt_notMem_spell attrs⟩
  exact elements_opens.isPlain_tag (parts_gt hasNoAngle_script) hlt (readName?_append_eq_none (by decide +kernel))

theorem isPlain_scriptElement {body : List Char} (hb : '<' ∉ body) :
    linkTags.IsPlain (Fragment.script attrs body hb).markup := by
  have hgt := parts_gt hasNoAngle_link
  have hlt : '<' ∉ "script".toList ++ spell attrs := by
    rw [List.mem_append, not_or]
    exact ⟨by decide +kernel, lt_notMem_spell attrs⟩
  have hopening : linkTags.IsPlain (opening "script".toList (spell attrs)) :=
    openTags_opens.isPlain_tag hgt hlt (readName?_append_eq_none (by decide +kernel))
  have hclosing : linkTags.IsPlain (closing "script".toList) :=
    openTags_opens.isPlain_tag hgt (by decide +kernel) (by decide +kernel)
  exact (hopening.append (openTags_opens.isPlain_of_notMem hb)).append hclosing

theorem scans_linkTags (p : Fragment) : linkTags.Scans p.markup p.linkPieces := by
  cases p with
  | text s hs => exact openTags_opens.isPlain_of_notMem hs
  | tag s hlt hgt hlink hscript => exact openTags_opens.isPlain_tag (parts_gt hasNoAngle_link) hlt hlink
  | link attrs =>
    have hread : linkTags.read (Fragment.link attrs).markup =
        some ⟨spell attrs, (Fragment.link attrs).markup, []⟩ := by
      have := openTag?_opening (x := []) spells_link (gt_notMem_spell attrs) (holds_spell attrs)
      rwa [List.append_nil] at this
    exact (openTags_local hasNoAngle_link).scans_found hread rfl
  | script attrs body hbody => exact isPlain_scriptElement hbody

theorem scans_elementPieces (p : Fragment) : scriptElements.Scans p.markup p.elementPieces := by
  have hR : scriptElements.Opens "script".toList := elements_opens
  cases p with
  | text s hs => exact hR.isPlain_of_notMem hs
  | tag s hlt hgt hlink hscript => exact hR.isPlain_tag (parts_gt hasNoAngle_script) hlt hscript
  | link attrs => exact isPlain_linkTag
  | script attrs body hbody =>
    have hread : scriptElements.read (Fragment.script attrs body hbody).markup =
        some ⟨⟨spell attrs, body⟩, (Fragment.script attrs body hbody).markup, []⟩ :=
      element?_opening spells_script (gt_notMem_spell attrs) (holds_spell attrs) hbody
    exact (elements_local hasNoAngle_script).scans_found hread rfl

/-- An element with a sheet has no script in it if the sheet has no beginning of a script tag. -/
theorem isPlain_styleElement (hpath : ¬ MentionsOpening "script".toList f.path.toList)
    (hcontent : ¬ MentionsOpening "script".toList f.content.toList) :
    scriptElements.IsPlain (styleElement f).toList := by
  have hR : scriptElements.Opens "script".toList := elements_opens
  have hgt := parts_gt hasNoAngle_script
  have hopening : scriptElements.IsPlain "<style>".toList :=
    hR.isPlain_tag (s := "style".toList) hgt (by decide +kernel) (by decide +kernel)
  have hclosing : scriptElements.IsPlain "</style>".toList :=
    hR.isPlain_tag (s := "/style".toList) hgt (by decide +kernel) (by decide +kernel)
  have hp : scriptElements.IsPlain (f.path.toList ++ [' ']) :=
    hR.isPlain_of_not_mentionsOpening (by decide +kernel) hpath
  have hc : scriptElements.IsPlain (f.content.toList ++ ['\n']) :=
    hR.isPlain_of_not_mentionsOpening (by decide +kernel) hcontent
  have hbefore : scriptElements.IsPlain "\n/* ".toList := hR.isPlain_of_notMem (by decide +kernel)
  have hbetween : scriptElements.IsPlain "*/\n".toList := hR.isPlain_of_notMem (by decide +kernel)
  have h := hopening.append (hbefore.append (hp.append (hbetween.append (hc.append hclosing))))
  rw [styleElement]
  simpa using h

/-- Whether no opening script tag begins in the path or in the content of a sheet that a fragment refers to. -/
def Fragment.SheetQuiet (F : FileSet) (p : Fragment) : Prop :=
  ∀ r ∈ p.sheet?, ∀ f ∈ resolve? F r.locator,
    ¬ MentionsOpening "script".toList f.path.toList ∧ ¬ MentionsOpening "script".toList f.content.toList

instance (F : FileSet) (p : Fragment) : Decidable (p.SheetQuiet F) :=
  inferInstanceAs (Decidable (∀ r ∈ p.sheet?, ∀ f ∈ resolve? F r.locator,
    ¬ MentionsOpening "script".toList f.path.toList ∧ ¬ MentionsOpening "script".toList f.content.toList))

/-- After the sheets are put in, the search for scripts still finds those of the page and nothing else. -/
theorem scans_scriptElements {p : Fragment} (h : p.SheetQuiet F) :
    scriptElements.Scans (p.styled F) (p.scriptPieces F) := by
  cases p with
  | link attrs =>
    change scriptElements.IsPlain ((Fragment.link attrs).inlined F)
    unfold Fragment.inlined
    split
    · rename_i f hf
      obtain ⟨r, hr, hf⟩ := Option.bind_eq_some_iff.1 hf
      rw [show (Fragment.link attrs).script? = none from rfl, Option.or_none] at hr
      exact isPlain_styleElement (h r hr f hf).1 (h r hr f hf).2
    · exact isPlain_linkTag
  | text s hs => exact scans_elementPieces (.text s hs)
  | tag s hlt hgt hlink hscript => exact scans_elementPieces (.tag s hlt hgt hlink hscript)
  | script attrs body hbody => exact scans_elementPieces (.script attrs body hbody)

/-! ## What is written -/

/-- A link asks for what its attributes say, however they are spelled. -/
theorem ofLink?_spell (attrs : List Spelled) : ofLink? (spell attrs) = (Fragment.link attrs).sheet? := by
  rw [ofLink?, stylesheetHref?, lookup?_spell, lookup?_spell, Fragment.sheet?]
  cases first? attrs "rel" with
  | none => rfl
  | some rel =>
    rw [Option.bind_eq_bind, Option.bind_some, Option.bind_eq_bind, Option.bind_some]
    generalize eqIgnoringCase (trim rel) "stylesheet".toList = isSheet
    cases isSheet <;> cases first? attrs "href" <;> rfl

theorem ofScript?_spell {body : List Char} (hbody : '<' ∉ body) :
    ofScript? ⟨spell attrs, body⟩ = (Fragment.script attrs body hbody).script? := by
  rw [ofScript?, lookup?_spell]
  rfl

section Write

variable {α : Type} {R : Recogniser α} {write : Piece α → Written}

theorem text_map_plain (h : ∀ c, write (.plain c) = ⟨[c], none⟩) (s : List Char) :
    ((s.map .plain).map write).flatMap Written.text = s := by
  induction s with
  | nil => rfl
  | cons c s ih =>
    rw [List.map_cons, List.map_cons, List.flatMap_cons, h, ih]
    rfl

theorem seen_map_plain (h : ∀ c, write (.plain c) = ⟨[c], none⟩) (s : List Char) :
    ((s.map .plain).map write).filterMap Written.seen = [] := by
  rw [List.map_map, List.filterMap_map, List.filterMap_eq_nil_iff]
  intro c _
  exact congrArg Written.seen (h c)

/-- What is written for a page is what is written for its fragments, one after the other, and so is the log. -/
theorem ofParts_flatMap {doc : List Fragment} {x : Fragment → List Char} {g : Fragment → List (Piece α)}
    (h : ∀ p ∈ doc, R.Scans (x p) (g p)) (log : List Resolved) :
    Inlined.ofParts log ((R.pieces (doc.flatMap x)).map write) =
      ⟨String.ofList (doc.flatMap fun p => ((g p).map write).flatMap Written.text),
        log ++ doc.flatMap fun p => ((g p).map write).filterMap Written.seen⟩ := by
  rw [(Recogniser.scans_flatMap h).pieces_eq, Inlined.ofParts, List.map_flatMap, List.flatMap_assoc,
    List.filterMap_flatMap]

end Write

theorem writeLink_link (attrs : List Spelled) :
    writeLink F (.found (Fragment.link attrs).markup (spell attrs)) =
      ⟨(Fragment.link attrs).inlined F, (Fragment.link attrs).sheet?.map (Reference.resolve F)⟩ := by
  rw [writeLink, ofLink?_spell, Fragment.inlined, Fragment.file?, show (Fragment.link attrs).script? = none from rfl,
    Option.or_none]
  cases (Fragment.link attrs).sheet? with
  | none => rfl
  | some r =>
    simp only [Option.bind_some, Option.map_some, writeReference, Reference.resolve]
    cases resolve? F r.locator <;> rfl

theorem writeScript_script {body : List Char} (hbody : '<' ∉ body) :
    writeScript F (.found (Fragment.script attrs body hbody).markup ⟨spell attrs, body⟩) =
      ⟨(Fragment.script attrs body hbody).inlined F,
        (Fragment.script attrs body hbody).script?.map (Reference.resolve F)⟩ := by
  rw [writeScript, ofScript?_spell hbody, Fragment.inlined, Fragment.file?,
    show (Fragment.script attrs body hbody).sheet? = none from rfl, Option.none_or]
  cases (Fragment.script attrs body hbody).script? with
  | none => rfl
  | some r =>
    simp only [Option.bind_some, Option.map_some, writeReference, Reference.resolve, lookup?_spell]
    cases resolve? F r.locator <;> rfl

theorem text_linkPieces (p : Fragment) : (p.linkPieces.map (writeLink F)).flatMap Written.text = p.styled F := by
  cases p with
  | link attrs => simp [Fragment.linkPieces, writeLink_link, Fragment.styled]
  | text | tag | script => exact text_map_plain (fun _ => rfl) _

theorem seen_linkPieces (p : Fragment) :
    (p.linkPieces.map (writeLink F)).filterMap Written.seen = (p.sheet?.map (Reference.resolve F)).toList := by
  cases p with
  | link attrs =>
    rw [Fragment.linkPieces, List.map_singleton, writeLink_link]
    cases (Fragment.link attrs).sheet? <;> rfl
  | text | tag | script => exact seen_map_plain (fun _ => rfl) _

theorem text_scriptPieces (p : Fragment) :
    ((p.scriptPieces F).map (writeScript F)).flatMap Written.text = p.inlined F := by
  cases p with
  | script attrs body hbody => simp [Fragment.scriptPieces, writeScript_script]
  | text | tag | link => exact text_map_plain (fun _ => rfl) _

theorem seen_scriptPieces (p : Fragment) :
    ((p.scriptPieces F).map (writeScript F)).filterMap Written.seen = (p.script?.map (Reference.resolve F)).toList := by
  cases p with
  | script attrs body hbody =>
    rw [Fragment.scriptPieces, List.map_singleton, writeScript_script]
    cases (Fragment.script attrs body hbody).script? <;> rfl
  | text | tag | link => exact seen_map_plain (fun _ => rfl) _

theorem inlineStyles_flatMap_markup (F : FileSet) (log : List Resolved) (doc : List Fragment) :
    inlineStyles F log (String.ofList (doc.flatMap Fragment.markup)) =
      ⟨String.ofList (doc.flatMap (Fragment.styled F)),
        log ++ (doc.filterMap Fragment.sheet?).map (Reference.resolve F)⟩ := by
  rw [inlineStyles, String.toList_ofList, ofParts_flatMap fun p _ => scans_linkTags p]
  simp only [text_linkPieces, seen_linkPieces, ← List.filterMap_eq_flatMap_toList, List.map_filterMap]

theorem inlineScripts_flatMap_styled {doc : List Fragment} (h : ∀ p ∈ doc, p.SheetQuiet F) (log : List Resolved) :
    inlineScripts F log (String.ofList (doc.flatMap (Fragment.styled F))) =
      ⟨String.ofList (doc.flatMap (Fragment.inlined F)),
        log ++ (doc.filterMap Fragment.script?).map (Reference.resolve F)⟩ := by
  rw [inlineScripts, String.toList_ofList, ofParts_flatMap fun p hp => scans_scriptElements (h p hp)]
  simp only [text_scriptPieces, seen_scriptPieces, ← List.filterMap_eq_flatMap_toList, List.map_filterMap]

/-- Each reference of a well-formed page is replaced where it stands, and the log grows by just these references. -/
theorem inlineAssets_flatMap_markup (F : FileSet) (log : List Resolved) (doc : List Fragment)
    (h : ∀ p ∈ doc, p.SheetQuiet F) :
    inlineAssets F log (String.ofList (doc.flatMap Fragment.markup)) =
      ⟨String.ofList (doc.flatMap (Fragment.inlined F)),
        log ++ (doc.filterMap Fragment.sheet? ++ doc.filterMap Fragment.script?).map (Reference.resolve F)⟩ := by
  rw [inlineAssets, inlineStyles_flatMap_markup]
  dsimp only
  rw [inlineScripts_flatMap_styled h, List.map_append, List.append_assoc]

section Pages

/-- A page with attributes of every form: a sheet, a link that is none, a script with a type and one without a file. -/
def shopPage : List Fragment := [
  .tag "!doctype html".toList,
  .text "\n".toList,
  .link [
    { gap := [' '], name := "rel".toList, value := .quoted '"' "StyleSheet".toList },
    { gap := ['\u3000'], name := "href".toList, value := .bare "css/a.css".toList }],
  .link [{ gap := [' '], name := "rel".toList, value := .quoted '\'' "icon".toList }],
  .script [
    { gap := [' '], name := "defer".toList, value := .absent },
    { gap := [' ', '\n'], name := "src".toList, value := .quoted '"' "a.js".toList },
    { gap := [' '], name := "type".toList, value := .bare "module".toList }] " ".toList,
  .script [] "let x".toList]

/-- The sheet has the end of a script in it, and nearly the beginning of one. -/
def shopFiles : FileSet := .ofList [("shop/css/a.css", "</script><scrip"), ("shop/a.js", "<script>")]

theorem inlineAssets_flatMap_markup_shopPage :
    (∀ p ∈ shopPage, p.SheetQuiet shopFiles) ∧
      inlineAssets shopFiles [] ("<!doctype html>\n<link rel=\"StyleSheet\"\u3000href=css/a.css><link rel='icon'>" ++
          "<script defer \nsrc=\"a.js\" type=module> </script><script>let x</script>") =
        ⟨"<!doctype html>\n<style>\n/* shop/css/a.css */\n</script><scrip\n</style><link rel='icon'>" ++
          "<script type=\"module\">\n// shop/a.js\n<script>\n</script><script>let x</script>",
        [⟨⟨.stylesheet, "css/a.css"⟩, some "shop/css/a.css"⟩, ⟨⟨.script, "a.js"⟩, some "shop/a.js"⟩]⟩ := by
  have hquiet : ∀ p ∈ shopPage, p.SheetQuiet shopFiles := by decide +kernel
  refine ⟨hquiet, ?_⟩
  have hall := inlineAssets_flatMap_markup shopFiles [] shopPage hquiet
  have hpage : String.ofList (shopPage.flatMap Fragment.markup) =
      "<!doctype html>\n<link rel=\"StyleSheet\"\u3000href=css/a.css><link rel='icon'>" ++
        "<script defer \nsrc=\"a.js\" type=module> </script><script>let x</script>" := by decide +kernel
  rw [hpage] at hall
  rw [hall]
  decide +kernel

/-- A page with a sheet whose link says twice where it is, a tag that only looks like such a link, a script whose source
has no value, a link to something else, and a second sheet. -/
def galleryPage : List Fragment := [
  .link [
    { gap := [' '], name := "REL".toList, value := .quoted '"' "\tStyleSheet ".toList },
    { gap := [' '], name := "Href".toList, value := .bare "a.css".toList },
    { gap := [' '], name := "href".toList, value := .bare "b.css".toList }],
  .tag "p rel=stylesheet href=c.css".toList,
  .script [
    { gap := ['\n'], name := "src".toList, value := .absent },
    { gap := [' '], name := "src".toList, value := .bare "d.js".toList }] ";".toList,
  .link [
    { gap := [' '], name := "rel".toList, value := .bare "icon".toList },
    { gap := [' '], name := "href".toList, value := .bare "e.png".toList }],
  .link [
    { gap := [' '], name := "href".toList, value := .quoted '\'' "f.css".toList },
    { gap := ['\t'], name := "rel".toList, value := .bare "stylesheet".toList }]]

end Pages

end PageBundle.Asset
