import PageBundle.Asset.Inline
import PageBundle.Proofs.Asset.Resolve

/-! What inlining notes and what it reads. The log grows by the references of the text: first those to style
sheets, then those to scripts in the text that has the sheets put in. Of the files it reads only the
contents of those that the log names, so two sets with the same paths that agree on these give one result. -/

namespace PageBundle.Asset
open Text Markup

def sheetsIn (s : List Char) : List Reference := (linkTags.findAll s).filterMap ofLink?

def scriptsIn (s : List Char) : List Reference := (scriptElements.findAll s).filterMap ofScript?

theorem references_eq (markup : String) :
    references markup = sheetsIn markup.toList ++ scriptsIn markup.toList := rfl

theorem kind_of_mem_sheetsIn {s : List Char} {r : Reference} (h : r ∈ sheetsIn s) : r.kind = .stylesheet := by
  obtain ⟨attrs, -, hr⟩ := List.mem_filterMap.1 h
  obtain ⟨l, -, rfl⟩ := Option.map_eq_some_iff.1 hr
  rfl

theorem kind_of_mem_scriptsIn {s : List Char} {r : Reference} (h : r ∈ scriptsIn s) : r.kind = .script := by
  obtain ⟨e, -, hr⟩ := List.mem_filterMap.1 h
  obtain ⟨l, -, rfl⟩ := Option.map_eq_some_iff.1 hr
  rfl

variable {F G : FileSet} {log : List Resolved} {markup : String}

/-! ## The log -/

theorem seen_writeReference (F : FileSet) (text : List Char) (r : Reference) (element : File → String) :
    (writeReference F text r element).seen = some (r.resolve F) := by
  unfold writeReference Reference.resolve
  cases resolve? F r.locator <;> rfl

/-- What the two writers share: a part that makes a reference is written as the reference is, any other as it stands. -/
def writePiece {α : Type} (refer? : α → Option Reference) (element : α → File → String) (F : FileSet) :
    Piece α → Written
  | .plain c => ⟨[c], none⟩
  | .found text v =>
    match refer? v with
    | some r => writeReference F text r (element v)
    | none => ⟨text, none⟩

theorem writeLink_eq (F : FileSet) : writeLink F = writePiece ofLink? (fun _ => styleElement) F := by
  funext q
  cases q <;> rfl

theorem writeScript_eq (F : FileSet) :
    writeScript F = writePiece ofScript? (fun e f => scriptElement f (Attribute.lookup? e.attrs "type")) F := by
  funext q
  cases q <;> rfl

section Pieces

variable {α : Type} {refer? : α → Option Reference} {element : α → File → String}

theorem seen_writePiece (F : FileSet) (q : Piece α) :
    (writePiece refer? element F q).seen = (q.value?.bind refer?).map (Reference.resolve F) := by
  cases q with
  | plain c => rfl
  | found text v =>
    simp only [writePiece, Piece.value?, Option.bind_some]
    cases refer? v with
    | none => rfl
    | some r => exact seen_writeReference F text r _

/-- A scan that writes so notes the references of the text. -/
theorem filterMap_seen (R : Recogniser α) (F : FileSet) (s : List Char) :
    ((R.pieces s).map (writePiece refer? element F)).filterMap Written.seen =
      ((R.findAll s).filterMap refer?).map (Reference.resolve F) := by
  rw [List.filterMap_map, Recogniser.findAll, List.filterMap_filterMap, List.map_filterMap]
  exact List.filterMap_congr fun q _ => seen_writePiece F q

end Pieces

theorem log_inlineStyles (F : FileSet) (log : List Resolved) (markup : String) :
    (inlineStyles F log markup).log = log ++ (sheetsIn markup.toList).map (Reference.resolve F) := by
  rw [inlineStyles, writeLink_eq, Inlined.ofParts, filterMap_seen, sheetsIn]

theorem log_inlineScripts (F : FileSet) (log : List Resolved) (markup : String) :
    (inlineScripts F log markup).log = log ++ (scriptsIn markup.toList).map (Reference.resolve F) := by
  rw [inlineScripts, writeScript_eq, Inlined.ofParts, filterMap_seen, scriptsIn]

def styled (F : FileSet) (markup : String) : String := (inlineStyles F [] markup).html

theorem log_inlineAssets (F : FileSet) (log : List Resolved) (markup : String) :
    (inlineAssets F log markup).log = log ++
      (sheetsIn markup.toList ++ scriptsIn (styled F markup).toList).map (Reference.resolve F) := by
  unfold inlineAssets
  rw [log_inlineScripts, log_inlineStyles, List.map_append, List.append_assoc]
  rfl

/-! ## The files that are read -/

/-- Whether two sets have the same content at every path of the log. -/
def AgreeOn (F G : FileSet) (log : List Resolved) : Prop :=
  ∀ a ∈ log, ∀ p, a.path = some p → F.get? p = G.get? p

theorem AgreeOn.mono {log log' : List Resolved} (h : AgreeOn F G log') (hl : ∀ a ∈ log, a ∈ log') :
    AgreeOn F G log := fun a ha => h a (hl a ha)

theorem writeReference_congr (hp : F.paths = G.paths) {text : List Char} {r : Reference}
    {element : File → String} (h : ∀ p, (r.resolve F).path = some p → F.get? p = G.get? p) :
    writeReference F text r element = writeReference G text r element := by
  unfold writeReference
  rw [resolve?_congr hp fun f hf => h f.path (by rw [Reference.resolve, hf]; rfl)]

section Pieces

variable {α : Type} {refer? : α → Option Reference} {element : α → File → String}

theorem writePiece_congr (hp : F.paths = G.paths) {q : Piece α}
    (h : ∀ a, (writePiece refer? element F q).seen = some a → ∀ p, a.path = some p → F.get? p = G.get? p) :
    writePiece refer? element F q = writePiece refer? element G q := by
  rw [seen_writePiece] at h
  cases q with
  | plain c => rfl
  | found text v =>
    simp only [writePiece, Piece.value?, Option.bind_some] at h ⊢
    cases hr : refer? v with
    | none => rfl
    | some r => exact writeReference_congr hp (h _ (by rw [hr]; rfl))

theorem ofParts_congr (hp : F.paths = G.paths) {ps : List (Piece α)}
    (h : AgreeOn F G (Inlined.ofParts log (ps.map (writePiece refer? element F))).log) :
    Inlined.ofParts log (ps.map (writePiece refer? element F)) =
      Inlined.ofParts log (ps.map (writePiece refer? element G)) := by
  refine congrArg (Inlined.ofParts log) (List.map_congr_left fun q hq => writePiece_congr hp fun a ha => ?_)
  refine h a (List.mem_append_right log ?_)
  exact List.mem_filterMap.2 ⟨writePiece refer? element F q, List.mem_map_of_mem hq, ha⟩

end Pieces

theorem inlineStyles_congr (hp : F.paths = G.paths) (h : AgreeOn F G (inlineStyles F log markup).log) :
    inlineStyles F log markup = inlineStyles G log markup := by
  simp only [inlineStyles, writeLink_eq] at h ⊢
  exact ofParts_congr hp h

theorem inlineScripts_congr (hp : F.paths = G.paths) (h : AgreeOn F G (inlineScripts F log markup).log) :
    inlineScripts F log markup = inlineScripts G log markup := by
  simp only [inlineScripts, writeScript_eq] at h ⊢
  exact ofParts_congr hp h

/-- The sheets are the same, so the scripts are looked for in one text and are the same as well. -/
theorem inlineAssets_congr (hp : F.paths = G.paths) (h : AgreeOn F G (inlineAssets F log markup).log) :
    inlineAssets F log markup = inlineAssets G log markup := by
  unfold inlineAssets at h ⊢
  have hs : inlineStyles F log markup = inlineStyles G log markup :=
    inlineStyles_congr hp (h.mono fun a ha => List.mem_append_left _ ha)
  simp only [← hs]
  exact inlineScripts_congr hp h

end PageBundle.Asset
