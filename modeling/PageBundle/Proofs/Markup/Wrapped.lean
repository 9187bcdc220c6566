import PageBundle.Mhtml
import PageBundle.Proofs.Markup.Extraction
import PageBundle.Proofs.Markup.Structure
import PageBundle.Proofs.Text.Last

/-! The document inside a saved page. It is the stretch from the first opening tag to the last closing tag, whatever tags
lie between them: a closing tag in the first opening tag or in front of it does not count, and of several documents one in
another none is cut. The stretch is its own document. -/

namespace PageBundle.Mhtml

open Text Markup

variable {page d o c : List Char}

/-- An opening tag of a document: the name in any letter case, no word character after it, any text, and `>`. -/
def IsOpening (o : List Char) : Prop :=
  ∃ w attrs, lower w = "html".toList ∧ startsWithWord attrs = false ∧ '>' ∉ attrs ∧ o = '<' :: (w ++ attrs ++ ['>'])

/-- A closing tag of a document: the name in any letter case, blanks, and `>`. -/
def IsClosing (c : List Char) : Prop :=
  ∃ w blanks, lower w = "html".toList ∧ (∀ b ∈ blanks, isBlank b = true) ∧ c = '<' :: '/' :: (w ++ blanks ++ ['>'])

theorem spells_iff {w : List Char} : Spells "html".toList w ↔ lower w = "html".toList := by
  apply spells_iff_lower <;> decide +kernel

theorem holds_word_iff {attrs : List Char} :
    NameEnd.word.holds (attrs ++ ['>']) = true ↔ startsWithWord attrs = false := by
  rw [NameEnd.holds, startsWithWord_append_cons isWord_gt, Bool.not_eq_true']

theorem isOpening_iff : IsOpening o ↔ IsStartTag .word "html".toList o := by
  simp only [IsOpening, IsStartTag, spells_iff, holds_word_iff, and_left_comm]

theorem isClosing_iff : IsClosing c ↔ IsEndTag "html".toList c := by simp only [IsClosing, IsEndTag, spells_iff]

theorem accepts_opening : Accepts (openTag? .word "html".toList) IsOpening :=
  (accepts_startTag _ _).congr fun _ => isOpening_iff

theorem accepts_closing : Accepts (closeTag? "html".toList) IsClosing := (accepts_endTag _).congr fun _ => isClosing_iff

theorem not_isOpening_nil : ¬ IsOpening [] := by simp [IsOpening]

theorem not_isClosing_nil : ¬ IsClosing [] := by simp [IsClosing]

/-- Whether a text is the stretch of a page from its first opening tag to its last closing tag, which stands behind it. -/
def IsWrapped (page d : List Char) : Prop :=
  ∃ i o j c, IsFirst IsOpening page 0 i o ∧ IsLast IsClosing page j c ∧ i + o.length ≤ j ∧
    d = page.extract i (j + c.length)

/-- The document is the stretch from the first opening tag to the last closing tag. -/
theorem document?_eq_some_iff : document? page = some d ↔ IsWrapped page d := by
  simp only [document?, Option.bind_eq_bind, Option.bind_eq_some_iff, Recogniser.first?_eq_breakAt]
  constructor
  · intro h
    obtain ⟨⟨before, o⟩, ho, ⟨body, c⟩, hb, h⟩ := h
    obtain ⟨i, hi, -, hrest⟩ := accepts_opening.of_breakAt_drop (s := page) (k := 0) ho
    rw [hrest] at hb
    obtain ⟨j, hle, hj, rfl⟩ := accepts_closing.of_breakAtLast_drop not_isClosing_nil hb
    refine ⟨i, o.text, j, c.text, hi, hj, hle, ?_⟩
    obtain rfl := Option.some.inj h
    calc o.text ++ page.extract (i + o.text.length) j ++ c.text
        = page.extract i (i + o.text.length) ++ page.extract (i + o.text.length) j ++
            page.extract j (j + c.text.length) := by rw [hi.stands.extract_eq, hj.stands.extract_eq]
      _ = page.extract i j ++ page.extract j (j + c.text.length) := by
          rw [extract_append_extract (Nat.le_add_right i _) hle]
      _ = page.extract i (j + c.text.length) := extract_append_extract (by omega) (Nat.le_add_right j _)
  · intro h
    obtain ⟨i, o, j, c, hi, hj, hle, rfl⟩ := h
    obtain ⟨v, hv⟩ := accepts_opening.exists_breakAt_drop not_isOpening_nil hi
    obtain ⟨r, hr, rfl⟩ := accepts_closing.exists_breakAtLast_drop not_isClosing_nil hle hj
    refine ⟨_, hv, _, hr, ?_⟩
    rw [← extract_append_extract (Nat.le_trans (Nat.le_add_right i o.length) hle) (Nat.le_add_right j r.text.length),
      ← extract_append_extract (Nat.le_add_right i o.length) hle, hi.stands.extract_eq, hj.stands.extract_eq]

theorem document?_isSome_iff : (document? page).isSome = true ↔ ∃ i o, IsFirst IsOpening page 0 i o ∧
    ∃ j c, i + o.length ≤ j ∧ StandsAt IsClosing page j c := by
  rw [Option.isSome_iff_exists]
  constructor
  · intro h
    obtain ⟨d, h⟩ := h
    obtain ⟨i, o, j, c, hi, hj, hle, -⟩ := document?_eq_some_iff.1 h
    exact ⟨i, o, hi, j, c, hle, hj.stands⟩
  · intro h
    obtain ⟨i, o, hi, j, c, hle, hc⟩ := h
    obtain ⟨k, v, hjk, hk⟩ := exists_isLast not_isClosing_nil hc
    exact ⟨_, document?_eq_some_iff.2 ⟨i, o, k, v, hi, hk, Nat.le_trans hle hjk, rfl⟩⟩

/-- The stretch begins with its first opening tag and ends with its last closing tag. -/
theorem IsWrapped.self (h : IsWrapped page d) : IsWrapped d d := by
  obtain ⟨i, o, j, c, hi, hj, hle, rfl⟩ := h
  obtain ⟨k, rfl⟩ := Nat.exists_eq_add_of_le (Nat.le_trans (Nat.le_add_right i o.length) hle)
  have hlen : (page.extract i (i + k + c.length)).length ≤ k + c.length := by
    rw [List.extract_eq_take_drop, List.length_take]
    omega
  refine ⟨0, o, k, c, ⟨Nat.le_refl 0, hi.stands.extract (by omega), fun l _ hl => absurd hl (Nat.not_lt_zero l)⟩,
    ⟨hj.stands.extract (Nat.le_refl _), fun l hl v hv => ?_⟩, by omega, (extract_eq_self hlen).symm⟩
  exact hj.greatest (i + l) (by omega) v hv.of_extract

theorem extract_eq_ok_iff {page d : String} : extract page = .ok d ↔ document? page.toList = some d.toList := by
  rw [extract]
  cases document? page.toList with
  | none => simp
  | some d' =>
    simp only [Except.ok.injEq, Option.some.injEq]
    constructor
    · rintro rfl
      exact String.toList_ofList.symm
    · rintro rfl
      exact String.ofList_toList

/-- Unwrapping is exact. It gives a document exactly if a closing tag stands at the end of the first opening tag or after it,
and then the document goes from the start of the first opening tag to the end of the last closing tag; unwrapping it again
changes nothing. In every other case the page is malformed. -/
theorem extract_exact (page : String) :
    ((∃ d, extract page = .ok d) ↔ ∃ i o, IsFirst IsOpening page.toList 0 i o ∧
      ∃ j c, i + o.length ≤ j ∧ StandsAt IsClosing page.toList j c) ∧
    (∀ d, extract page = .ok d ↔ ∃ i o j c, IsFirst IsOpening page.toList 0 i o ∧ IsLast IsClosing page.toList j c ∧
      i + o.length ≤ j ∧ d.toList = page.toList.extract i (j + c.length)) ∧
    (∀ d, extract page = .ok d → extract d = .ok d) ∧
    ∀ e, extract page = .error e → e = .malformedMhtml := by
  refine ⟨?_, fun d => ?_, fun d h => ?_, fun e h => ?_⟩
  · rw [← document?_isSome_iff, Option.isSome_iff_exists]
    constructor
    · rintro ⟨d, h⟩
      exact ⟨_, extract_eq_ok_iff.1 h⟩
    · rintro ⟨d, h⟩
      exact ⟨String.ofList d, extract_eq_ok_iff.2 (by rw [h, String.toList_ofList])⟩
  · rw [extract_eq_ok_iff, document?_eq_some_iff]
    rfl
  · rw [extract_eq_ok_iff, document?_eq_some_iff] at h ⊢
    exact h.self
  · rw [extract] at h
    split at h
    · cases h
    · exact (Except.error.inj h).symm

/-- A page with a closing tag in front of the document and one inside its opening tag, and a document in another one. -/
def nestedPage : String :=
  "Subject: </html>\r\n\r\n<htmlx><HTML a='</html>'><p><html>b</html\n></p></html>c</Html >\r\n----"

def nestedDocument : String := "<HTML a='</html>'><p><html>b</html\n></p></html>c</Html >"

theorem extract_exact_nestedPage :
    extract nestedPage = .ok nestedDocument ∧ extract nestedDocument = .ok nestedDocument := by
  have h : extract nestedPage = .ok nestedDocument := by decide +kernel
  exact ⟨h, (extract_exact nestedPage).2.2.1 _ h⟩

end PageBundle.Mhtml
