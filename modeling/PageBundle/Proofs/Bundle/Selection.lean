import PageBundle.Proofs.Bundle.Basic
import PageBundle.Proofs.FileSet.Insert
import PageBundle.Proofs.FileSet.Tier
import PageBundle.Proofs.Text.Trim

/-! The page that a bundle starts from is the least page of the set by its rank and then by its place. A page whose name is
`index.html` ranks before one with `index` anywhere in its path, and this before any other. Contents have no say, and a new
file is chosen only if it ranks strictly before the page that was chosen without it. -/

namespace PageBundle.Entry

open Text Tiers

variable {F : FileSet} {e p : String} {l x : List Char} {k : Nat}

/-- Whether a path ends as that of a page does. -/
def IsPage (p : String) : Prop := ".html".toList <:+ p.toList ∨ ".htm".toList <:+ p.toList

/-- Whether the last part of a path is `index.html`. -/
def IsIndex (p : String) : Prop := p = "index.html" ∨ "/index.html".toList <:+ p.toList

instance (p : String) : Decidable (IsPage p) := inferInstanceAs (Decidable (_ ∨ _))

instance (p : String) : Decidable (IsIndex p) := inferInstanceAs (Decidable (_ ∨ _))

/-- The rank of a page, zero for the best. -/
def rank (p : String) : Nat := if IsIndex p then 0 else if "index".toList <:+: lower p.toList then 1 else 2

/-- Whether a path is the first page of a list among those of the least rank. -/
def IsEntry (paths : List String) (e : String) : Prop :=
  ∃ before after, paths = before ++ e :: after ∧ IsPage e ∧ (∀ p ∈ before, IsPage p → rank e < rank p) ∧
    ∀ p ∈ after, IsPage p → rank e ≤ rank p

/-! ## What the tests say of a path -/

theorem isPage_iff : isPage p = true ↔ IsPage p := by
  rw [isPage, Bool.or_eq_true, List.isSuffixOf_iff_suffix, List.isSuffixOf_iff_suffix, IsPage]

theorem lastPart_eq_iff (hx : '/' ∉ x) : lastPart l = x ↔ l = x ∨ '/' :: x <:+ l := by
  have hkeep : ∀ c ∈ x.reverse, decide (c ≠ '/') = true := by
    intro c hc
    exact decide_eq_true fun he => hx (he ▸ List.mem_reverse.1 hc)
  constructor
  · rintro rfl
    have hsplit : l = (l.reverse.dropWhile (· ≠ '/')).reverse ++ lastPart l := by
      rw [lastPart, ← List.reverse_append, List.takeWhile_append_dropWhile, List.reverse_reverse]
    cases hd : l.reverse.dropWhile (· ≠ '/') with
    | nil =>
      rw [hd] at hsplit
      exact .inl hsplit
    | cons c d =>
      have hc : decide (c ≠ '/') = false := not_of_head?_dropWhile (by rw [hd]; rfl)
      obtain rfl : c = '/' := by simpa using hc
      rw [hd, List.reverse_cons, List.append_assoc] at hsplit
      exact .inr ⟨d.reverse, hsplit.symm⟩
  · rintro (rfl | ⟨a, rfl⟩)
    · have := takeWhile_append_eq (s := []) hkeep (by simp)
      rw [List.append_nil] at this
      rw [lastPart, this, List.reverse_reverse]
    · rw [lastPart, List.reverse_append, List.reverse_cons, List.append_assoc, takeWhile_append_eq hkeep (by simp),
        List.reverse_reverse]

theorem isIndex_iff : isIndex p = true ↔ IsIndex p := by
  rw [isIndex, beq_iff_eq, lastPart_eq_iff (by decide +kernel), String.toList_inj, IsIndex]
  rfl

theorem mentionsIndex_iff : mentionsIndex p = true ↔ "index".toList <:+: lower p.toList := contains_iff_isInfix

theorem IsIndex.isPage (h : IsIndex p) : IsPage p := by
  have hname : ".html".toList <:+ "/index.html".toList := by decide +kernel
  rcases h with rfl | h
  · decide +kernel
  · exact .inl (hname.trans h)

theorem rank_eq_zero_iff : rank p = 0 ↔ IsIndex p := by
  unfold rank
  split
  · simp [*]
  · split <;> simp [*]

/-! ## The search in tiers -/

/-- The kinds of pages, the best one first. -/
def pageTests : List (String → Bool) := [fun p => isPage p && isIndex p, fun p => isPage p && mentionsIndex p, isPage]

/-- The choice of the page to start from is a search by kinds of pages. -/
theorem select?_eq_first? (F : FileSet) : select? F = first? pageTests F.paths := by
  rw [select?, List.find?_filter, List.find?_filter, List.head?_filter, pageTests, first?_cons, first?_cons, first?_cons,
    Option.or_assoc]
  simp only [Bool.decide_and, Bool.decide_eq_true]
  exact congrArg _ (congrArg _ Option.or_none.symm)

theorem mem_tier?_iff : k ∈ tier? pageTests p ↔ IsPage p ∧ rank p = k := by
  by_cases hp : isPage p = true
  · rw [and_iff_right (isPage_iff.1 hp), pageTests, rank]
    split
    · rename_i hi
      rw [tier?_cons_of_pos (by rw [hp, isIndex_iff.2 hi]; rfl)]
      simp
    · rename_i hi
      rw [← isIndex_iff, Bool.not_eq_true] at hi
      rw [tier?_cons_of_neg (by rw [hp, hi]; rfl)]
      split
      · rename_i hm
        rw [tier?_cons_of_pos (by rw [hp, mentionsIndex_iff.2 hm]; rfl)]
        simp
      · rename_i hm
        rw [← mentionsIndex_iff, Bool.not_eq_true] at hm
        rw [tier?_cons_of_neg (by rw [hp, hm]; rfl), tier?_cons_of_pos hp]
        simp
  · have hnone : tier? pageTests p = none := by simp [tier?, pageTests, hp]
    rw [hnone, ← isPage_iff]
    simp [hp]

theorem isBest_iff {paths : List String} : IsBest pageTests paths e ↔ IsEntry paths e := by
  simp only [IsBest, ← Option.mem_def, mem_tier?_iff, IsEntry]
  constructor
  · rintro ⟨before, after, k, hl, ⟨he, rfl⟩, hb, ha⟩
    exact ⟨before, after, hl, he, fun p hm hp => hb p hm _ ⟨hp, rfl⟩, fun p hm hp => ha p hm _ ⟨hp, rfl⟩⟩
  · rintro ⟨before, after, hl, he, hb, ha⟩
    refine ⟨before, after, rank e, hl, ⟨he, rfl⟩, fun p hm j hj => ?_, fun p hm j hj => ?_⟩
    · exact hj.2 ▸ hb p hm hj.1
    · exact hj.2 ▸ ha p hm hj.1

/-- The page to start from is the first among those of the least rank. -/
theorem select?_eq_some_iff : select? F = some e ↔ IsEntry F.paths e := by
  rw [select?_eq_first?, first?_eq_some_iff, isBest_iff]

theorem IsEntry.isPage {paths : List String} (h : IsEntry paths e) : e ∈ paths ∧ IsPage e := by
  obtain ⟨before, after, rfl, he, -⟩ := h
  exact ⟨List.mem_append_right before List.mem_cons_self, he⟩

theorem select?_eq_none_iff : select? F = none ↔ ∀ p ∈ F.paths, ¬ IsPage p := by
  rw [select?_eq_first?, first?_eq_none_iff]
  refine forall_congr' fun p => forall_congr' fun _ => ?_
  rw [Option.eq_none_iff_forall_not_mem]
  simp only [mem_tier?_iff]
  exact ⟨fun h hp => h _ ⟨hp, rfl⟩, fun h k hk => h hk.1⟩

/-- A new page takes the place of the one chosen before only if its rank is strictly lower. -/
theorem beats_iff : Beats pageTests p (select? F) ↔ IsPage p ∧ ∀ e, select? F = some e → rank p < rank e := by
  simp only [Beats, mem_tier?_iff]
  constructor
  · rintro ⟨_, ⟨hp, rfl⟩, h⟩
    refine ⟨hp, fun e he => ?_⟩
    obtain ⟨_, ⟨-, rfl⟩, hlt⟩ := h e he
    exact hlt
  · rintro ⟨hp, h⟩
    exact ⟨_, ⟨hp, rfl⟩, fun e he => ⟨_, ⟨(select?_eq_some_iff.1 he).isPage.2, rfl⟩, h e he⟩⟩

/-- If any page is named `index.html`, the first of these is chosen. -/
theorem select?_of_isIndex (hp : p ∈ F.paths) (h : IsIndex p) :
    select? F = F.paths.find? fun p => decide (IsIndex p) := by
  cases hf : F.paths.find? fun p => decide (IsIndex p) with
  | none => exact absurd (decide_eq_true h) (List.find?_eq_none.1 hf p hp)
  | some e =>
    obtain ⟨he, before, after, hl, hb⟩ := List.find?_eq_some_iff_append.1 hf
    have he : IsIndex e := of_decide_eq_true he
    have hzero := rank_eq_zero_iff.2 he
    refine select?_eq_some_iff.2 ⟨before, after, hl, he.isPage, fun q hq _ => ?_, fun q _ _ => ?_⟩
    · have hne : ¬ IsIndex q := by simpa using hb q hq
      rw [hzero]
      exact Nat.pos_of_ne_zero fun hq => hne (rank_eq_zero_iff.1 hq)
    · rw [hzero]
      exact Nat.zero_le _

/-- A page is chosen exactly if there is one, and it is the least by rank and then by place; in particular the first
`index.html` if there is one. Its content is there. Contents have no say. A new file changes nothing, or it is chosen itself;
it is exactly if it is a page and ranks strictly before the page that was chosen without it, if one was. -/
theorem select?_stable (F : FileSet) :
    ((∃ e, select? F = some e) ↔ ∃ p ∈ F.paths, IsPage p) ∧
    (∀ e, select? F = some e ↔ IsEntry F.paths e) ∧
    ((∃ p ∈ F.paths, IsIndex p) → select? F = F.paths.find? fun p => decide (IsIndex p)) ∧
    (∀ e, select? F = some e → ∃ page, F.get? e = some page) ∧
    (∀ G : FileSet, G.paths = F.paths → select? G = select? F) ∧
    ∀ p content, p ∉ F.paths →
      (select? (F.insert p content) = select? F ∨ select? (F.insert p content) = some p) ∧
      (select? (F.insert p content) = some p ↔ IsPage p ∧ ∀ e, select? F = some e → rank p < rank e) := by
  refine ⟨?_, fun e => select?_eq_some_iff, ?_, fun e he => exists_get?_of_select? he, fun G hG => ?_, fun p content hp => ?_⟩
  · rw [← Option.isSome_iff_exists, Option.isSome_iff_ne_none, Ne, select?_eq_none_iff]
    simp
  · rintro ⟨p, hp, h⟩
    exact select?_of_isIndex hp h
  · rw [select?, select?, hG]
  · rw [← beats_iff, select?_eq_first?, select?_eq_first?, FileSet.paths_insert, if_neg hp]
    refine ⟨?_, first?_concat_eq_some_iff hp⟩
    by_cases hbeats : Beats pageTests p (first? pageTests F.paths)
    · exact .inr (first?_concat_of_beats hbeats)
    · exact .inl (first?_concat_of_not_beats hbeats)

/-- A site whose pages only look like an index. -/
def nearIndex : FileSet := .ofList [("site/about.html", ""), ("site/INDEX.HTML", ""), ("site/Index-old.htm", "old")]

/-- Another page with `index` in its path changes nothing; one that is named `index.html` is chosen. -/
theorem select?_stable_nearIndex :
    select? (nearIndex.insert "site/index/a.html" "a") = some "site/Index-old.htm" ∧
    select? (nearIndex.insert "site/docs/index.html" "b") = some "site/docs/index.html" := by
  have hinsert := (select?_stable nearIndex).2.2.2.2.2
  have hstays := (hinsert "site/index/a.html" "a" (by decide +kernel)).1.resolve_right fun h =>
    absurd (((hinsert "site/index/a.html" "a" (by decide +kernel)).2.1 h).2 "site/Index-old.htm" (by decide +kernel))
      (by decide +kernel)
  refine ⟨hstays.trans (by decide +kernel), (hinsert "site/docs/index.html" "b" (by decide +kernel)).2.2 ⟨?_, ?_⟩⟩
  · decide +kernel
  · intro e he
    obtain rfl : e = "site/Index-old.htm" := Option.some.inj (he.symm.trans (by decide +kernel))
    decide +kernel

end PageBundle.Entry
