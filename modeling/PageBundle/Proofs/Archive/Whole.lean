import PageBundle.Proofs.Archive.Budget

/-! Archives are read as a whole or not at all. If reading succeeds then every member has been unpacked to its end and
all of them fit in the budget together, so the set has every text that the archive has. -/

namespace PageBundle.Archive

variable {b : ByteArray} {r : Record} {rs : List Record} {cap left i : Nat} {files out : FileSet} {ms : List Member}
  {l : List Content}

/-- A set with all that is text in an archive whose members can be unpacked and fit in the budget together. -/
def IsWhole (b : ByteArray) (files : FileSet) : Prop :=
  ∃ l, contents? b = some l ∧ weight l ≤ maxBytes ∧ files = .ofList (l.filterMap Content.entry?)

/-- A reader that stops below the budget has come to the end of its member. -/
theorem exists_unpack? (h : collectFrom cap i left files (open? b r :: ms) = .ok out) (hleft : left < maxCount) :
    ∃ c, unpack? b r = some c ∧ c.weight ≤ left := by
  cases ho : open? b r with
  | refused why =>
    rw [ho] at h
    cases h
  | directory =>
    refine ⟨⟨r.name, true, .empty, Nat.zero_le _⟩, ?_, Nat.zero_le _⟩
    rw [unpack?, ho]
  | file name read =>
    obtain ⟨start, rfl⟩ := open?_eq_file ho
    rw [ho, collectFrom, Nat.min_eq_left hleft] at h
    cases hx : extract b r start (left + 1) with
    | mk bytes damage =>
      rw [hx] at h
      dsimp only at h
      split at h
      · cases h
      · rename_i hle
        cases damage with
        | some why => cases h
        | none =>
          have hread := reads_extract hx (Nat.lt_succ_of_le (Nat.le_of_not_lt hle))
          have hfits : bytes.size ≤ maxCount := Nat.le_trans (Nat.le_of_not_lt hle) (Nat.le_of_lt hleft)
          refine ⟨⟨name, false, bytes, hfits⟩, ?_, Nat.le_of_not_lt hle⟩
          rw [unpack?, ho]
          dsimp only
          rw [hread.whole _ (Nat.le_succ_of_le hfits), Extracted.content?, dif_pos ⟨hfits, rfl⟩]

theorem exists_mapM_unpack? (h : collectFrom cap i left files (rs.map (open? b)) = .ok out) (hleft : left < maxCount) :
    ∃ l, rs.mapM (unpack? b) = some l ∧ weight l ≤ left := by
  induction rs generalizing i left files with
  | nil => exact ⟨[], rfl, Nat.zero_le _⟩
  | cons r rs ih =>
    rw [List.map_cons] at h
    obtain ⟨c, hc, hw⟩ := exists_unpack? h hleft
    rw [collectFrom_cons_of_le (tells_of_unpack? hc) hw] at h
    obtain ⟨l, hl, hlw⟩ := ih h (Nat.lt_of_le_of_lt (Nat.sub_le _ _) hleft)
    refine ⟨c :: l, ?_, ?_⟩
    · rw [List.mapM_cons, hc, hl]
      rfl
    · rw [weight_cons]
      omega

/-- An archive that can be unpacked and fits in the budget is read into the set of all its texts. -/
theorem read_of_contents? (h : contents? b = some l) (hw : weight l ≤ maxBytes) :
    read b = .ok (.ofList (l.filterMap Content.entry?)) := by
  obtain ⟨rs, hrs, ht⟩ := exists_tells_of_contents? h
  rw [read, readCapped, hrs]
  dsimp only
  rw [collect_of_le ht hw]
  rfl

/-- Reading an archive succeeds exactly with the set of all that is text in it. -/
theorem read_eq_ok_iff : read b = .ok files ↔ IsWhole b files := by
  constructor
  · intro h
    obtain ⟨l, hl, hw⟩ : ∃ l, contents? b = some l ∧ weight l ≤ maxBytes := by
      unfold read readCapped at h
      split at h
      · rename_i rs hrs
        rw [contents?, hrs]
        cases hc : collect maxBytes (rs.map (open? b)) with
        | error why =>
          rw [hc] at h
          cases h
        | ok out => exact exists_mapM_unpack? hc (by decide)
      · cases h
    exact ⟨l, hl, hw, Except.ok.inj (h.symm.trans (read_of_contents? hl hw))⟩
  · rintro ⟨l, hl, hw, rfl⟩
    exact read_of_contents? hl hw

end PageBundle.Archive
