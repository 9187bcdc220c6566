import Mathlib.Data.Bool.AllAny
import Mathlib.Data.List.Basic
import PageBundle.Proofs.Text.Word
import PageBundle.Proofs.Url.Path
import PageBundle.Text.Letter

/-! Names of hosts in ASCII. No such character is a mark, a joiner or of a script that runs from right to left, so a name
without forbidden characters, and without labels that say that they are encoded, is looked up in small letters. -/

namespace PageBundle.Url

open Text

variable {c : Char} {s name label : List Char} {labels : List (List Char)}

/-! ## The rules for labels -/

theorem contains_ofSpans_eq_false {l : List (Nat × Nat)} {n : Nat} (h : ∀ p ∈ l, n < p.1) :
    (Table.ofSpans l).contains n = false := by
  rw [Bool.eq_false_iff]
  intro hc
  obtain ⟨p, hp, hle, -⟩ := Table.exists_of_contains_ofSpans hc
  exact absurd hle (Nat.not_le.2 (h p hp))

theorem first_rightToLeftSpans : ∀ p ∈ rightToLeftSpans, 128 ≤ p.1 := by decide +kernel

theorem first_arabicDigitSpans : ∀ p ∈ arabicDigitSpans, 128 ≤ p.1 := by decide +kernel

theorem runsRightToLeft_eq_false (h : ∀ c ∈ label, c.toNat < 128) : runsRightToLeft label = false := by
  refine List.any_eq_false.2 fun c hc => ?_
  have hright : rightToLeftTable.contains c.toNat = false :=
    contains_ofSpans_eq_false fun p hp => Nat.lt_of_lt_of_le (h c hc) (first_rightToLeftSpans p hp)
  have hdigit : arabicDigitTable.contains c.toNat = false :=
    contains_ofSpans_eq_false fun p hp => Nat.lt_of_lt_of_le (h c hc) (first_arabicDigitSpans p hp)
  simp only [direction, hright, hdigit, Bool.false_eq_true, if_false]
  split_ifs <;> decide

theorem joinersFit_eq_true (h : ∀ c ∈ label, c.toNat < 128) (before : List Char) : joinersFit before label = true := by
  induction label generalizing before with
  | nil => rfl
  | cons c label ih =>
    rw [List.forall_mem_cons] at h
    have hne : ∀ d : Char, 128 ≤ d.toNat → (c == d) = false := by
      rintro d hd
      rw [beq_eq_false_iff_ne]
      rintro rfl
      exact absurd h.1 (Nat.not_lt.2 hd)
    rw [joinersFit, hne _ (by decide), hne _ (by decide), ih h.2]
    rfl

theorem isProper_eq_true (h : ∀ c ∈ label, c.toNat < 128) : isProper label = true := by
  rw [isProper, joinersFit_eq_true h]
  cases label with
  | nil => rfl
  | cons c label =>
    rw [List.forall_mem_cons] at h
    have hmark : isMark c = false := by
      rw [isMark, isNonspacing, decide_eq_false (Nat.not_le.2 h.1)]
      rfl
    rw [List.head?_cons, Option.any_some, hmark]
    rfl

theorem isName_eq_true (h : ∀ label ∈ labels, ∀ c ∈ label, c.toNat < 128) : isName labels = true := by
  have hproper : labels.all isProper = true := List.all_eq_true.2 fun label hl => isProper_eq_true (h label hl)
  have hleft : labels.any runsRightToLeft = false :=
    List.any_eq_false.2 fun label hl => Bool.eq_false_iff.1 (runsRightToLeft_eq_false (h label hl))
  rw [isName, hproper, hleft]
  rfl

theorem shown?_eq_some (h : ∀ c ∈ label, c.toNat < 128) (hx : ¬ "xn--".toList <+: label) : shown? label = some label := by
  unfold shown?
  split
  · exact absurd ⟨_, rfl⟩ hx
  · have hbeyond : label.any isBeyondAscii = false := by
      refine List.any_eq_false.2 fun c hc => ?_
      rw [isBeyondAscii, decide_eq_true_eq]
      exact Nat.not_le.2 (h c hc)
    rw [hbeyond, Bool.and_false]
    rfl

/-! ## Names -/

/-- A name of a host that needs no mapping but that of its letters. -/
structure IsPlainName (s : List Char) : Prop where
  ne_nil : s ≠ []
  ascii : ∀ c ∈ s, c.toNat < 128
  allowed : ∀ c ∈ s, isForbidden c.toLower = false
  labels : ∀ label ∈ (lower s).splitOn '.', ¬ "xn--".toList <+: label
  not_number : endsInNumber (lower s) = false

theorem isPlainName_of_all (hne : s ≠ []) (hascii : s.all (·.toNat < 128) = true)
    (hallowed : s.all (fun c => !isForbidden c.toLower) = true)
    (hlabels : ∀ label ∈ (lower s).splitOn '.', ¬ "xn--".toList <+: label) (hnumber : endsInNumber (lower s) = false) :
    IsPlainName s where
  ne_nil := hne
  ascii := List.all_iff_forall_prop.1 hascii
  allowed c hc := by simpa using List.all_eq_true.1 hallowed c hc
  labels := hlabels
  not_number := hnumber

theorem toNat_toLower_lt (h : c.toNat < 128) : c.toLower.toNat < 128 := by
  have hall : ∀ n < 128, (Char.ofNat n).toLower.toNat < 128 := by decide
  have := hall c.toNat h
  rwa [Char.ofNat_toNat] at this

theorem mapM_mapDomainChar (h : ∀ c ∈ name, c.toNat < 128) :
    name.mapM mapDomainChar = some (name.map fun c => [c.toLower]) := by
  induction name with
  | nil => rfl
  | cons c name ih =>
    rw [List.forall_mem_cons] at h
    rw [List.mapM_cons, ih h.2, mapDomainChar, if_pos h.1]
    rfl

theorem mapM_shown? (h : ∀ label ∈ labels, shown? label = some label) : labels.mapM shown? = some labels := by
  induction labels with
  | nil => rfl
  | cons label labels ih =>
    rw [List.forall_mem_cons] at h
    rw [List.mapM_cons, ih h.2, h.1]
    rfl

/-- A plain name is looked up in small letters. -/
theorem domain?_eq_some (h : IsPlainName s) : domain? s = some (lower s) := by
  have hflat : (s.map fun c => [c.toLower]).flatten = lower s := by
    rw [← List.flatMap_def, ← List.map_eq_flatMap, lower]
  have hlower : ∀ c ∈ lower s, c.toNat < 128 := by
    intro c hc
    obtain ⟨d, hd, rfl⟩ := List.mem_map.1 hc
    exact toNat_toLower_lt (h.ascii d hd)
  have hcomposed : composed (lower s) = lower s := by
    refine if_pos (List.all_eq_true.2 fun c hc => ?_)
    exact decide_eq_true (Nat.lt_trans (hlower c hc) (by decide))
  have hlabel : ∀ label ∈ (lower s).splitOn '.', ∀ c ∈ label, c.toNat < 128 :=
    fun label hl c hc => hlower c ((of_mem_splitOn hl).2 c hc)
  have hforbidden : (lower s).any isForbidden = false := by
    refine List.any_eq_false.2 fun c hc => ?_
    obtain ⟨d, hd, rfl⟩ := List.mem_map.1 hc
    exact Bool.eq_false_iff.1 (h.allowed d hd)
  rw [domain?, mapM_mapDomainChar h.ascii]
  dsimp only [bind, Option.bind]
  rw [hflat, hcomposed, mapM_shown? fun label hl => shown?_eq_some (hlabel label hl) (h.labels label hl)]
  dsimp only
  rw [hforbidden, isName_eq_true hlabel]
  rfl

theorem decodeBytes_eq (h : ∀ c ∈ s, c.toNat < 128 ∧ c ≠ '%') : decodeBytes s = s.map fun c => c.toNat.toUInt8 := by
  induction s with
  | nil => rfl
  | cons c s ih =>
    rw [List.forall_mem_cons] at h
    rw [decodeBytes, ih h.2, toList_toUTF8_singleton, utf8EncodeChar_of_lt h.1.1]
    · rfl
    · rintro a b r rfl -
      exact h.1.2 rfl

theorem decodeLossyFrom_eq (h : ∀ c ∈ s, c.toNat < 128) (seen : List Char) (fuel : Nat) (hf : s.length < fuel) :
    decodeLossyFrom fuel seen (s.map fun c => c.toNat.toUInt8) = seen.reverse ++ s := by
  induction s generalizing seen fuel with
  | nil =>
    obtain ⟨fuel, rfl⟩ := Nat.exists_eq_succ_of_ne_zero (Nat.ne_of_gt hf)
    rw [List.append_nil]
    rfl
  | cons c s ih =>
    obtain ⟨fuel, rfl⟩ := Nat.exists_eq_succ_of_ne_zero (Nat.ne_of_gt (Nat.zero_lt_of_lt hf))
    rw [List.forall_mem_cons] at h
    have hbyte : c.toNat.toUInt8.toNat = c.toNat := UInt8.toNat_ofNat_of_lt' (Nat.lt_trans h.1 (by decide))
    have hlength : sequenceLength c.toNat.toUInt8 = 1 := by
      rw [sequenceLength, if_pos]
      rw [UInt8.lt_iff_toNat_lt, hbyte]
      exact h.1
    have hmore : ∀ r, following c.toNat.toUInt8 1 r = [] := by
      intro r
      cases r <;> rfl
    rw [List.map_cons, decodeLossyFrom, hlength, hmore]
    dsimp only [List.length_nil, List.foldl_nil]
    rw [List.drop_zero, ih h.2 _ _ (Nat.lt_of_succ_lt_succ hf), if_neg (by decide), if_pos (by decide), hbyte, Char.ofNat_toNat]
    simp

/-- Text without a percent sign decodes to itself. -/
theorem decode_eq_self (h : ∀ c ∈ s, c.toNat < 128 ∧ c ≠ '%') : decode s = s := by
  rw [decode, decodeBytes_eq h, decodeLossy, List.length_map]
  exact decodeLossyFrom_eq (fun c hc => (h c hc).1) [] _ (Nat.lt_succ_self _)

theorem toNat_lt_of_toLower (h : c.toLower.toNat < 128) : c.toNat < 128 := by
  unfold Char.toLower at h
  split at h
  · rename_i hc
    exact Nat.lt_of_le_of_lt (UInt32.le_iff_toNat_le.1 hc.2) (by decide)
  · exact h

/-- A name of a host in another case of its letters. -/
theorem IsPlainName.of_lower (ht : IsPlainName t) (h : lower s = lower t) : IsPlainName s where
  ne_nil := by
    rintro rfl
    exact ht.ne_nil (List.map_eq_nil_iff.1 h.symm)
  ascii := by
    intro c hc
    have hm : c.toLower ∈ lower t := h ▸ List.mem_map_of_mem hc
    obtain ⟨d, hd, he⟩ := List.mem_map.1 hm
    exact toNat_lt_of_toLower (he ▸ toNat_toLower_lt (ht.ascii d hd))
  allowed := by
    intro c hc
    have hm : c.toLower ∈ lower t := h ▸ List.mem_map_of_mem hc
    obtain ⟨d, hd, he⟩ := List.mem_map.1 hm
    exact he ▸ ht.allowed d hd
  labels := h ▸ ht.labels
  not_number := h ▸ ht.not_number

/-- No character of a plain name has a meaning of its own in an address. -/
theorem IsPlainName.ne (h : IsPlainName s) {d : Char} (hd : isForbidden d.toLower = true) : d ∉ s := by
  intro hm
  rw [h.allowed d hm] at hd
  cases hd

theorem IsPlainName.lt_toNat (h : IsPlainName s) (hc : c ∈ s) : 32 < c.toNat := by
  have hsmall : ∀ n ≤ 32, isForbidden (Char.ofNat n).toLower = true := by decide
  by_contra hle
  have hf := hsmall c.toNat (Nat.le_of_not_lt hle)
  rw [Char.ofNat_toNat] at hf
  exact h.ne hf hc

theorem ofSpecial_eq_ok (h : IsPlainName s) : Host.ofSpecial s = .ok (.domain (lower s)) := by
  have hbracket : (s.head? == some '[') = false := by
    rw [beq_eq_false_iff_ne]
    intro hhead
    exact h.ne (by decide) (List.mem_of_mem_head? hhead)
  have hdecode : decode s = s := decode_eq_self fun c hc => ⟨h.ascii c hc, fun he => h.ne (by decide) (he ▸ hc)⟩
  obtain ⟨c, r, hs⟩ := List.exists_cons_of_ne_nil (mt List.map_eq_nil_iff.1 h.ne_nil : lower s ≠ [])
  have hnumber := h.not_number
  rw [Host.ofSpecial, hbracket, hdecode, domain?_eq_some h]
  rw [hs] at hnumber ⊢
  dsimp only
  rw [hnumber]
  rfl

end PageBundle.Url
