import Mathlib.Tactic.IntervalCases
import Mathlib.Tactic.SplitIfs
import PageBundle.Url.Parse

/-! Characters written by their bytes. What encoding writes needs no encoding, so to encode twice is to encode once. It
writes no dot, in either spelling, because a dot is not encoded; so a segment means "here" or "one up" only if it did so
before. -/

namespace PageBundle.Url

variable {c : Char} {s t : List Char} {f : Char → Bool}

/-! ## Bytes of characters -/

theorem toList_loop (b : ByteArray) (i : Nat) (done : List UInt8) :
    ByteArray.toList.loop b i done = done.reverse ++ b.data.toList.drop i := by
  fun_induction ByteArray.toList.loop b i done with
  | case1 i done hi ih =>
    have hget : b.get! i = b.data[i] := getElem!_pos b.data i hi
    rw [ih, hget, List.reverse_cons, List.append_assoc, ← Array.getElem_toList hi, List.singleton_append,
      ← List.drop_eq_getElem_cons]
  | case2 i done hi =>
    rw [List.drop_eq_nil_of_le (Nat.le_of_not_lt hi), List.append_nil]

theorem toList_toUTF8_singleton (c : Char) : (String.singleton c).toUTF8.toList = String.utf8EncodeChar c := by
  rw [String.toUTF8_eq_toByteArray, ← String.utf8Encode_toList, ByteArray.toList, toList_loop, List.utf8Encode,
    List.data_toByteArray]
  simp

theorem utf8EncodeChar_of_lt (hc : c.toNat < 128) : String.utf8EncodeChar c = [c.toNat.toUInt8] := by
  rw [String.utf8EncodeChar]
  exact if_pos (Nat.le_of_lt_succ hc)

/-- The first byte of a character beyond ASCII is not that of one of ASCII. -/
theorem exists_utf8EncodeChar_eq (hc : 128 ≤ c.toNat) :
    ∃ b bs, String.utf8EncodeChar c = b :: bs ∧ 128 ≤ b.toNat := by
  have hlt : c.toNat < 0x110000 := by
    have := c.valid
    simp only [UInt32.isValidChar, Nat.isValidChar] at this
    exact this.elim (fun h => h.trans (by decide)) And.right
  unfold String.utf8EncodeChar
  change 128 ≤ c.val.toNat at hc
  change c.val.toNat < 0x110000 at hlt
  generalize c.val.toNat = n at hc hlt
  dsimp only
  split_ifs
  · omega
  all_goals
    refine ⟨_, _, rfl, ?_⟩
    rw [UInt8.toNat_ofNat']
    omega

/-! ## What encoding writes -/

theorem percentByte_digits (n : Nat) (hn : n < 16) :
    let d := Char.ofNat (if n < 10 then 48 + n else 55 + n)
    encodedInPath d = false ∧ d ≠ '/' ∧ d ≠ '\\' ∧ d ≠ 'e' ∧ (d = '2' → n = 2) ∧ (d = 'E' → n = 14) := by
  interval_cases n <;> decide

theorem percentByte_eq (b : UInt8) : ∃ x y, percentByte b = ['%', x, y] ∧
    (∀ c ∈ ['%', x, y], encodedInPath c = false ∧ c ≠ '/' ∧ c ≠ '\\') ∧
    (x = '2' → y = 'e' ∨ y = 'E' → b.toNat = 46) := by
  have hb := b.toNat_lt
  have hx := percentByte_digits (b.toNat / 16) (by omega)
  have hy := percentByte_digits (b.toNat % 16) (by omega)
  refine ⟨_, _, rfl, ?_, ?_⟩
  · intro c hc
    simp only [List.mem_cons, List.not_mem_nil, or_false] at hc
    rcases hc with rfl | rfl | rfl
    · decide
    · exact ⟨hx.1, hx.2.1, hx.2.2.1⟩
    · exact ⟨hy.1, hy.2.1, hy.2.2.1⟩
  · rintro h2 (he | hE)
    · exact absurd he hy.2.2.2.1
    · have h1 := hx.2.2.2.2.1 h2
      have h2 := hy.2.2.2.2.2 hE
      omega

theorem mem_percentChar {d : Char} (h : d ∈ percentChar c) : encodedInPath d = false ∧ d ≠ '/' ∧ d ≠ '\\' := by
  obtain ⟨b, -, hd⟩ := List.mem_flatMap.1 h
  obtain ⟨x, y, hb, hmem, -⟩ := percentByte_eq b
  rw [hb] at hd
  exact hmem d hd

/-- A character that is written by its bytes does not begin with a dot so written, unless it is a dot. -/
theorem percentChar_eq (c : Char) : ∃ x y r, percentChar c = '%' :: x :: y :: r ∧
    (x = '2' → y = 'e' ∨ y = 'E' → c = '.') := by
  rw [percentChar, toList_toUTF8_singleton]
  by_cases hc : c.toNat < 128
  · obtain ⟨x, y, hb, -, hdot⟩ := percentByte_eq c.toNat.toUInt8
    refine ⟨x, y, [], by rw [utf8EncodeChar_of_lt hc]; simp [hb], fun hx hy => ?_⟩
    have hn := hdot hx hy
    rw [UInt8.toNat_ofNat_of_lt' (Nat.lt_trans hc (by decide))] at hn
    rw [← Char.ofNat_toNat c, hn]
  · obtain ⟨b, bs, hbs, hlt⟩ := exists_utf8EncodeChar_eq (Nat.le_of_not_lt hc)
    obtain ⟨x, y, hb, -, hdot⟩ := percentByte_eq b
    refine ⟨x, y, bs.flatMap percentByte, by rw [hbs]; simp [hb], fun hx hy => ?_⟩
    have hn := hdot hx hy
    omega

theorem encode_cons : encode f (c :: s) = (if f c then percentChar c else [c]) ++ encode f s := List.flatMap_cons

theorem encode_eq_self (h : ∀ c ∈ s, f c = false) : encode f s = s := by
  induction s with
  | nil => rfl
  | cons c s ih =>
    rw [List.forall_mem_cons] at h
    rw [encode_cons, h.1, ih h.2]
    rfl

theorem mem_encode {d : Char} (h : d ∈ encode encodedInPath s) :
    encodedInPath d = false ∧ (d = '/' ∨ d = '\\' → d ∈ s) := by
  obtain ⟨c, hc, hd⟩ := List.mem_flatMap.1 h
  split at hd
  · obtain ⟨hd, hslash, hback⟩ := mem_percentChar hd
    exact ⟨hd, fun h => h.elim (absurd · hslash) (absurd · hback)⟩
  · rename_i hcode
    rw [List.mem_singleton] at hd
    subst hd
    exact ⟨Bool.eq_false_iff.2 hcode, fun _ => hc⟩

theorem encode_eq_nil (h : encode encodedInPath s = []) : s = [] := by
  cases s with
  | nil => rfl
  | cons c s =>
    obtain ⟨x, y, r, hr, -⟩ := percentChar_eq c
    rw [encode_cons, hr] at h
    split at h <;> cases h

/-- A character other than the percent sign stands first in what was encoded if it stood there before. -/
theorem eq_cons_of_encode (hc : c ≠ '%') (h : encode encodedInPath s = c :: t) :
    ∃ r, s = c :: r ∧ t = encode encodedInPath r := by
  cases s with
  | nil => cases h
  | cons d s =>
    rw [encode_cons] at h
    split at h
    · obtain ⟨x, y, r, hr, -⟩ := percentChar_eq d
      rw [hr] at h
      cases h
      exact absurd rfl hc
    · cases h
      exact ⟨s, rfl, rfl⟩

/-! ## Dots -/

theorem dropDot?_eq_some_iff :
    dropDot? s = some t ↔ s = '.' :: t ∨ s = '%' :: '2' :: 'e' :: t ∨ s = '%' :: '2' :: 'E' :: t := by
  constructor
  · intro h
    unfold dropDot? at h
    split at h <;> cases h <;> simp
  · rintro (rfl | rfl | rfl) <;> rfl

/-- A dot that is read in encoded text was one before. -/
theorem dropDot?_of_encode (h : dropDot? (encode encodedInPath s) = some t) :
    ∃ r, dropDot? s = some r ∧ t = encode encodedInPath r := by
  rcases dropDot?_eq_some_iff.1 h with h | h
  · obtain ⟨r, rfl, rfl⟩ := eq_cons_of_encode (by decide) h
    exact ⟨r, rfl, rfl⟩
  · -- Both spellings by bytes: the percent sign stood there before, since an encoded character gives other digits.
    obtain ⟨e, he, h⟩ : ∃ e, (e = 'e' ∨ e = 'E') ∧ encode encodedInPath s = '%' :: '2' :: e :: t :=
      h.elim (fun h => ⟨'e', .inl rfl, h⟩) fun h => ⟨'E', .inr rfl, h⟩
    cases s with
    | nil => cases h
    | cons c s =>
      rw [encode_cons] at h
      split at h
      · rename_i hc
        obtain ⟨x, y, r, hr, hdot⟩ := percentChar_eq c
        rw [hr] at h
        cases h
        rw [hdot rfl he] at hc
        exact absurd hc (by decide)
      · have hne : e ≠ '%' := by
          rcases he with rfl | rfl <;> decide
        obtain ⟨rfl, htail⟩ := List.cons.inj h
        obtain ⟨s, rfl, hs⟩ := eq_cons_of_encode (by decide) htail
        obtain ⟨r, rfl, rfl⟩ := eq_cons_of_encode hne hs.symm
        refine ⟨r, dropDot?_eq_some_iff.2 ?_, rfl⟩
        rcases he with rfl | rfl
        · exact .inr (.inl rfl)
        · exact .inr (.inr rfl)

/-- Whether a segment is a step "here" or "one up". -/
def isDots (s : List Char) : Bool := isDot s || isDoubleDot s

theorem isDot_of_encode (h : isDot (encode encodedInPath s) = true) : isDot s = true := by
  rw [isDot, beq_iff_eq] at h ⊢
  obtain ⟨r, hr, hnil⟩ := dropDot?_of_encode h
  rw [hr, encode_eq_nil hnil.symm]

/-- Encoding makes no step "here" or "one up". -/
theorem isDots_encode (h : isDots s = false) : isDots (encode encodedInPath s) = false := by
  rw [Bool.eq_false_iff, Ne, isDots, Bool.or_eq_true] at h ⊢
  rintro (hdot | hdots)
  · exact h (.inl (isDot_of_encode hdot))
  · rw [isDoubleDot, Option.any_eq_true] at hdots
    obtain ⟨t, ht, hdot⟩ := hdots
    obtain ⟨r, hr, rfl⟩ := dropDot?_of_encode ht
    refine h (.inr ?_)
    rw [isDoubleDot, hr]
    exact isDot_of_encode hdot

end PageBundle.Url
