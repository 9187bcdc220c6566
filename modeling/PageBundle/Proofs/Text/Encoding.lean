import PageBundle.FileSet

/-! Text in bytes. A byte order mark is the encoding of one character, so taking its bytes away before decoding and
taking the character away afterwards give the same text, and bytes with a mark are text exactly if they are so
without it. -/

namespace PageBundle

namespace Bytes

variable {b c : ByteArray} {i : Nat} {mark : List UInt8}

theorem at0_eq (h : i < b.size) : at0 b i = b[i] := dif_pos h

theorem at0_append_left (h : i < b.size) : at0 (b ++ c) i = at0 b i := by
  have hs : i < (b ++ c).size := by
    rw [ByteArray.size_append]
    omega
  rw [at0_eq h, at0_eq hs, ByteArray.getElem_append_left h]

theorem hasAt_zero_iff : hasAt b 0 mark = true ↔ b = mark.toByteArray ++ b.extract mark.length b.size := by
  rw [hasAt, Bool.and_eq_true_iff, decide_eq_true_iff, beq_iff_eq, Nat.zero_add]
  constructor
  · rintro ⟨hs, hm⟩
    have hfront : b.extract 0 mark.length = mark.toByteArray := by
      refine ByteArray.ext_getElem (by simp [hs]) fun i h1 h2 => ?_
      rw [List.size_toByteArray] at h2
      have hi := congrArg (·[i]?) hm
      simp only [h2, getElem?_pos, List.getElem?_map, List.length_range, List.getElem_range, Option.map_some,
        Nat.zero_add, Option.some.injEq] at hi
      rw [at0_eq (by omega)] at hi
      rw [ByteArray.getElem_extract, List.getElem_toByteArray, ← hi]
      congr 1
      exact Nat.zero_add i
    rw [← hfront, ByteArray.extract_append_extract]
    simp
  · intro h
    have hs : mark.length ≤ b.size := by
      have := congrArg ByteArray.size h
      rw [ByteArray.size_append, List.size_toByteArray] at this
      omega
    refine ⟨hs, List.ext_getElem (by simp) fun i h1 h2 => ?_⟩
    rw [List.getElem_map, List.getElem_range, Nat.zero_add, h, at0_append_left (by simpa using h2),
      at0_eq (by simpa using h2), List.getElem_toByteArray]

end Bytes

theorem fromUTF8?_eq_some_iff {b : ByteArray} {t : String} : String.fromUTF8? b = some t ↔ b = t.toByteArray := by
  unfold String.fromUTF8?
  constructor
  · intro h
    split at h
    · cases h
      rfl
    · cases h
  · rintro rfl
    rw [dif_pos t.isValidUTF8]
    rfl

/-- A text without the byte order mark that it may begin with. -/
def withoutMark (t : String) : String :=
  match t.toList with
  | '\uFEFF' :: cs => String.ofList cs
  | _ => t

namespace FileSet

theorem utf8Encode_mark : ['\uFEFF'].utf8Encode = byteOrderMark.toByteArray := by decide +kernel

theorem toByteArray_ofList_mark (t : String) :
    (String.ofList ('\uFEFF' :: t.toList)).toByteArray = byteOrderMark.toByteArray ++ t.toByteArray := by
  rw [String.toByteArray_ofList, List.utf8Encode_cons, utf8Encode_mark, String.utf8Encode_toList]

theorem fromUTF8?_mark_append (b : ByteArray) :
    String.fromUTF8? (byteOrderMark.toByteArray ++ b) =
      (String.fromUTF8? b).map fun t => String.ofList ('\uFEFF' :: t.toList) := by
  ext t
  rw [fromUTF8?_eq_some_iff, Option.map_eq_some_iff]
  constructor
  · intro h
    have hv : b.IsValidUTF8 := by
      rw [← ByteArray.isValidUTF8_utf8Encode_singleton_append_iff (c := '\uFEFF'), utf8Encode_mark, h]
      exact t.isValidUTF8
    refine ⟨⟨b, hv⟩, fromUTF8?_eq_some_iff.2 rfl, String.toByteArray_inj.1 ?_⟩
    rw [toByteArray_ofList_mark, ← h]
  · rintro ⟨u, hu, rfl⟩
    rw [toByteArray_ofList_mark, fromUTF8?_eq_some_iff.1 hu]

theorem withoutMark_ofList_mark (t : String) : withoutMark (String.ofList ('\uFEFF' :: t.toList)) = t := by
  rw [withoutMark, String.toList_ofList]
  exact String.ofList_toList

theorem withoutMark_of_hasAt {t : String} (h : Bytes.hasAt t.toByteArray 0 byteOrderMark ≠ true) :
    withoutMark t = t := by
  unfold withoutMark
  split
  · rename_i cs ht
    refine absurd (Bytes.hasAt_zero_iff.2 ?_) h
    have hb : t.toByteArray = byteOrderMark.toByteArray ++ (String.ofList cs).toByteArray := by
      rw [← toByteArray_ofList_mark, String.toList_ofList, ← ht, String.ofList_toList]
    rw [hb, ByteArray.extract_append_eq_right (by rw [List.size_toByteArray])
      (by rw [ByteArray.size_append])]
  · rfl

theorem text?_eq (b : ByteArray) : text? b = (String.fromUTF8? b).map withoutMark := by
  unfold text?
  split
  · rename_i h
    rw [Bytes.hasAt_zero_iff] at h
    generalize b.extract byteOrderMark.length b.size = rest at h ⊢
    subst h
    rw [fromUTF8?_mark_append, Option.map_map]
    have hid : withoutMark ∘ (fun t : String => String.ofList ('\uFEFF' :: t.toList)) = id :=
      funext withoutMark_ofList_mark
    rw [hid, Option.map_id_apply]
  · rename_i h
    cases ht : String.fromUTF8? b with
    | none => rfl
    | some t =>
      rw [fromUTF8?_eq_some_iff.1 ht] at h
      rw [Option.map_some, withoutMark_of_hasAt h]

end FileSet

theorem utf8ByteSize_withoutMark_le (t : String) : (withoutMark t).utf8ByteSize ≤ t.utf8ByteSize := by
  unfold withoutMark
  split
  · rename_i cs ht
    have hb := congrArg ByteArray.size (FileSet.toByteArray_ofList_mark (String.ofList cs))
    rw [String.toList_ofList, ← ht, String.ofList_toList, ByteArray.size_append] at hb
    exact Nat.le_trans (Nat.le_add_left _ _) (Nat.le_of_eq hb.symm)
  · exact Nat.le_refl _

end PageBundle
