import PageBundle.Archive.Read

/-! Reading a member with a limit. Decoding only ever adds to the output, and a limit changes none of its steps but
only ends it early. So what a smaller limit gives is either all that a larger one gives or a beginning of it that has
reached the smaller limit, and a member that can be read to its end gives all its bytes to every reader that asks
for at least as many. -/

namespace PageBundle.Archive

/-- Whether some output can grow into another. -/
def Extends (out out' : ByteArray) : Prop := ∃ more, out' = out ++ more

namespace Extends

variable {a b c : ByteArray}

theorem refl (a : ByteArray) : Extends a a := ⟨.empty, ByteArray.append_empty.symm⟩

theorem append (a more : ByteArray) : Extends a (a ++ more) := ⟨more, rfl⟩

theorem push (a : ByteArray) (x : UInt8) : Extends a (a.push x) := by
  refine ⟨ByteArray.empty.push x, ?_⟩
  ext1
  rw [ByteArray.data_append]
  exact Array.push_eq_append

theorem trans (h : Extends a b) (h' : Extends b c) : Extends a c := by
  obtain ⟨m, rfl⟩ := h
  obtain ⟨n, rfl⟩ := h'
  exact ⟨m ++ n, ByteArray.append_assoc⟩

theorem eq_of_size_le (h : Extends a b) (hs : b.size ≤ a.size) : a = b := by
  obtain ⟨m, rfl⟩ := h
  rw [ByteArray.size_append] at hs
  have hm : m = .empty := ByteArray.size_eq_zero_iff.1 (by omega)
  rw [hm, ByteArray.append_empty]

end Extends

namespace Inflate

variable {codes : Codes} {k limit : Nat}

def Step.written : Step → ByteArray
  | .more _ out | .blockEnd _ out | .stop _ out => out

/-- Whether a step is another one, or one that stopped on its way there with at least `k` bytes. -/
def Step.IsCut (k : Nat) (short full : Step) : Prop :=
  short = full ∨ ∃ p, short = .stop .enough p ∧ k ≤ p.size ∧ Extends p full.written

/-- Whether a result is another one, or a beginning of it with at least `k` bytes. -/
def IsCut (k : Nat) (short full : ByteArray × Stop) : Prop :=
  short = full ∨ ∃ p, short = (p, .enough) ∧ k ≤ p.size ∧ Extends p full.1

/-- How decoding goes on after a block, given what it does with the rest. -/
def next (last : Bool) (limit : Nat) (rest : Cursor → ByteArray → ByteArray × Stop) : Step → ByteArray × Stop
  | .more c out => rest c out
  | .blockEnd c out =>
    if last then (out, .finished)
    else if limit ≤ out.size then (out, .enough)
    else rest c out
  | .stop e out => (out, e)

theorem blocks_succ (limit fuel : Nat) (c : Cursor) (out : ByteArray) :
    blocks limit (fuel + 1) c out =
      match header c with
      | .error e => (out, e)
      | .ok (last, type, c) => next last limit (blocks limit fuel) (block type limit (fuel + 1) c out) := by
  rw [blocks]
  cases header c <;> rfl

theorem extends_copy (distance n : Nat) (out : ByteArray) : Extends out (copy distance n out) := by
  induction n generalizing out with
  | zero => exact .refl out
  | succ n ih => exact (Extends.push out _).trans (ih _)

theorem extends_symbolStep (codes : Codes) (c : Cursor) (out : ByteArray) :
    Extends out (symbolStep codes c out).written := by
  unfold symbolStep
  split
  · exact .refl out
  · split
    · exact .push out _
    · split
      · exact .refl out
      · split
        · exact .refl out
        · split
          · exact .refl out
          · exact extends_copy _ _ out

theorem extends_symbols (codes : Codes) (limit fuel : Nat) (c : Cursor) (out : ByteArray) :
    Extends out (symbols codes limit fuel c out).written := by
  induction fuel generalizing c out with
  | zero => exact .refl out
  | succ fuel ih =>
    have hstep := extends_symbolStep codes c out
    rw [symbols]
    split
    · exact .refl out
    · split
      · rename_i hs
        rw [hs] at hstep
        exact hstep.trans (ih _ _)
      · exact hstep

theorem extends_stored (c : Cursor) (out : ByteArray) : Extends out (stored c out).written := by
  unfold stored
  dsimp only
  split
  · exact .refl out
  · split
    · exact .refl out
    · split
      · exact .refl out
      · split <;> exact .append out _

theorem extends_block (type limit fuel : Nat) (c : Cursor) (out : ByteArray) :
    Extends out (block type limit fuel c out).written := by
  unfold block
  split
  · exact extends_stored c out
  · exact extends_symbols _ limit fuel c out
  · split
    · exact .refl out
    · exact extends_symbols _ limit fuel _ out
  · exact .refl out

theorem extends_next {last : Bool} {rest : Cursor → ByteArray → ByteArray × Stop}
    (hrest : ∀ c out, Extends out (rest c out).1) (s : Step) : Extends s.written (next last limit rest s).1 := by
  cases s with
  | more c out => exact hrest c out
  | blockEnd c out =>
    rw [next]
    split
    · exact .refl out
    · split
      · exact .refl out
      · exact hrest c out
  | stop e out => exact .refl out

/-- Decoding only ever adds to the output. -/
theorem extends_blocks (limit fuel : Nat) (c : Cursor) (out : ByteArray) :
    Extends out (blocks limit fuel c out).1 := by
  induction fuel generalizing c out with
  | zero => exact .refl out
  | succ fuel ih =>
    rw [blocks_succ]
    split
    · exact .refl out
    · exact (extends_block _ limit (fuel + 1) _ out).trans (extends_next ih _)

theorem isCut_symbols (h : k ≤ limit) (fuel : Nat) (c : Cursor) (out : ByteArray) :
    (symbols codes k fuel c out).IsCut k (symbols codes limit fuel c out) := by
  induction fuel generalizing c out with
  | zero => exact .inl rfl
  | succ fuel ih =>
    -- Up to the smaller limit both runs take the same step.
    by_cases hk : k ≤ out.size
    · refine .inr ⟨out, ?_, hk, extends_symbols codes limit _ c out⟩
      rw [symbols, if_pos hk]
    · have hl : ¬limit ≤ out.size := by omega
      rw [symbols, symbols, if_neg hk, if_neg hl]
      split
      · exact ih _ _
      · exact .inl rfl

theorem isCut_block (h : k ≤ limit) (type fuel : Nat) (c : Cursor) (out : ByteArray) :
    (block type k fuel c out).IsCut k (block type limit fuel c out) := by
  unfold block
  split
  · exact .inl rfl
  · exact isCut_symbols h fuel c out
  · split
    · exact .inl rfl
    · exact isCut_symbols h fuel _ out
  · exact .inl rfl

theorem isCut_next {last : Bool} {short full : Cursor → ByteArray → ByteArray × Stop} (h : k ≤ limit)
    (hfull : ∀ c out, Extends out (full c out).1) (hcut : ∀ c out, IsCut k (short c out) (full c out)) (s : Step) :
    IsCut k (next last k short s) (next last limit full s) := by
  cases s with
  | more c out => exact hcut c out
  | blockEnd c out =>
    cases last with
    | true => exact .inl rfl
    | false =>
      by_cases hk : k ≤ out.size
      · exact .inr ⟨out, if_pos hk, hk, extends_next hfull (.blockEnd c out)⟩
      · have hl : ¬limit ≤ out.size := by omega
        simp only [next, Bool.false_eq_true, if_false, if_neg hk, if_neg hl]
        exact hcut c out
  | stop e out => exact .inl rfl

/-- Decoding to a lower limit gives the same, or the beginning of it. -/
theorem isCut_blocks (h : k ≤ limit) (fuel : Nat) (c : Cursor) (out : ByteArray) :
    IsCut k (blocks k fuel c out) (blocks limit fuel c out) := by
  induction fuel generalizing c out with
  | zero => exact .inl rfl
  | succ fuel ih =>
    rw [blocks_succ, blocks_succ]
    split
    · exact .inl rfl
    · rename_i last type c' _
      obtain hb | ⟨p, hp, hk, hext⟩ := isCut_block h type (fuel + 1) c' out
      · rw [hb]
        exact isCut_next h (extends_blocks limit fuel) ih _
      · rw [hp]
        exact .inr ⟨p, rfl, hk, hext.trans (extends_next (extends_blocks limit fuel) _)⟩

end Inflate

theorem isCut_inflate {k limit : Nat} (h : k ≤ limit) (data : ByteArray) :
    Inflate.IsCut k (inflate data k) (inflate data limit) := Inflate.isCut_blocks h _ _ _

section Record

variable {b bytes : ByteArray} {r : Record} {start k limit : Nat} {x : ByteArray × Inflate.Stop}

def Record.decode (r : Record) (b : ByteArray) (start limit : Nat) : ByteArray × Inflate.Stop :=
  if r.method = 0 then (Bytes.slice b start r.size, .finished) else inflate (Bytes.slice b start r.size) limit

/-- What was decoded, with what is wrong with it. -/
def Record.check (r : Record) (x : ByteArray × Inflate.Stop) : Extracted :=
  if x.2 = .corrupt ∨ x.2 = .truncated then ⟨x.1, some .deflate⟩
  else if Archive.checksum x.1 = r.checksum then ⟨x.1, none⟩
  else ⟨x.1, some .checksum⟩

/-- Extraction is decoding and then a check. -/
theorem extract_eq (b : ByteArray) (r : Record) (start limit : Nat) :
    extract b r start limit = r.check (r.decode b start limit) := by
  unfold extract Record.decode
  split <;> rfl

theorem Record.isCut_decode (h : k ≤ limit) : Inflate.IsCut k (r.decode b start k) (r.decode b start limit) := by
  unfold decode
  split
  · exact .inl rfl
  · exact isCut_inflate h _

theorem Record.check_bytes (r : Record) (x : ByteArray × Inflate.Stop) : (r.check x).bytes = x.1 := by
  unfold check
  split
  · rfl
  · split <;> rfl

/-- A member is undamaged exactly if its data end well and have the checksum of its record. -/
theorem Record.check_eq_iff :
    r.check x = ⟨bytes, none⟩ ↔
      x.1 = bytes ∧ ¬(x.2 = .corrupt ∨ x.2 = .truncated) ∧ Archive.checksum bytes = r.checksum := by
  unfold check
  grind

/-- A reader that gives some bytes and no more to whoever asks for enough. -/
structure Reads (read : Nat → Extracted) (bytes : ByteArray) : Prop where
  whole : ∀ k, bytes.size ≤ k → read k = ⟨bytes, none⟩
  part : ∀ k, k < bytes.size → k ≤ (read k).bytes.size

theorem reads_extract (h : extract b r start limit = ⟨bytes, none⟩) (room : bytes.size < limit) :
    Reads (extract b r start) bytes := by
  rw [extract_eq, Record.check_eq_iff] at h
  obtain ⟨hbytes, hstop, hsum⟩ := h
  constructor
  · intro k hk
    rw [extract_eq, Record.check_eq_iff]
    obtain hkl | hlk := Nat.le_total k limit
    · obtain he | ⟨p, hp, hkp, hext⟩ := Record.isCut_decode hkl
      · rw [he]
        exact ⟨hbytes, hstop, hsum⟩
      · rw [hbytes] at hext
        rw [hp]
        exact ⟨hext.eq_of_size_le (Nat.le_trans hk hkp), by simp, hsum⟩
    · -- There was room to spare already, so a larger limit gives nothing else.
      obtain he | ⟨p, hp, hlp, -⟩ := Record.isCut_decode hlk
      · rw [← he]
        exact ⟨hbytes, hstop, hsum⟩
      · rw [hp] at hbytes
        subst hbytes
        exact absurd hlp (Nat.not_le.2 room)
  · intro k hk
    rw [extract_eq, Record.check_bytes]
    obtain he | ⟨p, hp, hkp, -⟩ := Record.isCut_decode (by omega : k ≤ limit)
    · rw [he, hbytes]
      exact Nat.le_of_lt hk
    · rw [hp]
      exact hkp

end Record

end PageBundle.Archive
