import Mathlib
import PageBundle.Proofs.Archive.Inflate
import PageBundle.Proofs.FileSet.Insert
import PageBundle.Proofs.Text.Encoding

/-! What an archive is read into, and when it is too large. Members that can be unpacked to their ends are met in
order with what the earlier ones have left of the budget. One that fits takes its size from it, whether it is text or
not, and one that does not fit ends the reading; so reading fails exactly if the members are too large together. -/

namespace PageBundle.FileSet

variable {s : FileSet} {path content : String}

theorem totalBytes_eq_sum (s : FileSet) : s.totalBytes = (s.toList.map fun f => f.content.utf8ByteSize).sum := by
  rw [totalBytes, List.sum_eq_foldl, List.foldl_map]

theorem totalBytes_empty : empty.totalBytes = 0 := rfl

/-- The new content counts, and one that it replaces no longer does. -/
theorem totalBytes_insert_le : (s.insert path content).totalBytes ≤ s.totalBytes + content.utf8ByteSize := by
  rw [totalBytes_eq_sum, totalBytes_eq_sum]
  by_cases h : path ∈ s.paths
  · obtain ⟨a, f, b, hl, rfl⟩ := exists_toList_eq h
    rw [toList_insert_replace hl, hl]
    simp only [List.map_append, List.map_cons, List.sum_append, List.sum_cons]
    omega
  · rw [toList_insert h]
    simp only [List.map_append, List.map_cons, List.map_nil, List.sum_append, List.sum_cons, List.sum_nil]
    omega

end PageBundle.FileSet

namespace PageBundle.Archive

/-- A member as it is when it is unpacked, with no more bytes than can be counted. -/
structure Content where
  name : String
  isDirectory : Bool
  bytes : ByteArray
  fits : bytes.size ≤ maxCount
deriving DecidableEq

/-- What a member takes of the budget. -/
def Content.weight (c : Content) : Nat := if c.isDirectory then 0 else c.bytes.size

/-- A name with a slash for each of its backslashes. -/
def slashed : List Char → List Char
  | [] => []
  | '\\' :: s => '/' :: slashed s
  | c :: s => c :: slashed s

def Content.path (c : Content) : String := String.ofList (slashed c.name.toList)

/-- The path and the text of a member that is a text. -/
def Content.entry? (c : Content) : Option (String × String) :=
  if c.isDirectory then none else (String.fromUTF8? c.bytes).map fun t => (c.path, withoutMark t)

def weight (l : List Content) : Nat := (l.map Content.weight).sum

/-- A set with the members put in that are texts. -/
def insertAll (files : FileSet) (l : List Content) : FileSet :=
  (l.filterMap Content.entry?).foldl (fun s (path, content) => s.insert path content) files

/-- What was read of a member as its content, if it is undamaged. -/
def Extracted.content? (x : Extracted) (name : String) : Option Content :=
  if h : x.bytes.size ≤ maxCount ∧ x.damage = none then some ⟨name, false, x.bytes, h.1⟩ else none

/-- The member that a record tells of, if it can be unpacked to its end. -/
def unpack? (b : ByteArray) (r : Record) : Option Content :=
  match open? b r with
  | .refused _ => none
  | .directory => some ⟨r.name, true, .empty, Nat.zero_le _⟩
  | .file name read => (read (maxCount + 1)).content? name

def contents? (b : ByteArray) : Option (List Content) := (directory? b).bind fun rs => rs.mapM (unpack? b)

/-- A member that some content is met as: nothing goes wrong with it, however much of it is asked for. -/
inductive Member.Tells : Member → Content → Prop
  | directory {c : Content} (hd : c.isDirectory = true) : Tells .directory c
  | file {c : Content} {read : Nat → Extracted} (hd : c.isDirectory = false) (hr : Reads read c.bytes) :
    Tells (.file c.name read) c

section Contents

variable {b : ByteArray} {r : Record} {c : Content} {l : List Content}

theorem open?_eq_file {name : String} {read : Nat → Extracted} (h : open? b r = .file name read) :
    ∃ start, read = extract b r start := by
  unfold open? at h
  grind

theorem tells_of_unpack? (h : unpack? b r = some c) : (open? b r).Tells c := by
  unfold unpack? at h
  split at h
  · cases h
  · rename_i ho
    cases h
    rw [ho]
    exact .directory rfl
  · rename_i name read ho
    obtain ⟨start, rfl⟩ := open?_eq_file ho
    generalize hx : extract b r start (maxCount + 1) = x at h
    obtain ⟨bytes, damage⟩ := x
    unfold Extracted.content? at h
    split at h
    · rename_i hd
      cases hd.2
      have hr : Reads (extract b r start) bytes := reads_extract hx (Nat.lt_succ_of_le hd.1)
      cases h
      rw [ho]
      exact .file (c := ⟨name, false, bytes, hd.1⟩) rfl hr
    · cases h

theorem forall₂_of_mapM {α β : Type} {f : α → Option β} {l : List α} {l' : List β} (h : l.mapM f = some l') :
    List.Forall₂ (fun x y => f x = some y) l l' := by
  induction l generalizing l' with
  | nil =>
    cases h
    exact .nil
  | cons x l ih =>
    rw [List.mapM_cons] at h
    obtain ⟨y, hy, h⟩ := Option.bind_eq_some_iff.1 h
    obtain ⟨ys, hys, h⟩ := Option.bind_eq_some_iff.1 h
    cases h
    exact .cons hy (ih hys)

/-- In an archive whose members can be unpacked each record leads to a member that tells of its content. -/
theorem exists_tells_of_contents? (h : contents? b = some l) :
    ∃ rs, directory? b = some rs ∧ List.Forall₂ Member.Tells (rs.map (open? b)) l := by
  obtain ⟨rs, hrs, hl⟩ := Option.bind_eq_some_iff.1 h
  exact ⟨rs, hrs, List.forall₂_map_left_iff.2 ((forall₂_of_mapM hl).imp fun _ _ => tells_of_unpack?)⟩

end Contents

section Run

/-- The path under which a member is put in is the one it is to have. -/
theorem memberPath_eq_path (c : Content) : memberPath c.name = c.path := by
  rw [memberPath, Content.path]
  congr 1
  induction c.name.toList with
  | nil => rfl
  | cons x s ih =>
    rw [List.map_cons, ih]
    by_cases hx : x = '\\'
    · subst hx
      rfl
    · rw [if_neg hx, slashed]
      exact hx

theorem Content.weight_of_file {c : Content} (h : c.isDirectory = false) : c.weight = c.bytes.size := by
  rw [weight, h]
  rfl

theorem weight_cons {c : Content} {l : List Content} : weight (c :: l) = c.weight + weight l := List.sum_cons

variable {cap left i : Nat} {files : FileSet} {m : Member} {ms rest : List Member} {c : Content} {l : List Content}

/-- A member that fits is read to its end, for one byte more than there is room for is asked for. -/
theorem Reads.budget_of_le {read : Nat → Extracted} (h : Reads read c.bytes) (hs : c.bytes.size ≤ left) :
    read (min (left + 1) maxCount) = ⟨c.bytes, none⟩ := by
  have := c.fits
  exact h.whole _ (by omega)

/-- The one byte more that is asked for shows that the member goes past the budget. -/
theorem Reads.budget_of_lt {read : Nat → Extracted} (h : Reads read c.bytes) (hs : left < c.bytes.size) :
    left < (read (min (left + 1) maxCount)).bytes.size := by
  have := c.fits
  have hmin : min (left + 1) maxCount = left + 1 := by omega
  rw [hmin]
  obtain hlt | heq := Nat.lt_or_eq_of_le (Nat.succ_le_of_lt hs)
  · exact h.part _ hlt
  · rw [h.whole _ (Nat.le_of_eq heq.symm)]
    exact hs

theorem insertBytes_eq (hd : c.isDirectory = false) :
    files.insertBytes (memberPath c.name) c.bytes = insertAll files [c] := by
  rw [memberPath_eq_path, FileSet.insertBytes, FileSet.text?_eq, insertAll, List.filterMap_cons, Content.entry?, hd]
  cases String.fromUTF8? c.bytes <;> rfl

theorem insertAll_cons : insertAll files (c :: l) = insertAll (insertAll files [c]) l := by
  rw [insertAll, insertAll, insertAll, ← List.singleton_append, List.filterMap_append, List.foldl_append]

/-- A member that fits takes its weight of the budget and goes into the set. -/
theorem collectFrom_cons_of_le (h : m.Tells c) (hw : c.weight ≤ left) :
    collectFrom cap i left files (m :: ms) = collectFrom cap (i + 1) (left - c.weight) (insertAll files [c]) ms := by
  cases h with
  | directory hd =>
    rw [collectFrom, Content.weight, insertAll, List.filterMap_cons, Content.entry?, hd]
    rfl
  | file hd hr =>
    rw [Content.weight_of_file hd] at hw
    have hx := hr.budget_of_le hw
    rw [collectFrom, hx, Content.weight_of_file hd, ← insertBytes_eq hd]
    exact if_neg (Nat.not_lt.2 hw)

/-- The first member that does not fit ends the reading, and it is named. -/
theorem collectFrom_cons_of_lt (h : m.Tells c) (hw : left < c.weight) :
    collectFrom cap i left files (m :: ms) = .error (.tooLarge cap c.path) := by
  cases h with
  | directory hd =>
    rw [Content.weight, hd] at hw
    exact absurd hw (Nat.not_lt_zero _)
  | file hd hr =>
    rw [Content.weight_of_file hd] at hw
    rw [collectFrom, memberPath_eq_path]
    exact if_pos (hr.budget_of_lt hw)

theorem collectFrom_append (h : List.Forall₂ Member.Tells ms l) (hw : weight l ≤ left) :
    collectFrom cap i left files (ms ++ rest) =
      collectFrom cap (i + l.length) (left - weight l) (insertAll files l) rest := by
  -- Each member takes its own weight; that the later ones fit in what is left is the premise again.
  induction h generalizing i left files with
  | nil => rfl
  | @cons m c ms l hm _ ih =>
    rw [weight_cons] at hw ⊢
    rw [List.cons_append, collectFrom_cons_of_le hm (by omega), ih (by omega), ← insertAll_cons, List.length_cons,
      Nat.sub_sub]
    congr 1
    omega

theorem Content.utf8ByteSize_le {path text : String} (h : c.entry? = some (path, text)) :
    text.utf8ByteSize ≤ c.weight := by
  unfold entry? at h
  split at h
  · cases h
  · rename_i hd
    obtain ⟨t, ht, he⟩ := Option.map_eq_some_iff.1 h
    cases he
    rw [weight, if_neg hd, fromUTF8?_eq_some_iff.1 ht]
    exact utf8ByteSize_withoutMark_le t

/-- What goes into the set is no longer than what the budget was charged for it. -/
theorem totalBytes_insertAll_le : (insertAll files l).totalBytes ≤ files.totalBytes + weight l := by
  induction l generalizing files with
  | nil => exact Nat.le_refl _
  | cons c l ih =>
    have hc : (insertAll files [c]).totalBytes ≤ files.totalBytes + c.weight := by
      rw [insertAll, List.filterMap_cons]
      cases he : c.entry? with
      | none => exact Nat.le_add_right _ _
      | some x =>
        have hx : (files.insert x.1 x.2).totalBytes ≤ files.totalBytes + x.2.utf8ByteSize :=
          FileSet.totalBytes_insert_le
        exact Nat.le_trans hx (Nat.add_le_add_left (c.utf8ByteSize_le he) _)
    have hl := @ih (insertAll files [c])
    rw [insertAll_cons, weight_cons]
    omega

/-- Members that are too large together have a first one that goes past the budget, and it is no directory. -/
theorem exists_past (h : cap < weight l) : ∃ before c after, l = before ++ c :: after ∧ c.isDirectory = false ∧
    weight before ≤ cap ∧ cap < weight before + c.bytes.size := by
  induction l generalizing cap with
  | nil => exact absurd h (Nat.not_lt_zero _)
  | cons c l ih =>
    rw [weight_cons] at h
    by_cases hc : cap < c.weight
    · cases hd : c.isDirectory with
      | true =>
        rw [Content.weight, hd] at hc
        exact absurd hc (Nat.not_lt_zero _)
      | false =>
        rw [Content.weight_of_file hd] at hc
        exact ⟨[], c, l, rfl, hd, Nat.zero_le _, Nat.lt_of_lt_of_le hc (Nat.le_add_left _ _)⟩
    · -- The first member fits, so the one looked for goes past what it leaves.
      obtain ⟨before, d, after, rfl, hd, hb, hlt⟩ := ih (show cap - c.weight < weight l by omega)
      have hw : weight (c :: before) = c.weight + weight before := weight_cons
      exact ⟨c :: before, d, after, rfl, hd, by omega, by omega⟩

/-- Where reading is when it has met some of the members, and what is left of the budget there. -/
theorem collect_append {before after : List Content} (h : List.Forall₂ Member.Tells ms (before ++ after))
    (hw : weight before ≤ cap) : ∃ rest, List.Forall₂ Member.Tells rest after ∧
      collect cap ms = collectFrom cap before.length (cap - weight before) (insertAll .empty before) rest := by
  refine ⟨ms.drop before.length, List.forall₂_drop_append _ _ _ h, ?_⟩
  have hrun : collectFrom cap 0 cap .empty (ms.take before.length ++ ms.drop before.length) = _ :=
    collectFrom_append (List.forall₂_take_append _ _ _ h) hw
  rw [List.take_append_drop, Nat.zero_add] at hrun
  exact hrun

theorem collect_of_le (h : List.Forall₂ Member.Tells ms l) (hw : weight l ≤ cap) :
    collect cap ms = .ok (insertAll .empty l) := by
  rw [← List.append_nil l] at h
  obtain ⟨rest, hr, hrun⟩ := collect_append h hw
  cases hr
  exact hrun

theorem collect_of_lt {before after : List Content} (h : List.Forall₂ Member.Tells ms (before ++ c :: after))
    (hd : c.isDirectory = false) (hw : weight before ≤ cap) (hc : cap < weight before + c.bytes.size) :
    collect cap ms = .error (.tooLarge cap c.path) := by
  obtain ⟨rest, hr, hrun⟩ := collect_append h hw
  cases hr with
  | cons hm _ =>
    rw [hrun]
    refine collectFrom_cons_of_lt hm ?_
    rw [Content.weight_of_file hd]
    omega

/-- Reading ends with all texts in the set or at the first member that goes past the budget. -/
theorem collect_cases (cap : Nat) (h : List.Forall₂ Member.Tells ms l) :
    weight l ≤ cap ∧ collect cap ms = .ok (insertAll .empty l) ∨
      cap < weight l ∧ ∃ before c after, l = before ++ c :: after ∧ c.isDirectory = false ∧ weight before ≤ cap ∧
        cap < weight before + c.bytes.size ∧ collect cap ms = .error (.tooLarge cap c.path) := by
  obtain hw | hw := Nat.lt_or_ge cap (weight l)
  · obtain ⟨before, c, after, rfl, hd, hb, hc⟩ := exists_past hw
    exact .inr ⟨hw, before, c, after, rfl, hd, hb, hc, collect_of_lt h hd hb hc⟩
  · exact .inl ⟨hw, collect_of_le h hw⟩

end Run

/-- What reading members with a budget has to come to. -/
structure Bounded (cap : Nat) (l : List Content) (result : Except Fault FileSet) : Prop where
  /-- It fails exactly if the members are too large together. -/
  fails_iff : (∃ fault, result = .error fault) ↔ cap < weight l
  /-- It fails at the first member with which those before it are too large. -/
  names_first : ∀ fault, result = .error fault → ∃ before c after,
    l = before ++ c :: after ∧ c.isDirectory = false ∧ weight before ≤ cap ∧
      cap < weight before + c.bytes.size ∧ fault = .tooLarge cap c.path
  /-- It gives the texts among the members, put in one after the other. -/
  inserts : ∀ files, result = .ok files →
    files = .ofList (l.filterMap Content.entry?) ∧ files.totalBytes ≤ cap
  /-- Where it has met members that fit, what is left and what they took make up the budget, so no member's size
  has ever been taken from less. -/
  budget : ∀ before after, l = before ++ after → weight before ≤ cap → ∃ left rest,
    left + weight before = cap ∧ List.Forall₂ Member.Tells rest after ∧
      result = collectFrom cap before.length left (.ofList (before.filterMap Content.entry?)) rest

/-- Reading members that tell of some content comes to what is said of that content. -/
theorem bounded_collect {cap : Nat} {ms : List Member} {l : List Content} (h : List.Forall₂ Member.Tells ms l) :
    Bounded cap l (collect cap ms) where
  fails_iff := by
    obtain ⟨hw, hr⟩ | ⟨hw, _, c, _, _, _, _, _, hr⟩ := collect_cases cap h
    · rw [hr]
      exact ⟨fun ⟨_, he⟩ => (nomatch he), fun hc => absurd hw (Nat.not_le.2 hc)⟩
    · exact ⟨fun _ => hw, fun _ => ⟨_, hr⟩⟩
  names_first := by
    intro fault hf
    obtain ⟨_, hr⟩ | ⟨_, before, c, after, hl, hd, hb, hc, hr⟩ := collect_cases cap h
    · rw [hr] at hf
      cases hf
    · rw [hr] at hf
      cases hf
      exact ⟨before, c, after, hl, hd, hb, hc, rfl⟩
  inserts := by
    intro files hf
    obtain ⟨hw, hr⟩ | ⟨_, _, _, _, _, _, _, _, hr⟩ := collect_cases cap h
    · rw [hr] at hf
      cases hf
      have hb : (insertAll .empty l).totalBytes ≤ FileSet.empty.totalBytes + weight l := totalBytes_insertAll_le
      rw [FileSet.totalBytes_empty, Nat.zero_add] at hb
      exact ⟨rfl, Nat.le_trans hb hw⟩
    · rw [hr] at hf
      cases hf
  budget := by
    rintro before after rfl hw
    obtain ⟨rest, hr, hrun⟩ := collect_append h hw
    exact ⟨cap - weight before, rest, Nat.sub_add_cancel hw, hr, hrun⟩

/-- Members that can be read to their ends are read with a budget as they should be, whatever tells them, and so are
those of an archive. -/
theorem readCapped_bounded (cap : Nat) :
    (∀ (ms : List Member) (l : List Content), List.Forall₂ Member.Tells ms l → Bounded cap l (collect cap ms)) ∧
      ∀ (b : ByteArray) (l : List Content), contents? b = some l → Bounded cap l (readCapped cap b) := by
  refine ⟨fun ms l h => bounded_collect h, fun b l hb => ?_⟩
  obtain ⟨rs, hrs, hm⟩ := exists_tells_of_contents? hb
  rw [readCapped, hrs]
  exact bounded_collect hm

/-- A member with a reader that gives just as many bytes as are asked for, as long as there are some. -/
def Content.member (c : Content) : Member :=
  if c.isDirectory then .directory else .file c.name fun k => ⟨c.bytes.extract 0 k, none⟩

theorem Content.tells_member (c : Content) : c.member.Tells c := by
  unfold member
  split
  · rename_i hd
    exact .directory hd
  · rename_i hd
    refine .file (Bool.eq_false_iff.2 hd) ⟨fun k hk => ?_, fun k hk => ?_⟩
    · rw [← Nat.max_eq_left hk, ByteArray.extract_zero_max_size]
    · dsimp only
      rw [ByteArray.size_extract]
      omega

section Pack

/-- The bytes of a number, the one of lowest weight first. -/
def little : Nat → Nat → List UInt8
  | 0, _ => []
  | k + 1, n => n.toUInt8 :: little k (n / 256)

/-- A member with the data that stand for its bytes in an archive. -/
structure Packed where
  name : String
  method : Nat
  data : List UInt8
  bytes : List UInt8

/-- What the header in front of a member and its record in the directory both say. -/
def Packed.fields (p : Packed) : List UInt8 :=
  little 2 20 ++ little 2 0 ++ little 2 p.method ++ little 4 0 ++ little 4 (checksum p.bytes.toByteArray) ++
    little 4 p.data.length ++ little 4 p.bytes.length ++ little 2 p.name.utf8ByteSize ++ little 2 0

def Packed.entry (p : Packed) : List UInt8 := headerMark ++ p.fields ++ p.name.toUTF8.data.toList ++ p.data

def Packed.record (p : Packed) (start : Nat) : List UInt8 :=
  recordMark ++ little 2 20 ++ p.fields ++ little 10 0 ++ little 4 start ++ p.name.toUTF8.data.toList

/-- The directory of members that stand one after the other from a position on. -/
def directory (start : Nat) : List Packed → List UInt8
  | [] => []
  | p :: ps => p.record start ++ directory (start + p.entry.length) ps

def pack (ps : List Packed) : ByteArray :=
  let front := ps.flatMap Packed.entry
  let back := directory 0 ps
  ⟨⟨front ++ back ++ endMark ++ little 4 0 ++ little 2 ps.length ++ little 2 ps.length ++ little 4 back.length ++
    little 4 front.length ++ little 2 0⟩⟩

/-- A directory, a text with a byte order mark, a member that is no text, and the first text once more, deflated. -/
def mixedArchive : ByteArray := pack [
  ⟨"d/", 0, [], []⟩,
  ⟨"d\\a", 0, [0xEF, 0xBB, 0xBF, 65], [0xEF, 0xBB, 0xBF, 65]⟩,
  ⟨"d/i", 0, [0xFF], [0xFF]⟩,
  ⟨"d/a", 8, [75, 76, 68, 0, 0], List.replicate 12 97⟩]

def mixedContents : List Content := [
  ⟨"d/", true, .empty, by decide⟩,
  ⟨"d\\a", false, [0xEF, 0xBB, 0xBF, 65].toByteArray, by decide⟩,
  ⟨"d/i", false, [0xFF].toByteArray, by decide⟩,
  ⟨"d/a", false, (List.replicate 12 97).toByteArray, by decide⟩]

/-- Its members have seventeen bytes. With room for one less they are too large, for an exact library as well. With room
for all of them there is one file: the text that is met last, at the path that both texts have. -/
theorem readCapped_bounded_mixedArchive :
    (∃ fault, collect 16 (mixedContents.map Content.member) = .error fault) ∧
      (∃ fault, readCapped 16 mixedArchive = .error fault) ∧
      ∃ files, readCapped 17 mixedArchive = .ok files ∧ files = .ofList [("d/a", "A"), ("d/a", "aaaaaaaaaaaa")] := by
  have hm : List.Forall₂ Member.Tells (mixedContents.map Content.member) mixedContents :=
    List.forall₂_map_left_iff.2 (List.forall₂_same.2 fun c _ => c.tells_member)
  have hb : contents? mixedArchive = some mixedContents := by decide +kernel
  have hlt : 16 < weight mixedContents := by decide +kernel
  have hle : ¬17 < weight mixedContents := by decide +kernel
  have h16 := readCapped_bounded 16
  have h17 := readCapped_bounded 17
  have hentries : mixedContents.filterMap Content.entry? = [("d/a", "A"), ("d/a", "aaaaaaaaaaaa")] := by decide +kernel
  refine ⟨(h16.1 _ _ hm).fails_iff.2 hlt, (h16.2 _ _ hb).fails_iff.2 hlt, ?_⟩
  cases hr : readCapped 17 mixedArchive with
  | error fault => exact absurd ((h17.2 _ _ hb).fails_iff.1 ⟨fault, hr⟩) hle
  | ok files => exact ⟨files, rfl, hentries ▸ ((h17.2 _ _ hb).inserts files hr).1⟩

end Pack

end PageBundle.Archive
