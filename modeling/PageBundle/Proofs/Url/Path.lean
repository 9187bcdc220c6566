import Mathlib.Data.List.Basic
import Mathlib.Data.List.TakeWhile
import PageBundle.Proofs.Text.Trim
import PageBundle.Proofs.Url.Percent

/-! The path of an address of the web. Segments are worked off from left to right, so what comes after a slash goes on
from where the segments before it have led, and none that is left holds a separator, is a step "here" or "one up", or
would be read differently a second time. -/

namespace PageBundle.Url

open Text

variable {c : Char} {s t x : List Char} {path segments more : List (List Char)} {last : Bool}

/-! ## Segments -/

theorem of_mem_splitOn {a : Char} (h : x ∈ s.splitOn a) : a ∉ x ∧ ∀ c ∈ x, c ∈ s := by
  induction s generalizing x with
  | nil =>
    rw [List.splitOn_nil, List.mem_singleton] at h
    simp [h]
  | cons c s ih =>
    rw [List.splitOn_cons_eq_if_modifyHead] at h
    split at h
    · rcases List.mem_cons.1 h with rfl | h
      · simp
      · exact ⟨(ih h).1, fun d hd => List.mem_cons_of_mem c ((ih h).2 d hd)⟩
    · rename_i hca
      obtain ⟨y, ys, hys⟩ := List.exists_cons_of_ne_nil (List.splitOn_ne_nil a s)
      rw [hys] at ih h
      rcases List.mem_cons.1 h with rfl | h
      · obtain ⟨hy, hmem⟩ := ih List.mem_cons_self
        refine ⟨?_, fun d hd => ?_⟩
        · rw [List.mem_cons, not_or]
          exact ⟨fun he => hca (beq_iff_eq.2 he.symm), hy⟩
        · rcases List.mem_cons.1 hd with rfl | hd
          · exact List.mem_cons_self
          · exact List.mem_cons_of_mem c (hmem d hd)
      · obtain ⟨hx, hmem⟩ := ih (List.mem_cons_of_mem y h)
        exact ⟨hx, fun d hd => List.mem_cons_of_mem c (hmem d hd)⟩

theorem mem_splitSegments (h : x ∈ splitSegments true s) : '/' ∉ x ∧ '\\' ∉ x := by
  obtain ⟨hslash, hmem⟩ := of_mem_splitOn h
  refine ⟨hslash, fun hback => ?_⟩
  obtain ⟨c, -, hc⟩ := List.mem_map.1 (hmem _ hback)
  split at hc
  · exact absurd hc (by decide)
  · rename_i hne
    rw [hc] at hne
    exact hne rfl

theorem splitSegments_append_slash (v s : List Char) :
    splitSegments true (v ++ '/' :: s) = splitSegments true v ++ splitSegments true s := by
  rw [splitSegments, List.map_append, List.map_cons]
  exact List.splitOn_append_cons_self _ _

theorem splitSegments_eq_singleton (hslash : '/' ∉ s) (hback : '\\' ∉ s) : splitSegments true s = [s] := by
  have hid : ∀ c ∈ s, (if true && c == '\\' then '/' else c) = id c := by
    intro c hc
    refine if_neg fun he => hback ?_
    rw [Bool.true_and, beq_iff_eq] at he
    exact he ▸ hc
  rw [splitSegments, List.map_congr_left hid, List.map_id]
  exact List.splitOn_eq_singleton hslash

def written (segments : List (List Char)) : List Char := segments.flatMap fun s => '/' :: s

theorem written_append_replicate (segments : List (List Char)) (n : Nat) :
    written (segments ++ List.replicate n []) = written segments ++ List.replicate n '/' := by
  have hslash : ∀ n : Nat, written (List.replicate n []) = List.replicate n '/' := by
    intro n
    induction n with
    | zero => rfl
    | succ n ih =>
      rw [List.replicate_succ, List.replicate_succ, ← ih]
      rfl
  rw [← hslash, written, written, written, List.flatMap_append]

theorem splitSegments_append_written (hs : '/' ∉ s ∧ '\\' ∉ s) (h : ∀ x ∈ segments, '/' ∉ x ∧ '\\' ∉ x) :
    splitSegments true (s ++ written segments) = s :: segments := by
  induction segments generalizing s with
  | nil =>
    rw [written, List.flatMap_nil, List.append_nil]
    exact splitSegments_eq_singleton hs.1 hs.2
  | cons x segments ih =>
    rw [List.forall_mem_cons] at h
    have hcons : written (x :: segments) = '/' :: (x ++ written segments) := List.flatMap_cons
    rw [hcons, splitSegments_append_slash, splitSegments_eq_singleton hs.1 hs.2, ih h.1 h.2]
    rfl

theorem splitSegments_ne_nil (s : List Char) : splitSegments true s ≠ [] := List.splitOn_ne_nil _ _

/-- A segment as it stands in the path of an address of the web. -/
structure IsSegment (s : List Char) : Prop where
  encoded : ∀ c ∈ s, encodedInPath c = false
  slash : '/' ∉ s
  backslash : '\\' ∉ s
  dots : isDots s = false

theorem notMem_of_encoded (h : ∀ c ∈ s, encodedInPath c = false) {d : Char} (hd : encodedInPath d = true) : d ∉ s := by
  intro hm
  rw [h d hm] at hd
  cases hd

theorem lt_toNat_of_encodedInPath (h : encodedInPath c = false) : 32 < c.toNat := by
  by_contra hle
  have hsmall : ∀ n ≤ 32, encodedInPath (Char.ofNat n) = true := by decide
  have := hsmall c.toNat (Nat.le_of_not_lt hle)
  rw [Char.ofNat_toNat, h] at this
  cases this

theorem isSegment_nil : IsSegment [] := ⟨nofun, nofun, nofun, rfl⟩

theorem isSegment_encode (hslash : '/' ∉ s) (hback : '\\' ∉ s) (hdots : isDots s = false) :
    IsSegment (encode encodedInPath s) where
  encoded _ hc := (mem_encode hc).1
  slash h := hslash ((mem_encode h).2 (.inl rfl))
  backslash h := hback ((mem_encode h).2 (.inr rfl))
  dots := isDots_encode hdots

/-! ## The way down -/

/-- A dot goes nowhere and two go up; at the end of a path they leave an empty segment. -/
theorem descend_eq (path : List (List Char)) (s : List Char) (last : Bool) :
    descend path s last =
      if isDots s then (if last then [[]] else []) ++ (if isDoubleDot s then parent path else path)
      else encode encodedInPath s :: path := by
  rw [descend, isDots]
  cases isDoubleDot s <;> cases isDot s <;> cases last <;> rfl

theorem descend_of_isDots_eq_false (h : isDots s = false) : descend path s last = encode encodedInPath s :: path := by
  rw [descend_eq, h]
  rfl

theorem descend_of_isSegment (h : IsSegment s) : descend path s last = s :: path := by
  rw [descend_of_isDots_eq_false h.dots, encode_eq_self h.encoded]

theorem parent_sublist (path : List (List Char)) : (parent path).Sublist path := by
  cases path with
  | nil => exact List.Sublist.refl _
  | cons s above =>
    rw [parent]
    split
    · exact List.Sublist.refl _
    · exact List.sublist_cons_self s above

/-- A step "here" or "one up" adds nothing to a path. -/
theorem descend_sublist (path : List (List Char)) (h : isDots s = true) : (descend path s false).Sublist path := by
  rw [descend_eq, h]
  change (if isDoubleDot s then parent path else path : List (List Char)).Sublist path
  split
  · exact parent_sublist path
  · exact List.Sublist.refl _

theorem descend_true (path : List (List Char)) (s : List Char) :
    descend path s true = descend path s false ∨ descend path s true = [] :: descend path s false := by
  rw [descend_eq, descend_eq]
  split
  · exact .inr rfl
  · exact .inl rfl

theorem isSegment_of_mem_descend (hpath : ∀ y ∈ path, IsSegment y) (hslash : '/' ∉ s) (hback : '\\' ∉ s)
    (h : x ∈ descend path s last) : IsSegment x := by
  rw [descend_eq] at h
  split at h
  · rcases List.mem_append.1 h with h | h
    · split at h
      · rw [List.mem_singleton] at h
        exact h ▸ isSegment_nil
      · cases h
    · split at h
      · exact hpath x ((parent_sublist path).subset h)
      · exact hpath x h
  · rename_i hdots
    rcases List.mem_cons.1 h with rfl | h
    · exact isSegment_encode hslash hback (Bool.eq_false_iff.2 hdots)
    · exact hpath x h

theorem isSegment_of_mem_descendAll (hpath : ∀ y ∈ path, IsSegment y)
    (hs : ∀ y ∈ segments, '/' ∉ y ∧ '\\' ∉ y) (h : x ∈ descendAll path segments) : IsSegment x := by
  fun_induction descendAll path segments with
  | case1 path => exact hpath x h
  | case2 path s =>
    obtain ⟨hslash, hback⟩ := hs s List.mem_cons_self
    exact isSegment_of_mem_descend hpath hslash hback h
  | case3 path s r _ ih =>
    obtain ⟨hslash, hback⟩ := hs s List.mem_cons_self
    exact ih (fun y hy => isSegment_of_mem_descend hpath hslash hback hy) (fun y hy => hs y (List.mem_cons_of_mem s hy)) h

/-- Where segments lead that others follow. -/
def down (path segments : List (List Char)) : List (List Char) := segments.foldl (fun p s => descend p s false) path

/-- The segments of a path are gone down one after the other. -/
theorem descendAll_append (hne : more ≠ []) :
    descendAll path (segments ++ more) = descendAll (down path segments) more := by
  induction segments generalizing path with
  | nil => rfl
  | cons s segments ih =>
    rw [List.cons_append, descendAll, ih]
    · rfl
    · exact fun h => hne (List.append_eq_nil_iff.1 h).2

/-- Where segments lead that end a path. -/
theorem descendAll_eq_down (path : List (List Char)) (hne : segments ≠ []) :
    descendAll path segments = down path segments ∨ descendAll path segments = [] :: down path segments := by
  obtain ⟨front, s, rfl⟩ := (List.eq_nil_or_concat' segments).resolve_left hne
  rw [descendAll_append (List.cons_ne_nil s []), down, down, List.foldl_append]
  exact descend_true _ s

theorem descendAll_of_isSegment (h : ∀ y ∈ segments, IsSegment y) :
    descendAll path segments = segments.reverse ++ path := by
  fun_induction descendAll path segments with
  | case1 path => rfl
  | case2 path s => rw [descend_of_isSegment (h s List.mem_cons_self)]; rfl
  | case3 path s r _ ih =>
    rw [ih fun y hy => h y (List.mem_cons_of_mem s hy), descend_of_isSegment (h s List.mem_cons_self)]
    simp

/-! ## Paths from the host on -/

theorem beforeQuery_eq_self (hquery : '?' ∉ s) (hfragment : '#' ∉ s) : beforeQuery s = s := by
  refine List.takeWhile_eq_self_iff.2 fun c hc => ?_
  rw [Bool.and_eq_true, decide_eq_true_eq, decide_eq_true_eq]
  exact ⟨fun he => hquery (he ▸ hc), fun he => hfragment (he ▸ hc)⟩

theorem queryOf_eq_none (hquery : '?' ∉ s) (hfragment : '#' ∉ s) : queryOf true s = none := by
  have hnil : s.dropWhile (fun c => c ≠ '?' && c ≠ '#') = [] := by
    refine List.dropWhile_eq_nil_iff.2 fun c hc => ?_
    rw [Bool.and_eq_true, decide_eq_true_eq, decide_eq_true_eq]
    exact ⟨fun he => hquery (he ▸ hc), fun he => hfragment (he ▸ hc)⟩
  rw [queryOf, hnil]

theorem isSegment_of_mem_rootedPath (h : x ∈ rootedPath true s) : IsSegment x := by
  unfold rootedPath at h
  split at h
  · rw [if_pos rfl, List.mem_singleton] at h
    exact h ▸ isSegment_nil
  · exact isSegment_of_mem_descendAll (List.forall_mem_nil _) (fun _ hy => mem_splitSegments hy) (List.mem_reverse.1 h)

def unrooted : List Char → List Char
  | [] => []
  | c :: s => if isSlash c then s else c :: s

/-- Where the part of a path leads that a slash follows. -/
def directory (v : List Char) : List (List Char) := if v.isEmpty then [] else down [] (splitSegments true (unrooted v))

theorem notMem_append_slash {v : List Char} {d : Char} (hd : d ≠ '/') (hv : d ∉ v) (hs : d ∉ s) :
    d ∉ v ++ '/' :: s := by
  rw [List.mem_append, List.mem_cons]
  exact not_or.2 ⟨hv, not_or.2 ⟨hd, hs⟩⟩

/-- What follows a slash goes on from where the path before it leads. -/
theorem rootedPath_append_slash {v : List Char} (hv : '?' ∉ v ∧ '#' ∉ v) (hs : '?' ∉ s ∧ '#' ∉ s) :
    rootedPath true (v ++ '/' :: s) = (descendAll (directory v) (splitSegments true s)).reverse := by
  have hquery : beforeQuery (v ++ '/' :: s) = v ++ '/' :: s :=
    beforeQuery_eq_self (notMem_append_slash (by decide) hv.1 hs.1) (notMem_append_slash (by decide) hv.2 hs.2)
  rw [rootedPath, hquery]
  cases v with
  | nil => rfl
  | cons c v =>
    have hrest : (if (c == '/' || (true && c == '\\')) = true then v ++ '/' :: s else c :: (v ++ '/' :: s)) =
        unrooted (c :: v) ++ '/' :: s := by
      rw [Bool.true_and, unrooted, isSlash]
      split <;> rfl
    dsimp only [List.cons_append]
    rw [hrest, splitSegments_append_slash, addSegments, List.reverse_nil, descendAll_append (splitSegments_ne_nil s)]
    rfl

theorem rootedPath_eq_directory {v : List Char} (hv : '?' ∉ v ∧ '#' ∉ v) :
    rootedPath true v = (directory v).reverse ∨ rootedPath true v = (directory v).reverse ++ [[]] := by
  rw [rootedPath, beforeQuery_eq_self hv.1 hv.2]
  cases v with
  | nil => exact .inr rfl
  | cons c v =>
    have hrest : (if (c == '/' || (true && c == '\\')) = true then v else c :: v) = unrooted (c :: v) := by
      rw [Bool.true_and, unrooted, isSlash]
    dsimp only
    rw [hrest, addSegments, List.reverse_nil]
    rcases descendAll_eq_down [] (splitSegments_ne_nil (unrooted (c :: v))) with h | h
    · exact .inl (by rw [h]; rfl)
    · exact .inr (by rw [h, List.reverse_cons]; rfl)

theorem beforeQuery_append (hs : '?' ∉ s ∧ '#' ∉ s) (ht : ∀ c, t.head? = some c → c = '?' ∨ c = '#') :
    beforeQuery (s ++ t) = s := by
  refine takeWhile_append_eq (fun c hc => ?_) fun c hc => ?_
  · rw [Bool.and_eq_true, decide_eq_true_eq, decide_eq_true_eq]
    exact ⟨fun he => hs.1 (he ▸ hc), fun he => hs.2 (he ▸ hc)⟩
  · rcases ht c hc with rfl | rfl <;> rfl

/-- Segments that are written are read back, whatever query and fragment come after them. -/
theorem rootedPath_written (hne : segments ≠ []) (h : ∀ x ∈ segments, IsSegment x)
    (ht : ∀ c, t.head? = some c → c = '?' ∨ c = '#') : rootedPath true (written segments ++ t) = segments := by
  have hencoded : ∀ c ∈ written segments, encodedInPath c = false := by
    intro c hc
    obtain ⟨x, hx, hc⟩ := List.mem_flatMap.1 hc
    rcases List.mem_cons.1 hc with rfl | hc
    · decide
    · exact (h x hx).encoded c hc
  have hquery : '?' ∉ written segments ∧ '#' ∉ written segments :=
    ⟨notMem_of_encoded hencoded (by decide), notMem_of_encoded hencoded (by decide)⟩
  have hpath : rootedPath true (written segments ++ t) = rootedPath true (written segments) := by
    rw [rootedPath, rootedPath, beforeQuery_append hquery ht, beforeQuery_eq_self hquery.1 hquery.2]
  obtain ⟨s, more, rfl⟩ := List.exists_cons_of_ne_nil hne
  have hcons : written (s :: more) = [] ++ '/' :: (s ++ written more) := List.flatMap_cons
  rw [hcons, List.nil_append, List.mem_cons, List.mem_cons] at hquery
  rw [hpath, hcons, rootedPath_append_slash (by simp) ⟨fun hm => hquery.1 (.inr hm), fun hm => hquery.2 (.inr hm)⟩]
  rw [List.forall_mem_cons] at h
  rw [splitSegments_append_written ⟨h.1.slash, h.1.backslash⟩ fun x hx => ⟨(h.2 x hx).slash, (h.2 x hx).backslash⟩,
    descendAll_of_isSegment (List.forall_mem_cons.2 h)]
  exact (congrArg List.reverse (List.append_nil _)).trans (List.reverse_reverse _)

theorem splitSegments_replicate (n : Nat) : splitSegments true (List.replicate n '/') = List.replicate (n + 1) [] := by
  induction n with
  | zero => exact splitSegments_eq_singleton List.not_mem_nil List.not_mem_nil
  | succ n ih =>
    rw [List.replicate_succ, ← List.nil_append ('/' :: _), splitSegments_append_slash, ih,
      splitSegments_eq_singleton List.not_mem_nil List.not_mem_nil]
    rfl

theorem notMem_append_slashes {v : List Char} {d : Char} (hd : d ≠ '/') (hv : d ∉ v) (hs : ∀ c ∈ s, c = '/') :
    d ∉ v ++ s := by
  rw [List.mem_append, not_or]
  exact ⟨hv, fun hm => hd (hs d hm)⟩

/-- Slashes at the end of a path leave empty segments there. -/
theorem exists_rootedPath {v : List Char} (hv : '?' ∉ v ∧ '#' ∉ v) (hs : ∀ c ∈ s, c = '/') :
    ∃ n, rootedPath true (v ++ s) = (directory v).reverse ++ List.replicate n [] := by
  obtain ⟨n, rfl⟩ : ∃ n, s = List.replicate n '/' := ⟨s.length, List.eq_replicate_of_mem hs⟩
  cases n with
  | zero =>
    rw [List.replicate_zero, List.append_nil]
    rcases rootedPath_eq_directory hv with h | h
    · exact ⟨0, by rw [h]; simp⟩
    · exact ⟨1, h⟩
  | succ n =>
    have hplain : ∀ d, d ≠ '/' → d ∉ List.replicate n '/' := fun d hd hm => hd (List.eq_of_mem_replicate hm)
    have hempty : ∀ y ∈ List.replicate (n + 1) ([] : List Char), IsSegment y := by
      intro y hy
      rw [List.eq_of_mem_replicate hy]
      exact isSegment_nil
    refine ⟨n + 1, ?_⟩
    rw [List.replicate_succ, rootedPath_append_slash hv ⟨hplain '?' (by decide), hplain '#' (by decide)⟩,
      splitSegments_replicate, descendAll_of_isSegment hempty]
    simp

end PageBundle.Url
