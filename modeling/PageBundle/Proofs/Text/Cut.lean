import PageBundle.Text.Scan

/-! Scans of parts of a text. A recogniser is local if an occurrence is told by its own characters, and an
occurrence that the end of a part cuts off leaves nothing to be found in the rest of that part. Then a part
that starts where the scan of the whole stops is scanned as it is in the whole, up to its end. Two such parts
together have what they share counted twice, and nothing else. Texts that are scanned alike whatever comes after
them are scanned one by one when they stand in a row. -/

namespace PageBundle.Text.Recogniser

variable {α β : Type} {R : Recogniser α} {c : Char} {s t u x y z : List Char} {r : Reading α}

/-! ## All occurrences, step by step -/

@[simp] theorem findAll_nil : R.findAll [] = [] := by
  rw [findAll, pieces_nil]
  rfl

theorem findAll_of_read (h : R.read s = some r) : R.findAll s = r.value :: R.findAll r.rest := by
  rw [findAll, R.pieces_of_read h]
  rfl

theorem findAll_cons_of_none (h : R.read (c :: s) = none) : R.findAll (c :: s) = R.findAll s := by
  rw [findAll, R.pieces_cons_of_none h]
  rfl

theorem filterMap_value?_map_plain (s : List Char) : (s.map Piece.plain).filterMap (Piece.value? : Piece α → Option α) = [] := by
  rw [List.filterMap_map]
  exact List.filterMap_eq_nil_iff.2 fun c _ => rfl

theorem findAll_eq_nil (h : ∀ t, t <:+ s → R.read t = none) : R.findAll s = [] := by
  rw [findAll, R.pieces_eq_map_plain h, filterMap_value?_map_plain]

/-- What is found is read somewhere. -/
theorem exists_read_of_mem_findAll {a : α} (h : a ∈ R.findAll s) : ∃ t r, t <:+ s ∧ R.read t = some r ∧ r.value = a := by
  induction hn : s.length using Nat.strongRecOn generalizing s with
  | ind n ih =>
    cases hr : R.read s with
    | some r =>
      rw [findAll_of_read hr] at h
      rcases List.mem_cons.1 h with rfl | h
      · exact ⟨s, r, List.suffix_refl s, hr, rfl⟩
      · obtain ⟨t, r', ht, hr', ha⟩ := ih _ (hn ▸ R.length_rest_lt hr) h rfl
        exact ⟨t, r', ht.trans ⟨r.text, R.append_of_read hr⟩, hr', ha⟩
    | none =>
      cases s with
      | nil =>
        rw [findAll_nil] at h
        cases h
      | cons c s =>
        rw [findAll_cons_of_none hr] at h
        obtain ⟨t, r, ht, hr, ha⟩ := ih s.length (by rw [← hn]; exact Nat.lt_succ_self _) h rfl
        exact ⟨t, r, ht.trans (List.suffix_cons c s), hr, ha⟩

/-! ## Local recognisers -/

/-- Whether an occurrence is told by its own characters. -/
structure Local (R : Recogniser α) : Prop where
  /-- What is put after an occurrence does not change it. -/
  extend : ∀ {s u r}, R.read s = some r → R.read (s ++ u) = some { r with rest := r.rest ++ u }
  /-- An occurrence that the end of a part cuts off leaves nothing to be found in it. -/
  cutOff : ∀ {s u r t}, R.read (s ++ u) = some r → R.read s = none → t <:+ s → R.read t = none

theorem Local.read_eq_none (hR : R.Local) (h : R.read (s ++ u) = none) : R.read s = none := by
  cases hs : R.read s with
  | none => rfl
  | some r =>
    rw [hR.extend hs] at h
    cases h

/-- A part is scanned as the start of the whole, up to an occurrence that its end cuts off. -/
theorem Local.findAll_prefix (hR : R.Local) (s u : List Char) : R.findAll s <+: R.findAll (s ++ u) := by
  induction hn : s.length using Nat.strongRecOn generalizing s with
  | ind n ih =>
    cases hs : R.read s with
    | some r =>
      rw [findAll_of_read hs, findAll_of_read (hR.extend (u := u) hs), List.prefix_cons_inj]
      exact ih _ (hn ▸ R.length_rest_lt hs) _ rfl
    | none =>
      cases hsu : R.read (s ++ u) with
      | some r =>
        rw [findAll_eq_nil fun t ht => hR.cutOff hsu hs ht]
        exact List.nil_prefix
      | none =>
        cases s with
        | nil =>
          rw [findAll_nil]
          exact List.nil_prefix
        | cons c s =>
          rw [List.cons_append] at hsu ⊢
          rw [findAll_cons_of_none hs, findAll_cons_of_none hsu]
          exact ih s.length (by rw [← hn]; exact Nat.lt_succ_self _) s rfl

/-! ## Cuts -/

/-- Whether the scan of a text stops between its two parts: no occurrence runs over the cut. -/
def CutsAt (R : Recogniser α) (x y : List Char) : Prop := R.pieces (x ++ y) = R.pieces x ++ R.pieces y

theorem cutsAt_nil : R.CutsAt [] y := by
  rw [CutsAt, pieces_nil]
  rfl

theorem CutsAt.findAll_append (h : R.CutsAt x y) : R.findAll (x ++ y) = R.findAll x ++ R.findAll y := by
  rw [findAll, h, List.filterMap_append]
  rfl

/-- A step over an occurrence in the first part. -/
theorem Local.cutsAt_of_read (hR : R.Local) (h : R.read x = some r) : R.CutsAt x y ↔ R.CutsAt r.rest y := by
  rw [CutsAt, CutsAt, R.pieces_of_read h, R.pieces_of_read (hR.extend h), List.cons_append, List.cons_inj_right]

/-- A step over a character outside of every occurrence. -/
theorem Local.cutsAt_cons (hR : R.Local) (h : R.read (c :: x ++ y) = none) :
    R.CutsAt (c :: x) y ↔ R.CutsAt x y := by
  have hx := hR.read_eq_none h
  rw [List.cons_append] at h
  rw [CutsAt, CutsAt, R.pieces_cons_of_none hx, List.cons_append, R.pieces_cons_of_none h, List.cons_append,
    List.cons_inj_right]

theorem CutsAt.read_eq_none (h : R.CutsAt (c :: x) y) (hc : R.read (c :: x) = none) :
    R.read (c :: x ++ y) = none := by
  cases hr : R.read (c :: x ++ y) with
  | none => rfl
  | some r =>
    rw [CutsAt, R.pieces_of_read hr, R.pieces_cons_of_none hc] at h
    cases h

/-- What stops in front of a text stops in front of any start of that text. -/
theorem Local.cutsAt_of_append (hR : R.Local) (h : R.CutsAt x (y ++ z)) : R.CutsAt x y := by
  induction hn : x.length using Nat.strongRecOn generalizing x with
  | ind n ih =>
    cases hx : R.read x with
    | some r => exact (hR.cutsAt_of_read hx).2 (ih _ (hn ▸ R.length_rest_lt hx) ((hR.cutsAt_of_read hx).1 h) rfl)
    | none =>
      cases x with
      | nil => exact cutsAt_nil
      | cons c x =>
        have hr := h.read_eq_none hx
        have hl : x.length < n := by rw [← hn]; exact Nat.lt_succ_self _
        have hxy : R.read (c :: x ++ y) = none := by
          rw [← List.append_assoc] at hr
          exact hR.read_eq_none hr
        exact (hR.cutsAt_cons hxy).2 (ih _ hl ((hR.cutsAt_cons hr).1 h) rfl)

/-- Of two cuts the later one also cuts what follows the earlier one. -/
theorem Local.cutsAt_between (hR : R.Local) (h : R.CutsAt x (y ++ z)) (h' : R.CutsAt (x ++ y) z) :
    R.CutsAt y z := by
  have hxy := hR.cutsAt_of_append h
  rw [CutsAt] at h h' hxy
  rw [← List.append_assoc, h', hxy, List.append_assoc] at h
  exact (List.append_cancel_left h).symm

/-! ## Occurrences up to a character -/

/-- Whether every occurrence ends at the first character of a kind after its start. -/
structure EndsAt (R : Recogniser α) (d : Char) : Prop where
  /-- What is put after an occurrence does not change it. -/
  extend : ∀ {s u r}, R.read s = some r → R.read (s ++ u) = some { r with rest := r.rest ++ u }
  /-- No occurrence without the character. -/
  mem : ∀ {s r}, R.read s = some r → d ∈ s
  /-- An occurrence in front of more text is there without it, if the character is. -/
  isSome : ∀ {s u r}, R.read (s ++ u) = some r → d ∈ s → (R.read s).isSome = true

variable {d : Char}

theorem EndsAt.read_eq_none (hR : R.EndsAt d) (h : R.read s = none) (hd : d ∈ s) : R.read (s ++ u) = none := by
  cases hr : R.read (s ++ u) with
  | none => rfl
  | some r =>
    have := hR.isSome hr hd
    rw [h] at this
    cases this

theorem EndsAt.local (hR : R.EndsAt d) : R.Local where
  extend := hR.extend
  cutOff := by
    intro s u r t h hs ht
    cases hr : R.read t with
    | none => rfl
    | some r' =>
      rw [hR.read_eq_none hs (ht.mem (hR.mem hr))] at h
      cases h

/-- No occurrence runs over the end of another. -/
theorem EndsAt.cutsAt (hR : R.EndsAt d) (x y : List Char) : R.CutsAt (x ++ [d]) y := by
  induction hl : x.length using Nat.strongRecOn generalizing x with
  | ind n ih =>
    cases hx : R.read (x ++ [d]) with
    | some r =>
      rw [hR.local.cutsAt_of_read hx]
      have happ := R.append_of_read hx
      rcases List.eq_nil_or_concat r.rest with hr | ⟨v, c, hr⟩
      · rw [hr]
        exact cutsAt_nil
      · rw [hr, List.concat_eq_append] at happ ⊢
        rw [← List.append_assoc] at happ
        obtain ⟨hv, hc⟩ := List.append_inj' happ rfl
        rw [hc]
        refine ih v.length ?_ v rfl
        have := List.length_pos_iff.2 (R.text_ne_nil hx)
        rw [← hl, ← hv, List.length_append]
        omega
    | none =>
      have hxy : R.read (x ++ [d] ++ y) = none := hR.read_eq_none hx (by simp)
      cases x with
      | nil => exact (hR.local.cutsAt_cons hxy).2 cutsAt_nil
      | cons c x =>
        refine (hR.local.cutsAt_cons hxy).2 (ih x.length ?_ x rfl)
        rw [← hl]
        exact Nat.lt_succ_self _

/-! ## Texts in a row -/

/-- Whether a text is scanned to some pieces, whatever comes after it. -/
def Scans (R : Recogniser α) (x : List Char) (ps : List (Piece α)) : Prop := ∀ y, R.pieces (x ++ y) = ps ++ R.pieces y

theorem scans_nil : R.Scans [] [] := fun _ => rfl

theorem Scans.append {ps qs : List (Piece α)} (hx : R.Scans x ps) (hy : R.Scans y qs) :
    R.Scans (x ++ y) (ps ++ qs) := by
  intro z
  rw [List.append_assoc, hx, hy, List.append_assoc]

theorem Scans.pieces_eq {ps : List (Piece α)} (h : R.Scans x ps) : R.pieces x = ps := by
  have := h []
  rwa [List.append_nil, pieces_nil, List.append_nil] at this

theorem scans_flatMap {l : List β} {f : β → List Char} {g : β → List (Piece α)} (h : ∀ b ∈ l, R.Scans (f b) (g b)) :
    R.Scans (l.flatMap f) (l.flatMap g) := by
  induction l with
  | nil => exact scans_nil
  | cons b l ih =>
    obtain ⟨hb, hl⟩ := List.forall_mem_cons.1 h
    exact hb.append (ih hl)

/-- Of texts in a row the occurrences are found one text after the other. -/
theorem findAll_flatMap {l : List β} {f : β → List Char} {g : β → List (Piece α)} (h : ∀ b ∈ l, R.Scans (f b) (g b)) :
    R.findAll (l.flatMap f) = l.flatMap fun b => (g b).filterMap Piece.value? := by
  rw [findAll, (scans_flatMap h).pieces_eq, List.filterMap_flatMap]

theorem scans_plain (h : ∀ t, t <:+ x → t ≠ [] → ∀ y, R.read (t ++ y) = none) : R.Scans x (x.map .plain) := by
  induction x with
  | nil => exact scans_nil
  | cons c x ih =>
    intro y
    have hread : R.read (c :: (x ++ y)) = none := h (c :: x) (List.suffix_refl _) (List.cons_ne_nil c x) y
    rw [List.cons_append, R.pieces_cons_of_none hread, ih (fun t ht => h t (ht.trans (List.suffix_cons c x))) y]
    rfl

theorem Local.scans_found (hR : R.Local) (h : R.read x = some r) (hr : r.rest = []) :
    R.Scans x [.found r.text r.value] := by
  intro y
  rw [R.pieces_of_read (hR.extend h), hr]
  rfl

/-! ## Counting -/

variable [BEq β] {g : α → Option β} {b : β}

/-- How often an occurrence in the text means a thing. -/
def tally (R : Recogniser α) (g : α → Option β) (b : β) (s : List Char) : Nat :=
  ((R.findAll s).filterMap g).count b

theorem Local.tally_le_append (hR : R.Local) (s u : List Char) :
    R.tally g b s ≤ R.tally g b (s ++ u) := by
  obtain ⟨l, hl⟩ := hR.findAll_prefix s u
  rw [tally, tally, ← hl, List.filterMap_append, List.count_append]
  exact Nat.le_add_right _ _

theorem CutsAt.tally_append (h : R.CutsAt x y) :
    R.tally g b (x ++ y) = R.tally g b x + R.tally g b y := by
  rw [tally, h.findAll_append, List.filterMap_append, List.count_append]
  rfl

/-- A start of a text and a part of it that begins at a cut have what they share counted twice, at most. -/
theorem Local.tally_take_add_le (hR : R.Local) {w : List Char} {n : Nat} (m k : Nat)
    (hc : R.CutsAt (w.take n) (w.drop n)) :
    R.tally g b (w.take m) + R.tally g b ((w.drop n).take k) ≤
      R.tally g b w + R.tally g b ((w.drop n).take (min (m - n) k)) := by
  have take_le : ∀ (v : List Char) (l : Nat), R.tally g b (v.take l) ≤ R.tally g b v := by
    intro v l
    have := hR.tally_le_append (g := g) (b := b) (v.take l) (v.drop l)
    rwa [List.take_append_drop] at this
  by_cases hk : k ≤ m - n
  · -- the second part lies within the first
    have := take_le w m
    rw [Nat.min_eq_right hk]
    omega
  · have hm : R.tally g b (w.take m) ≤
        R.tally g b (w.take n) + R.tally g b ((w.drop n).take (m - n)) := by
      by_cases hmn : m ≤ n
      · have := take_le (w.take n) m
        rw [List.take_take, Nat.min_eq_left hmn] at this
        omega
      · have hsplit : w.take m = w.take n ++ (w.drop n).take (m - n) := by
          rw [← List.take_add, Nat.add_sub_cancel' (by omega)]
        have hcut : R.CutsAt (w.take n) ((w.drop n).take (m - n)) :=
          hR.cutsAt_of_append (z := (w.drop n).drop (m - n)) (by rwa [List.take_append_drop])
        exact Nat.le_of_eq (by rw [hsplit, hcut.tally_append])
    have hw := hc.tally_append (g := g) (b := b)
    rw [List.take_append_drop] at hw
    have := take_le (w.drop n) k
    rw [Nat.min_eq_left (by omega)]
    omega

/-- Two parts of a text that both begin where its scan stops have what they share counted twice, at most. -/
theorem Local.tally_extract_add_le (hR : R.Local) {w : List Char} {i i' : Nat} (j j' : Nat)
    (hc : R.CutsAt (w.take i) (w.drop i)) (hc' : R.CutsAt (w.take i') (w.drop i')) :
    R.tally g b (w.extract i j) + R.tally g b (w.extract i' j') ≤
      R.tally g b w + R.tally g b (w.extract (max i i') (min j j')) := by
  have ordered : ∀ {i i' : Nat} (j j' : Nat), R.CutsAt (w.take i) (w.drop i) →
      R.CutsAt (w.take i') (w.drop i') → i ≤ i' →
      R.tally g b (w.extract i j) + R.tally g b (w.extract i' j') ≤
        R.tally g b w + R.tally g b (w.extract i' (min j j')) := by
    intro i i' j j' hc hc' hi
    -- seen from the first start on, the second one is a cut as well
    have hdrop : (w.drop i).drop (i' - i) = w.drop i' := by rw [List.drop_drop, Nat.add_sub_cancel' hi]
    have hcut : R.CutsAt ((w.drop i).take (i' - i)) ((w.drop i).drop (i' - i)) := by
      refine hR.cutsAt_between (x := w.take i) (by rwa [List.take_append_drop]) ?_
      rw [← List.take_add, Nat.add_sub_cancel' hi, hdrop]
      exact hc'
    have hle := hR.tally_take_add_le (g := g) (b := b) (j - i) (j' - i') hcut
    have hw := hc.tally_append (g := g) (b := b)
    rw [List.take_append_drop] at hw
    rw [hdrop, show min (j - i - (i' - i)) (j' - i') = min j j' - i' by omega] at hle
    change R.tally g b ((w.drop i).take (j - i)) + R.tally g b ((w.drop i').take (j' - i')) ≤
      R.tally g b w + R.tally g b ((w.drop i').take (min j j' - i'))
    omega
  rcases Nat.le_total i i' with hi | hi
  · rw [Nat.max_eq_right hi]
    exact ordered j j' hc hc' hi
  · rw [Nat.max_eq_left hi, Nat.min_comm, Nat.add_comm (R.tally g b (w.extract i j))]
    exact ordered j' j hc' hc hi

end PageBundle.Text.Recogniser
