import PageBundle.FileTree.Disk

/-! Writing a file. A path leads to a directory, to a file, or to a missing name in a directory; in the last two cases a
file can be put at its place, and nothing else in the tree changes by that. The path leads to the same place
afterwards, since the place was not on its own way, and so the file is read back from where it was written. -/

namespace PageBundle

namespace Node

variable {n new m : Node} {place q : List String} {name : String} {entries : List (String × Node)}

/-- The node by itself: a directory without what is in it. -/
def bare : Node → Node
  | directory _ => empty
  | n => n

/-- Whether a file can be put at a place: all on the way are directories, and the place itself is none. -/
def TakesFile (n : Node) : List String → Prop
  | [] => n.isDirectory = false
  | name :: place =>
    match n with
    | directory entries =>
      match entries.lookup name with
      | some child => child.TakesFile place
      | none => place = []
    | _ => False

theorem get?_cons (h : n.isDirectory = false) : n.get? (name :: place) = none := by
  cases n with
  | directory entries => cases h
  | file content => rfl
  | link target => rfl

theorem get?_directory_cons :
    (directory entries).get? (name :: place) = (entries.lookup name).bind fun child => child.get? place := rfl

theorem put_directory_cons : (directory entries).put new (name :: place) =
    directory (Entries.set name (((entries.lookup name).getD empty).put new place) entries) := rfl

theorem takesFile_of_get? (h : n.get? place = some m) (hm : m.isDirectory = false) : n.TakesFile place := by
  induction place generalizing n with
  | nil =>
    cases h
    exact hm
  | cons name place ih =>
    cases n with
    | file content => cases h
    | link target => cases h
    | directory entries =>
      obtain ⟨child, hl, h⟩ := Option.bind_eq_some_iff.1 h
      rw [TakesFile]
      simp only [hl]
      exact ih h

theorem takesFile_of_get?_eq_none (h : n.get? place = some (directory entries)) (hn : n.get? (place ++ [name]) = none) :
    n.TakesFile (place ++ [name]) := by
  induction place generalizing n with
  | nil =>
    cases h
    rw [List.nil_append, TakesFile]
    cases hl : entries.lookup name with
    | none => rfl
    | some child =>
      rw [List.nil_append, get?_directory_cons, hl] at hn
      cases hn
  | cons x place ih =>
    cases n with
    | file content => cases h
    | link target => cases h
    | directory entries' =>
      obtain ⟨child, hl, h⟩ := Option.bind_eq_some_iff.1 h
      rw [List.cons_append, get?_directory_cons, hl] at hn
      rw [List.cons_append, TakesFile]
      simp only [hl]
      exact ih h hn

/-- A node that was put at a place stands there. -/
theorem get?_put_self (h : n.TakesFile place) : (n.put new place).get? place = some new := by
  induction place generalizing n with
  | nil => rfl
  | cons name place ih =>
    cases n with
    | file content => cases h
    | link target => cases h
    | directory entries =>
      rw [put_directory_cons, get?_directory_cons, Entries.lookup_set, if_pos rfl, Option.bind_some]
      rw [TakesFile] at h
      cases hl : entries.lookup name with
      | none =>
        simp only [hl] at h
        subst h
        rfl
      | some child =>
        simp only [hl] at h
        exact ih h

/-- Putting a file at a place changes nothing elsewhere but what is in the directories above it. -/
theorem bare_get?_put (h : n.TakesFile place) (hnew : new.isDirectory = false) (hq : q ≠ place) :
    ((n.put new place).get? q).map bare = (n.get? q).map bare := by
  induction place generalizing n q with
  | nil =>
    obtain ⟨name, q, rfl⟩ := List.exists_cons_of_ne_nil hq
    rw [put, get?_cons hnew, get?_cons h]
  | cons name place ih =>
    cases n with
    | file content => cases h
    | link target => cases h
    | directory entries =>
      cases q with
      | nil => rfl
      | cons name' q =>
        rw [put_directory_cons, get?_directory_cons, get?_directory_cons, Entries.lookup_set]
        split
        · rename_i he
          subst he
          have hq : q ≠ place := fun he => hq (he ▸ rfl)
          rw [TakesFile] at h
          cases hl : entries.lookup name' with
          | none =>
            simp only [hl] at h
            subst h
            obtain ⟨x, q, rfl⟩ := List.exists_cons_of_ne_nil hq
            exact congrArg (Option.map bare) (get?_cons hnew)
          | some child =>
            simp only [hl] at h
            exact ih h hq
        · rfl

end Node

namespace Disk

variable {d d' : Disk} {place steps : List String} {path : String} {spot : Spot} {content : ByteArray}

/-- What a path can lead to, if links at its end are followed. -/
inductive Reached (d : Disk) : Spot → Prop
  | directory {place : List String} {entries : List (String × Node)}
      (h : d.node? place = some (.directory entries)) : Reached d ⟨place, some (.directory entries)⟩
  | file {place : List String} {content : ByteArray} (h : d.node? place = some (.file content)) :
      Reached d ⟨place, some (.file content)⟩
  | missing {place : List String} {name : String} (hd : d.isDirectoryAt place = true)
      (h : d.node? (place ++ [name]) = none) : Reached d ⟨place ++ [name], none⟩

theorem exists_directory (h : d.isDirectoryAt place = true) : ∃ entries, d.node? place = some (.directory entries) := by
  unfold isDirectoryAt at h
  cases hn : d.node? place with
  | none =>
    rw [hn] at h
    cases h
  | some n =>
    rw [hn] at h
    cases n with
    | directory entries => exact ⟨entries, rfl⟩
    | file content => cases h
    | link target => cases h

theorem Reached.node_eq (h : d.Reached spot) : d.node? spot.place = spot.node := by
  cases h with
  | directory h => exact h
  | file h => exact h
  | missing hd h => exact h

/-- A file can be put wherever a path leads, unless there is a directory. -/
theorem Reached.takesFile (h : d.Reached spot) (hne : ∀ entries, spot.node ≠ some (.directory entries)) :
    d.root.TakesFile spot.place := by
  cases h with
  | directory h => exact absurd rfl (hne _)
  | file h => exact Node.takesFile_of_get? h rfl
  | missing hd h =>
    obtain ⟨entries, hd⟩ := exists_directory hd
    exact Node.takesFile_of_get?_eq_none hd h

theorem reached_of_follow {jump : List String → List String → Except IoFault Spot}
    (hjump : ∀ {p s spot}, jump p s = .ok spot → d.Reached spot) (h : d.follow true jump place steps = .ok spot) :
    d.Reached spot := by
  induction steps generalizing place with
  | nil =>
    rw [follow] at h
    split at h
    · rename_i hd
      obtain ⟨entries, hd⟩ := exists_directory hd
      cases h
      rw [hd]
      exact .directory hd
    · cases h
  | cons step steps ih =>
    rw [follow] at h
    split at h
    · exact ih h
    split at h
    · cases h
    split at h
    · exact ih h
    split at h
    · exact ih h
    dsimp only at h
    split at h
    · exact ih h
    · rw [Bool.not_true, Bool.and_false] at h
      exact hjump h
    · rename_i hf
      split at h
      · cases h
        exact .file hf
      · cases h
    · rename_i hn
      split at h
      · rename_i hc
        cases h
        exact .missing (Bool.and_eq_true_iff.1 hc).2 hn
      · cases h

/-- A path leads to a place where something stands or where a file can be put. -/
theorem reached_of_followLinks {n : Nat} (h : d.followLinks true n place steps = .ok spot) : d.Reached spot := by
  induction n generalizing place steps spot with
  | zero =>
    refine reached_of_follow (fun hj => ?_) h
    cases hj
  | succ n ih => exact reached_of_follow ih h

/-- A file that a path leads to is read, unless that is refused. -/
theorem readFile_of_resolve (h : d.resolve true path = .ok ⟨place, some (.file content)⟩)
    (hread : d.refusal? .read place = none) : d.readFile path = .ok content := by
  rw [readFile, h]
  dsimp only [bind, Except.bind]
  rw [allow, hread]

/-- A path that leads somewhere is followed in every file system. -/
theorem resolve_eq_followLinks (h : d.resolve true path = .ok spot) (d' : Disk) :
    d'.resolve true path = d'.followLinks true linkLimit (start path d'.working) (Path.steps path) := by
  unfold resolve at h ⊢
  split at h
  · cases h
  · split at h
    · cases h
    · rename_i hempty hnul
      rw [if_neg hempty, if_neg hnul]

/-! ## Writing -/

/-- How a file system changes when a file is written at a place: the file is there, everywhere else stands what stood
there before, and the working directory and what is refused are the same. -/
structure Written (d : Disk) (place : List String) (content : ByteArray) (d' : Disk) : Prop where
  holds : d'.node? place = some (.file content)
  elsewhere : ∀ q, q ≠ place → (d'.node? q).map Node.bare = (d.node? q).map Node.bare
  working : d'.working = d.working
  refusal? : d'.refusal? = d.refusal?

theorem written_put (h : d.root.TakesFile place) : d.Written place content (d.put place (.file content)) where
  holds := Node.get?_put_self h
  elsewhere _ hq := Node.bare_get?_put h rfl hq
  working := rfl
  refusal? := rfl

theorem Written.exists_directory (h : d.Written place content d') {q : List String} {entries : List (String × Node)}
    (hq : q ≠ place) (hn : d.node? q = some (.directory entries)) :
    ∃ entries', d'.node? q = some (.directory entries') := by
  have he := h.elsewhere q hq
  rw [hn] at he
  obtain ⟨n, hn', hb⟩ := Option.map_eq_some_iff.1 he
  cases n with
  | directory entries' => exact ⟨entries', hn'⟩
  | file content => cases hb
  | link target => cases hb

theorem Written.link (h : d.Written place content d') {q : List String} {target : String} (hq : q ≠ place)
    (hn : d.node? q = some (.link target)) : d'.node? q = some (.link target) := by
  have he := h.elsewhere q hq
  rw [hn] at he
  obtain ⟨n, hn', hb⟩ := Option.map_eq_some_iff.1 he
  cases n with
  | directory entries => cases hb
  | file content => cases hb
  | link target' =>
    cases hb
    exact hn'

/-- The way to the place where a file is written is the same afterwards, and ends at the file. -/
theorem Written.follow (h : d.Written place content d') {node : Option Node} (hr : d.Reached ⟨place, node⟩)
    (hne : ∀ entries, node ≠ some (.directory entries)) {jump jump' : List String → List String → Except IoFault Spot}
    (hjump : ∀ {p s}, jump p s = .ok ⟨place, node⟩ → jump' p s = .ok ⟨place, some (.file content)⟩)
    {q : List String} (hf : d.follow true jump q steps = .ok ⟨place, node⟩) :
    d'.follow true jump' q steps = .ok ⟨place, some (.file content)⟩ := by
  have hnode : d.node? place = node := hr.node_eq
  have hlink : ∀ target, node ≠ some (.link target) := by
    rintro target rfl
    cases hr
  induction steps generalizing q with
  | nil =>
    rw [Disk.follow] at hf
    split at hf
    · rename_i hd
      obtain ⟨entries, hd⟩ := Disk.exists_directory hd
      cases hf
      exact absurd hd (hne entries)
    · cases hf
  | cons step steps ih =>
    rw [Disk.follow] at hf ⊢
    rw [h.refusal?]
    split at hf
    · rename_i hempty
      rw [if_pos hempty]
      exact ih hf
    rename_i hempty
    rw [if_neg hempty]
    split at hf
    · cases hf
    dsimp only
    split at hf
    · rename_i hhere
      rw [if_pos hhere]
      exact ih hf
    rename_i hhere
    rw [if_neg hhere]
    split at hf
    · rename_i hup
      rw [if_pos hup]
      exact ih hf
    rename_i hup
    rw [if_neg hup]
    dsimp only at hf ⊢
    split at hf
    · -- A directory on the way is not where the file goes.
      rename_i entries hd
      have hq : q ++ [step] ≠ place := by
        rintro rfl
        exact hne entries (hnode.symm.trans hd)
      obtain ⟨entries', hd'⟩ := h.exists_directory hq hd
      simp only [hd']
      exact ih hf
    · -- Nor is a link, which is followed.
      rename_i target hl
      have hq : q ++ [step] ≠ place := by
        rintro rfl
        exact hlink target (hnode.symm.trans hl)
      rw [Bool.not_true, Bool.and_false] at hf
      simp only [h.link hq hl, Bool.not_true, Bool.and_false]
      exact hjump hf
    · split at hf
      · rename_i he
        cases hf
        simp only [h.holds, he, if_true]
      · cases hf
    · split at hf
      · rename_i he
        cases hf
        simp only [h.holds, (Bool.and_eq_true_iff.1 he).1, if_true]
      · cases hf

/-- After a file was written, the path that it was written at leads to it. -/
theorem Written.followLinks (h : d.Written place content d') {node : Option Node} (hr : d.Reached ⟨place, node⟩)
    (hne : ∀ entries, node ≠ some (.directory entries)) {n : Nat} {q : List String}
    (hf : d.followLinks true n q steps = .ok ⟨place, node⟩) :
    d'.followLinks true n q steps = .ok ⟨place, some (.file content)⟩ := by
  induction n generalizing q steps with
  | zero =>
    refine h.follow hr hne (fun hj => ?_) hf
    cases hj
  | succ n ih => exact h.follow hr hne ih hf

theorem writeFile_eq_ok (h : d.writeFile path content = .ok d') :
    ∃ spot, d.resolve true path = .ok spot ∧ (∀ entries, spot.node ≠ some (.directory entries)) ∧
      d' = d.put spot.place (.file content) := by
  unfold writeFile at h
  cases hr : d.resolve true path with
  | error why =>
    rw [hr] at h
    cases h
  | ok spot =>
    rw [hr] at h
    dsimp only [bind, Except.bind] at h
    split at h
    · cases h
    · rename_i hne
      split at h
      · cases h
      · cases h
        exact ⟨spot, rfl, hne, rfl⟩

/-- A file that was written is where the path leads, before and after; nothing else has changed. -/
theorem written_of_writeFile (h : d.writeFile path content = .ok d') :
    ∃ spot, d.resolve true path = .ok spot ∧ d.Written spot.place content d' ∧
      d'.resolve true path = .ok ⟨spot.place, some (.file content)⟩ := by
  obtain ⟨spot, hresolve, hne, rfl⟩ := writeFile_eq_ok h
  have hfollow := (resolve_eq_followLinks hresolve d).symm.trans hresolve
  have hreached := reached_of_followLinks hfollow
  have hwritten : d.Written spot.place content _ := written_put (hreached.takesFile hne)
  refine ⟨spot, hresolve, hwritten, ?_⟩
  rw [resolve_eq_followLinks hresolve, hwritten.working]
  exact hwritten.followLinks hreached hne hfollow

end Disk

end PageBundle
