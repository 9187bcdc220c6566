import Mathlib.Data.Finset.Card
import PageBundle.Proofs.FileSet.Insert

/-! A set of files after a row of edits. It is determined by the pairs of path and content that were inserted since the
set was last begun anew: a path stands where it was first inserted and has the content that was inserted last. The
index tells these positions and no others, so it never leads past the end of the files. -/

namespace PageBundle.FileSet

/-- One way in which a set of files comes about from another. The last two begin anew. -/
inductive Edit where
  | insert (path content : String)
  | single (path content : String)
  | collect (files : List (String × String))

namespace Edit

def apply (s : FileSet) : Edit → FileSet
  | insert path content => s.insert path content
  | single path content => .single path content
  | collect files => .ofList files

/-- What was inserted so far, after one more edit. -/
def record (l : List (String × String)) : Edit → List (String × String)
  | insert path content => l ++ [(path, content)]
  | single path content => [(path, content)]
  | collect files => files

end Edit

def run (edits : List Edit) : FileSet := edits.foldl Edit.apply empty

def inserted (edits : List Edit) : List (String × String) := edits.foldl Edit.record []

variable {s : FileSet} {l : List (String × String)}

/-- What a set has to say of the insertions that it was made by. -/
structure Follows (s : FileSet) (l : List (String × String)) : Prop where
  paths_eq : s.paths = (l.map Prod.fst).eraseDups
  find?_eq : ∀ p, s.find? p = (l.reverse.lookup p).map (File.mk p)

theorem follows_empty : empty.Follows [] := ⟨rfl, fun _ => rfl⟩

/-- One more insertion keeps a set true to its history. -/
theorem Follows.insert (h : s.Follows l) (path content : String) :
    (s.insert path content).Follows (l ++ [(path, content)]) where
  paths_eq := by
    rw [paths_insert, List.map_append, List.eraseDups_append, h.paths_eq]
    by_cases hm : path ∈ l.map Prod.fst
    · simp [List.removeAll, hm]
    · simp [List.removeAll, hm, List.eraseDups_cons]
  find?_eq p := by
    rw [find?_insert, List.reverse_append, List.reverse_singleton, List.singleton_append, List.lookup_cons, h.find?_eq]
    by_cases hp : p = path
    · subst hp
      rw [if_pos rfl, beq_self_eq_true]
      rfl
    · rw [if_neg hp, beq_eq_false_iff_ne.2 hp]

theorem Follows.foldl_insert (h : s.Follows l) (files : List (String × String)) :
    (files.foldl (fun s (path, content) => s.insert path content) s).Follows (l ++ files) := by
  induction files generalizing s l with
  | nil =>
    rw [List.append_nil]
    exact h
  | cons x files ih =>
    have := ih (h.insert x.1 x.2)
    rwa [List.append_assoc] at this

theorem follows_ofList (files : List (String × String)) : (ofList files).Follows files :=
  follows_empty.foldl_insert files

theorem Follows.apply (h : s.Follows l) (e : Edit) : (e.apply s).Follows (e.record l) := by
  cases e with
  | insert path content => exact h.insert path content
  | single path content => exact follows_empty.insert path content
  | collect files => exact follows_ofList files

/-- A row of edits leaves a set that is true to what was inserted since it last began anew. -/
theorem follows_run (edits : List Edit) : (run edits).Follows (inserted edits) := by
  have hfold : ∀ (s : FileSet) l, s.Follows l → (edits.foldl Edit.apply s).Follows (edits.foldl Edit.record l) := by
    induction edits with
    | nil => exact fun _ _ h => h
    | cons e edits ih => exact fun s l h => ih _ _ (h.apply e)
  exact hfold empty [] follows_empty

theorem Follows.size_eq (h : s.Follows l) : s.size = (l.map Prod.fst).toFinset.card := by
  have hset : (l.map Prod.fst).toFinset = s.paths.toFinset := by
    ext p
    rw [List.mem_toFinset, List.mem_toFinset, h.paths_eq, List.mem_eraseDups]
  rw [hset, List.toFinset_card_of_nodup (nodup_paths s), paths, List.length_map, toList, Array.length_toList]
  rfl

theorem lt_size_of_position? {p : String} {i : Nat} (h : s.position? p = some i) : i < s.size := by
  obtain ⟨f, hf, -⟩ := position?_eq_some_iff.1 h
  exact (Array.getElem?_eq_some_iff.1 hf).1

/-- After any row of edits the index maps a path to a position exactly if the file there has that path, and never to a
position past the end; the paths are distinct and stand in the order of first insertion; a look-up gives the content
that was inserted last, and nothing for a path that was not inserted; there are as many files as distinct paths. -/
theorem run_isOrderedMap (edits : List Edit) :
    let s := run edits
    let l := inserted edits
    (∀ (p : String) (i : Nat), s.index[p]? = some i ↔ ∃ f, s.files[i]? = some f ∧ f.path = p) ∧
    (∀ (p : String) (i : Nat), s.index[p]? = some i → i < s.files.size) ∧
    s.paths.Nodup ∧ s.paths = (l.map Prod.fst).eraseDups ∧
    (∀ p, s.find? p = (l.reverse.lookup p).map (File.mk p)) ∧
    (∀ p, s.get? p = l.reverse.lookup p) ∧
    s.size = (l.map Prod.fst).toFinset.card := by
  have h := follows_run edits
  refine ⟨fun p i => position?_eq_some_iff, fun p i => lt_size_of_position?, nodup_paths _, h.paths_eq, h.find?_eq, ?_,
    h.size_eq⟩
  intro p
  rw [get?, h.find?_eq, Option.map_map]
  exact Option.map_id'

end PageBundle.FileSet
