import PageBundle.Proofs.FileTree.Walk
import PageBundle.Proofs.Text.Encoding
import PageBundle.Source.Local

/-! Reading a directory while it is walked through. The first thing on the way that the system refuses ends the reading, and
what has been read until then is lost. If nothing is refused then the text files that were met are put in, in the order in
which they were met. What stands below a directory can be had if each directory on the way to it may be searched and it
may be read itself; links are never looked at. -/

namespace PageBundle

variable {d : Disk} {place names : List String} {n : Node}

/-! ## What is refused -/

namespace Disk

/-- Whether what stands under some names below a place can be had. -/
structure Allows (d : Disk) (place names : List String) : Prop where
  search : ∀ before, before <+: names → before ≠ names → d.refusal? .search (place ++ before) = none
  read : d.refusal? .read (place ++ names) = none

/-- Whether all that a walk meets in a tree at a place can be had, links aside. -/
def Opens (d : Disk) (place : List String) (n : Node) : Prop :=
  ∀ names m, n.Reaches names m → (∀ target, m ≠ .link target) → d.Allows place names

theorem allows_nil : d.Allows place [] ↔ d.refusal? .read place = none := by
  constructor
  · intro h
    simpa using h.read
  · intro h
    exact ⟨fun before hb hne => absurd (List.prefix_nil.1 hb) hne, by simpa using h⟩

theorem allows_cons {name : String} : d.Allows place (name :: names) ↔
    d.refusal? .search place = none ∧ d.Allows (place ++ [name]) names := by
  constructor
  · intro h
    refine ⟨by simpa using h.search [] List.nil_prefix (List.cons_ne_nil _ _).symm, fun before hb hne => ?_, ?_⟩
    · simpa using h.search (name :: before) (List.cons_prefix_cons.2 ⟨rfl, hb⟩) fun he => hne (List.cons.inj he).2
    · simpa using h.read
  · rintro ⟨hs, h⟩
    refine ⟨fun before hb hne => ?_, by simpa using h.read⟩
    rcases List.prefix_cons_iff.1 hb with rfl | ⟨before, rfl, hbelow⟩
    · simpa using hs
    · simpa using h.search before hbelow fun he => hne (he ▸ rfl)

/-- Nothing is refused on the way exactly if what stands there can be had. -/
theorem refusalBelow?_eq_none_iff : d.refusalBelow? place names = none ↔ d.Allows place names := by
  induction names generalizing place with
  | nil => exact allows_nil.symm
  | cons name names ih => rw [refusalBelow?, Option.or_eq_none_iff, ih, allows_cons]

end Disk

namespace Source

/-! ## Steps -/

variable {path root : String} {files : FileSet} {steps : List Step} {v : Visit} {why : Failure}

def Step.failure? (root : String) : Step → Option Failure
  | refused detail => some (.inputUnavailable ("failed to walk " ++ root ++ ": " ++ detail))
  | file _ path (.error detail) => some (.io path detail)
  | passed | file _ _ (.ok _) => none

/-- The file that is met at a step, if one is and it can be read. -/
def Step.found? : Step → Option Found
  | file names _ (.ok content) => some ⟨names, content⟩
  | refused _ | passed | file _ _ (.error _) => none

def textFile? (f : Found) : Option (String × String) :=
  (String.fromUTF8? f.content).map fun text => ("/".intercalate f.names, withoutMark text)

/-- The set of the texts among some files. -/
def collect (found : List Found) : FileSet := .ofList (found.filterMap textFile?)

theorem foldl_insertBytes (found : List Found) (files : FileSet) :
    found.foldl (fun files f => files.insertBytes ("/".intercalate f.names) f.content) files =
      (found.filterMap textFile?).foldl (fun files (path, text) => files.insert path text) files := by
  induction found generalizing files with
  | nil => rfl
  | cons f found ih =>
    rw [List.foldl_cons, ih, FileSet.insertBytes, FileSet.text?_eq, List.filterMap_cons, textFile?]
    cases String.fromUTF8? f.content <;> rfl

/-- The first failure on a walk ends it. -/
theorem readSteps_eq (root : String) (files : FileSet) (steps : List Step) : readSteps root files steps =
    match steps.findSome? (Step.failure? root) with
    | some why => .error why
    | none => .ok ((steps.filterMap Step.found?).foldl
        (fun files f => files.insertBytes ("/".intercalate f.names) f.content) files) := by
  fun_induction readSteps root files steps with
  | case1 files => rfl
  | case2 files detail steps => rfl
  | case3 files steps ih => exact ih
  | case4 files names path detail steps => rfl
  | case5 files names path content steps ih => exact ih

/-- A walk succeeds exactly if none of its steps fails, with the texts among the files that it meets. -/
theorem readSteps_eq_ok_iff : readSteps root .empty steps = .ok files ↔
    (∀ s ∈ steps, s.failure? root = none) ∧ files = collect (steps.filterMap Step.found?) := by
  rw [readSteps_eq, foldl_insertBytes, ← FileSet.ofList, ← collect]
  cases hf : steps.findSome? (Step.failure? root) with
  | none =>
    have hnone := List.findSome?_eq_none_iff.1 hf
    rw [Except.ok.injEq, eq_comm]
    exact (and_iff_right hnone).symm
  | some why =>
    obtain ⟨s, hs, hwhy⟩ := List.exists_of_findSome?_eq_some hf
    refine iff_of_false nofun fun h => ?_
    rw [h.1 s hs] at hwhy
    cases hwhy

/-- A walk fails as one of its steps does. -/
theorem exists_failure?_of_readSteps (h : readSteps root files steps = .error why) :
    ∃ s ∈ steps, s.failure? root = some why := by
  rw [readSteps_eq] at h
  split at h
  · rename_i hf
    cases h
    exact List.exists_of_findSome?_eq_some hf
  · cases h

/-! ## Steps through a tree -/

theorem failure?_step_eq_none_iff : (step d place path v).failure? path = none ↔
    (∀ target, v.node ≠ .link target) → d.Allows place v.names := by
  rw [← Disk.refusalBelow?_eq_none_iff, step]
  cases hn : v.node with
  | link target => simp [Step.failure?]
  | file content => cases d.refusalBelow? place v.names <;> simp [Step.failure?]
  | directory entries => cases d.refusalBelow? place v.names <;> simp [Step.failure?]

theorem found?_step (h : (step d place path v).failure? path = none) : (step d place path v).found? = v.found? := by
  rw [failure?_step_eq_none_iff, ← Disk.refusalBelow?_eq_none_iff] at h
  rw [step, Visit.found?]
  cases hn : v.node with
  | link target => rfl
  | directory entries =>
    rw [h (by simp [hn])]
    rfl
  | file content =>
    rw [h (by simp [hn])]
    rfl

theorem filterMap_found?_step {l : List Visit} (h : ∀ v ∈ l, (step d place path v).failure? path = none) :
    (l.map (step d place path)).filterMap Step.found? = l.filterMap Visit.found? := by
  rw [List.filterMap_map]
  exact List.filterMap_congr fun v hv => found?_step (h v hv)

theorem readSteps_visits_eq_ok_iff : readSteps path .empty (n.visits.map (step d place path)) = .ok files ↔
    (∀ v ∈ n.visits, (∀ target, v.node ≠ .link target) → d.Allows place v.names) ∧ files = collect n.walk := by
  rw [readSteps_eq_ok_iff, List.forall_mem_map]
  simp only [failure?_step_eq_none_iff]
  refine and_congr_right fun h => ?_
  rw [filterMap_found?_step fun v hv => failure?_step_eq_none_iff.2 (h v hv), ← Node.walk]

theorem opens_iff (h : n.Proper) :
    d.Opens place n ↔ ∀ v ∈ n.visits, (∀ target, v.node ≠ .link target) → d.Allows place v.names := by
  constructor
  · intro ho v hv
    exact ho v.names v.node ((Node.mem_visits_iff h).1 hv)
  · intro hv names m hm
    exact hv ⟨names, m⟩ ((Node.mem_visits_iff h).2 hm)

end Source

end PageBundle
