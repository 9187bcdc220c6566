import PageBundle.Proofs.Archive.Whole
import PageBundle.Proofs.Repository.Limit
import PageBundle.Proofs.Source.Directory

/-! How readers fail. What cannot be read is input that could not be had, wherever on the way that shows, and whoever reads
gets all the files or none. Only a text that names no repository is an error of another sort, and nothing is asked of the
network for it. -/

namespace PageBundle

variable {why : Failure} {path : String}

/-- A reader that gives a set just if it is the whole one, and otherwise fails because the input could not be had. -/
structure AllOrNothing (result : Except Failure FileSet) (whole : FileSet → Prop) : Prop where
  ok_iff : ∀ files, result = .ok files ↔ whole files
  unavailable : ∀ why, result = .error why → why.isInputUnavailable = true

theorem AllOrNothing.congr {result : Except Failure FileSet} {whole whole' : FileSet → Prop}
    (h : AllOrNothing result whole) (hw : ∀ files, whole files ↔ whole' files) : AllOrNothing result whole' :=
  ⟨fun files => (h.ok_iff files).trans (hw files), h.unavailable⟩

/-- What reads after something else has been had. -/
theorem AllOrNothing.bind {α : Type} {x : Except Failure α} {f : α → Except Failure FileSet}
    {whole : α → FileSet → Prop} (hx : ∀ why, x = .error why → why.isInputUnavailable = true)
    (hf : ∀ a, AllOrNothing (f a) (whole a)) : AllOrNothing (x.bind f) fun files => ∃ a, x = .ok a ∧ whole a files where
  ok_iff files := by
    rw [bind_eq_ok_iff]
    exact exists_congr fun a => and_congr_right fun _ => (hf a).ok_iff files
  unavailable why h := by
    rcases bind_eq_error_iff.1 h with h | ⟨a, -, h⟩
    · exact hx why h
    · exact (hf a).unavailable why h

/-- An archive is read as a whole or not at all. -/
theorem Archive.allOrNothing_read (b : ByteArray) : AllOrNothing (read b) (IsWhole b) where
  ok_iff _ := read_eq_ok_iff
  unavailable why h := by
    obtain ⟨fault, rfl⟩ := isArchiveFault_of_read h
    rfl

namespace Source

variable {d : Disk}

theorem unavailable_of_refused {x : Except IoFault ByteArray} (why : Failure) (h : x.mapError (refused path) = .error why) :
    why.isInputUnavailable = true := by
  obtain ⟨fault, -, rfl⟩ := mapError_eq_error_iff.1 h
  rfl

theorem allOrNothing_readArchive (d : Disk) (path : String) : AllOrNothing (readArchive d path) fun files =>
    ∃ b, d.readFile path = .ok b ∧ Archive.IsWhole b files :=
  (AllOrNothing.bind unavailable_of_refused Archive.allOrNothing_read).congr fun _ =>
    exists_congr fun _ => and_congr_left fun _ => mapError_eq_ok_iff

/-- A document is read as the one file of a set, if it is a text. -/
theorem allOrNothing_readDocument (d : Disk) (path : String) : AllOrNothing (readDocument d path) fun files =>
    ∃ content, d.readFile path = .ok content ∧ ∃ text, String.fromUTF8? content = some text ∧
      files = .single ((Path.fileName? path).getD "") (withoutMark text) := by
  refine (AllOrNothing.bind unavailable_of_refused fun content => ?_).congr fun _ =>
    exists_congr fun _ => and_congr_left fun _ => mapError_eq_ok_iff
  rw [FileSet.text?_eq]
  cases String.fromUTF8? content with
  | none =>
    refine ⟨fun files => ⟨nofun, nofun⟩, fun why h => ?_⟩
    cases h
    rfl
  | some text =>
    refine ⟨fun files => ⟨fun h => ?_, ?_⟩, nofun⟩
    · cases h
      exact ⟨text, rfl, rfl⟩
    · rintro ⟨_, ht, rfl⟩
      cases ht
      rfl

/-! ## Directories -/

theorem Step.unavailable_of_failure? {root : String} {s : Step} (h : s.failure? root = some why) :
    why.isInputUnavailable = true := by
  unfold failure? at h
  split at h
  · cases h
    rfl
  · cases h
    rfl
  · cases h
  · cases h

theorem allOrNothing_readSteps (root : String) (steps : List Step) : AllOrNothing (readSteps root .empty steps) fun files =>
    (∀ s ∈ steps, s.failure? root = none) ∧ files = .ofList ((steps.filterMap Step.found?).filterMap textFile?) where
  ok_iff _ := readSteps_eq_ok_iff
  unavailable why h := by
    obtain ⟨s, -, hwhy⟩ := exists_failure?_of_readSteps h
    exact s.unavailable_of_failure? hwhy

/-- A directory is read by the steps of a walk through it. -/
theorem readDirectory_eq_readSteps {place : List String} {entries : List (String × Node)}
    (h : d.resolve true path = .ok ⟨place, some (.directory entries)⟩) (hm : isMetadata d path = false) :
    readDirectory d path = readSteps path .empty ((Node.directory entries).visits.map (step d place path)) := by
  rw [readDirectory, h]
  dsimp only
  rw [hm]
  rfl

/-- A directory is read as a whole or not at all. -/
theorem allOrNothing_readDirectory (d : Disk) (path : String) : AllOrNothing (readDirectory d path) fun files =>
    ∃ place entries, d.resolve true path = .ok ⟨place, some (.directory entries)⟩ ∧
      if isMetadata d path then files = .empty
      else (∀ v ∈ (Node.directory entries).visits, (∀ target, v.node ≠ .link target) → d.Allows place v.names) ∧
        files = .ofList ((Node.directory entries).walk.filterMap textFile?) := by
  unfold readDirectory
  split
  · rename_i place entries h
    have hplace : ∀ {whole : List String → List (String × Node) → Prop},
        (∃ place' entries', d.resolve true path = .ok ⟨place', some (.directory entries')⟩ ∧ whole place' entries') ↔
          whole place entries := by
      intro whole
      constructor
      · rintro ⟨_, _, h', hw⟩
        cases h.symm.trans h'
        exact hw
      · exact fun hw => ⟨place, entries, h, hw⟩
    simp only [hplace]
    split
    · exact ⟨fun files => by rw [Except.ok.injEq, eq_comm], nofun⟩
    · refine ⟨fun files => readSteps_visits_eq_ok_iff, fun why he => ?_⟩
      exact (allOrNothing_readSteps path _).unavailable why he
  · rename_i hne
    refine ⟨fun files => ⟨nofun, ?_⟩, fun why he => ?_⟩
    · rintro ⟨place, entries, h, -⟩
      exact absurd h (hne place entries)
    · cases he
      rfl

end Source

/-! ## Repositories -/

namespace Repository

variable {network : Http.Network} {hosting : Hosting} {input address : String} {r : Repository}

theorem unavailable_of_download (why : Failure) (h : (download network address).result = .error why) :
    why.isInputUnavailable = true := by
  rcases isDownloadFault_of_download h with ⟨_, rfl⟩ | ⟨_, _, rfl⟩ | ⟨_, _, rfl⟩ <;> rfl

/-- A repository is fetched as a whole or not at all. -/
theorem allOrNothing_fetch (network : Http.Network) (hosting : Hosting) (h : parse input = .ok r) :
    AllOrNothing (fetch network hosting input).result fun files =>
      ∃ b, Extracts network hosting input b ∧ Archive.IsWhole b files := by
  rw [result_fetch h]
  refine (AllOrNothing.bind unavailable_of_download Archive.allOrNothing_read).congr fun _ =>
    exists_congr fun b => and_congr_left fun _ => ⟨fun hb => ⟨r, h, hb⟩, ?_⟩
  rintro ⟨r', h', hb⟩
  cases h.symm.trans h'
  exact hb

theorem fetch_of_error (network : Http.Network) (hosting : Hosting) (h : parse input = .error why) :
    fetch network hosting input = ⟨.error why, []⟩ := by
  rw [fetch, h]

theorem result_fetch_eq_validation_iff :
    (∃ detail, (fetch network hosting input).result = .error (.validation detail)) ↔ ∃ why, parse input = .error why := by
  constructor
  · rintro ⟨detail, h⟩
    cases hp : parse input with
    | error why => exact ⟨why, rfl⟩
    | ok r => exact absurd ((allOrNothing_fetch network hosting hp).unavailable _ h) Bool.false_ne_true
  · rintro ⟨why, h⟩
    obtain ⟨fault, -, rfl⟩ := mapError_eq_error_iff.1 h
    exact ⟨fault.message, by rw [fetch_of_error network hosting h]⟩

end Repository

open Source Repository in
/-- Archives, directories and documents are read as a whole, or else the input could not be had. For a directory this holds
whatever the system refuses on the walk through it: reading fails at the first thing met there that cannot be had. Fetching
a repository fails because of what was asked for if and only if no repository was named, and then nothing is asked of the
network. Otherwise the repository is fetched as a whole, or else the input could not be had. -/
theorem readers_allOrNothing :
    (∀ b, AllOrNothing (Archive.read b) (Archive.IsWhole b)) ∧
    (∀ d path, AllOrNothing (readArchive d path) fun files => ∃ b, d.readFile path = .ok b ∧ Archive.IsWhole b files) ∧
    (∀ d path, AllOrNothing (readDirectory d path) fun files =>
      ∃ place entries, d.resolve true path = .ok ⟨place, some (.directory entries)⟩ ∧
        if isMetadata d path then files = .empty
        else (∀ v ∈ (Node.directory entries).visits, (∀ target, v.node ≠ .link target) → d.Allows place v.names) ∧
          files = .ofList ((Node.directory entries).walk.filterMap textFile?)) ∧
    (∀ root steps, AllOrNothing (readSteps root .empty steps) fun files =>
      (∀ s ∈ steps, s.failure? root = none) ∧ files = .ofList ((steps.filterMap Step.found?).filterMap textFile?)) ∧
    (∀ d path place entries, d.resolve true path = .ok ⟨place, some (.directory entries)⟩ → isMetadata d path = false →
      readDirectory d path = readSteps path .empty ((Node.directory entries).visits.map (step d place path))) ∧
    (∀ d path, AllOrNothing (readDocument d path) fun files => ∃ content, d.readFile path = .ok content ∧
      ∃ text, String.fromUTF8? content = some text ∧
        files = .single ((Path.fileName? path).getD "") (withoutMark text)) ∧
    ∀ network hosting input,
      ((∃ detail, (fetch network hosting input).result = .error (.validation detail)) ↔ ∃ why, parse input = .error why) ∧
      (∀ why, parse input = .error why → fetch network hosting input = ⟨.error why, []⟩) ∧
      ∀ r, parse input = .ok r → AllOrNothing (fetch network hosting input).result fun files =>
        ∃ b, Extracts network hosting input b ∧ Archive.IsWhole b files :=
  ⟨Archive.allOrNothing_read, allOrNothing_readArchive, allOrNothing_readDirectory, allOrNothing_readSteps,
    fun _ _ _ _ => readDirectory_eq_readSteps, allOrNothing_readDocument, fun network hosting _ =>
      ⟨result_fetch_eq_validation_iff, fun _ => fetch_of_error network hosting,
        fun _ => allOrNothing_fetch network hosting⟩⟩

end PageBundle
