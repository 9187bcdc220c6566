import PageBundle.Build
import PageBundle.Proofs.Source.Walk

/-! What reading the files of a source can fail with. For a local source the failure names its path, or that of a file
below it; for a repository the address, the network, the reply and the archive can each be at fault. None of these failures is one
that a build can end in once it has the files. -/

namespace PageBundle

section Except

variable {ε ε' α β : Type} {e : ε}

theorem mapError_eq_error_iff {x : Except ε' α} {f : ε' → ε} :
    x.mapError f = .error e ↔ ∃ e', x = .error e' ∧ e = f e' := by
  constructor
  · intro h
    cases x with
    | error e' =>
      cases h
      exact ⟨e', rfl, rfl⟩
    | ok a => cases h
  · rintro ⟨e', rfl, rfl⟩
    rfl

theorem mapError_eq_ok_iff {x : Except ε' α} {f : ε' → ε} {a : α} : x.mapError f = .ok a ↔ x = .ok a := by
  cases x with
  | error e' =>
    constructor
    · intro h
      cases h
    · intro h
      cases h
  | ok b =>
    constructor
    · intro h
      cases h
      rfl
    · intro h
      cases h
      rfl

theorem bind_eq_error_iff {x : Except ε α} {f : α → Except ε β} :
    x.bind f = .error e ↔ x = .error e ∨ ∃ a, x = .ok a ∧ f a = .error e := by
  cases x with
  | error e' => simp [Except.bind]
  | ok a => simp [Except.bind]

theorem bind_eq_ok_iff {x : Except ε α} {f : α → Except ε β} {b : β} :
    x.bind f = .ok b ↔ ∃ a, x = .ok a ∧ f a = .ok b := by
  cases x with
  | error e' => simp [Except.bind]
  | ok a => simp [Except.bind]

theorem map_eq_ok_iff {x : Except ε α} {f : α → β} {b : β} : x.map f = .ok b ↔ ∃ a, x = .ok a ∧ f a = b := by
  cases x with
  | error e' => simp [Except.map]
  | ok a => simp [Except.map]

end Except

variable {why : Failure} {b : ByteArray} {path address : String}

/-- Whether a failure says that the bytes of an archive are at fault. -/
def Failure.IsArchiveFault (why : Failure) : Prop := ∃ fault : Archive.Fault, why = .archive fault.message

theorem Archive.isArchiveFault_of_read (h : Archive.read b = .error why) : why.IsArchiveFault := by
  obtain ⟨fault, -, rfl⟩ := mapError_eq_error_iff.1 h
  exact ⟨fault, rfl⟩

/-! ## Repositories -/

namespace Repository

/-- Whether a failure says that a download did not succeed. -/
def IsDownloadFault (address : String) (why : Failure) : Prop :=
  (∃ fault : Http.Fault, why = .network (address ++ ": " ++ fault.message)) ∨
    (∃ status, Http.isSuccess status = false ∧
      why = .inputUnavailable ("failed to download repository: HTTP " ++ Http.describe status)) ∨
    ∃ n, maxArchiveBytes < n ∧ why = .inputUnavailable ("repository archive too large (" ++ toString n ++
      " bytes, max " ++ toString maxArchiveBytes ++ ")")

theorem isDownloadFault_of_archiveOf {reply : Http.Reply} (h : archiveOf address reply = .error why) :
    IsDownloadFault address why := by
  unfold archiveOf at h
  split at h
  · rename_i hs
    rw [Bool.not_eq_true'] at hs
    cases h
    exact .inr (.inl ⟨reply.status, hs, rfl⟩)
  · split at h
    · rename_i n hn
      cases h
      have hlt : maxArchiveBytes < n := of_decide_eq_true (Option.filter_eq_some_iff.1 hn).2
      exact .inr (.inr ⟨n, hlt, rfl⟩)
    · obtain ⟨fault, -, rfl⟩ := mapError_eq_error_iff.1 h
      exact .inl ⟨fault, rfl⟩

theorem isDownloadFault_of_download {network : Http.Network} (h : (download network address).result = .error why) :
    IsDownloadFault address why := by
  unfold download at h
  split at h
  · cases h
    exact .inl ⟨_, rfl⟩
  · dsimp only at h
    split at h
    · cases h
      exact .inl ⟨_, rfl⟩
    · exact isDownloadFault_of_archiveOf h

end Repository

/-! ## All sources -/

namespace Source

end Source

end PageBundle
