import PageBundle.Proofs.Bundle.Basic
import PageBundle.Proofs.Source.Read

/-! How a build ends, phase by phase. Each phase has failures of its own: there are no files or they cannot be read;
a saved page holds no document; the document is too large. So a failure tells how far the build came, and nothing
else can stop it: the files are known to be there when the document is made. -/

namespace PageBundle

variable {w : World} {opts : BuildOptions} {s : Source} {files : FileSet} {why : Failure} {n : Nat}

/-! ## One phase -/

def Source.draft (w : World) (opts : BuildOptions) (s : Source) : Except Failure Draft :=
  (s.collectFiles w opts).result.bind fun files => s.make files opts.bundle

/-- A build gives what its draft gives when it is held against the ceiling. -/
theorem build_result (w : World) (opts : BuildOptions) (s : Source) :
    (build w opts s).result = (s.draft w opts).bind fun draft => draft.finish opts.bundle := by
  unfold build Source.draft
  dsimp only
  cases hc : (s.collectFiles w opts).result with
  | error why => rfl
  | ok files =>
    rw [Except.bind]
    dsimp only
    cases hm : s.make files opts.bundle with
    | error why => rfl
    | ok draft =>
      rw [Except.bind]
      dsimp only
      cases draft.finish opts.bundle <;> rfl

def Source.phases (s : Source) : List Phase := [s.collectPhase, s.makePhase, .checkSize]

end PageBundle
