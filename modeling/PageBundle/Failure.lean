import PageBundle.Number.Decimal
import PageBundle.Text.Quoted

/-!
What can go wrong in a run, and the words for it.
-/

namespace PageBundle

inductive Failure where
  /-- The files of the project could not be had. -/
  | inputUnavailable (detail : String)
  /-- There is not one file. -/
  | emptyInput
  /-- A saved page holds no document. -/
  | malformedMhtml
  /-- The finished document is larger than allowed. -/
  | sizeExceeded (bytes limitKb : Nat)
  /-- The download broke off or never began. -/
  | network (detail : String)
  /-- An archive cannot be read. -/
  | archive (detail : String)
  /-- The settings cannot be used. -/
  | config (detail : String)
  /-- The file system refused. -/
  | io (path detail : String)
  /-- An argument makes no sense. -/
  | validation (detail : String)
deriving DecidableEq, Repr

namespace Failure

/-- A size in KB with two places. The byte count is taken in floating point, as sizes are compared in it. -/
def kilobytes (bytes : Nat) : String := Decimal.fixed 2 (Binary64.round bytes) 1024

def message : Failure → String
  | inputUnavailable detail => "could not obtain input: " ++ detail
  | emptyInput => "could not obtain input: the project contains no files"
  | malformedMhtml => "malformed input: no HTML content found in MHTML input"
  | sizeExceeded bytes limitKb =>
    "input too large: bundle size (" ++ kilobytes bytes ++ "KB) exceeds " ++ toString limitKb ++ "KB limit"
  | network detail => "network error: " ++ detail
  | archive detail => "archive error: " ++ detail
  | config detail => "config error: " ++ detail
  | io path detail => "I/O error at " ++ Text.quoted path ++ ": " ++ detail
  | validation detail => "validation error: " ++ detail

/-- Whether the failure means that the input could not be had at all. -/
def isInputUnavailable : Failure → Bool
  | inputUnavailable _ | emptyInput | network _ | archive _ | io _ _ => true
  | malformedMhtml | sizeExceeded _ _ | config _ | validation _ => false

end Failure

end PageBundle
