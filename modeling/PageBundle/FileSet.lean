import Std.Data.TreeMap
import PageBundle.Bytes
import PageBundle.Text.Scan

/-!
The text files of one project, in the order in which their paths were first inserted. An index from paths
to positions makes look-ups fast; the proof field `index_iff` says that it is exact, so paths are distinct.
-/

namespace PageBundle

/-- A text file of a project: a path with `/` between its parts, and the content. -/
structure File where
  path : String
  content : String
deriving DecidableEq, Inhabited

namespace File

/-- What the paths of installed dependencies have in common. -/
def cacheMarker : String := "node_modules"

def isDependency (f : File) : Bool := Text.contains f.path.toList cacheMarker.toList

/-- Whether the path ends with the given text, case and all. -/
def hasSuffix (f : File) (suffix : String) : Bool := suffix.toList.isSuffixOf f.path.toList

end File

/-- Files with distinct paths, in order of first insertion. -/
structure FileSet where
  files : Array File
  index : Std.TreeMap String Nat
  index_iff : ∀ (p : String) (i : Nat), index[p]? = some i ↔ (files[i]?).map File.path = some p

namespace FileSet

def empty : FileSet where
  files := #[]
  index := {}
  index_iff := by simp

instance : Inhabited FileSet := ⟨empty⟩

def toList (s : FileSet) : List File := s.files.toList

def paths (s : FileSet) : List String := s.toList.map File.path

def size (s : FileSet) : Nat := s.files.size

def isEmpty (s : FileSet) : Bool := s.files.isEmpty

def totalBytes (s : FileSet) : Nat := s.toList.foldl (fun n f => n + f.content.utf8ByteSize) 0

def position? (s : FileSet) (path : String) : Option Nat := s.index[path]?

/-- The index knows the position of every path and of no other. -/
theorem position?_eq_some_iff {s : FileSet} {path : String} {i : Nat} :
    s.position? path = some i ↔ ∃ f, s.files[i]? = some f ∧ f.path = path := by
  rw [position?, s.index_iff, Option.map_eq_some_iff]

def find? (s : FileSet) (path : String) : Option File :=
  (s.position? path).bind fun i => s.files[i]?

def get? (s : FileSet) (path : String) : Option String := (s.find? path).map File.content

def withSuffix (s : FileSet) (suffix : String) : List File :=
  s.toList.filter fun f => f.hasSuffix suffix

private theorem index_replace (s : FileSet) (j : Nat) (content : String) (p : String) (i : Nat) :
    s.index[p]? = some i ↔
      ((s.files.modify j fun f => { f with content })[i]?).map File.path = some p := by
  rw [s.index_iff, Array.getElem?_modify]
  split
  · simp [Function.comp_def]
  · rfl

private theorem index_push (s : FileSet) (path content : String) (h : s.index[path]? = none)
    (p : String) (i : Nat) :
    (s.index.insert path s.files.size)[p]? = some i ↔
      ((s.files.push ⟨path, content⟩)[i]?).map File.path = some p := by
  have absent := s.index_iff path i
  simp only [h, reduceCtorEq, false_iff] at absent
  simp only [Std.TreeMap.getElem?_insert, Array.getElem?_push, Std.LawfulEqOrd.compare_eq_iff_eq]
  by_cases hp : path = p
  · subst hp
    by_cases hi : i = s.files.size
    · simp [hi]
    · simp [hi, absent, eq_comm]
  · by_cases hi : i = s.files.size
    · have := s.index_iff p i
      simp [hi, hp] at this ⊢
      exact this
    · simp [hi, hp, s.index_iff]

/-- The set with a file put in: a path already there keeps its position and gets the new content. -/
def insert (s : FileSet) (path content : String) : FileSet :=
  match h : s.index[path]? with
  | some i => ⟨s.files.modify i fun f => { f with content }, s.index, index_replace s i content⟩
  | none => ⟨s.files.push ⟨path, content⟩, s.index.insert path s.files.size, index_push s path content h⟩

/-- The set that results from inserting the given files one after the other. -/
def ofList (files : List (String × String)) : FileSet :=
  files.foldl (fun s (path, content) => s.insert path content) empty

def byteOrderMark : List UInt8 := [0xEF, 0xBB, 0xBF]

/-- The text of some bytes without a byte order mark at its start, if they are text. The mark is a character
of its own, so without it they are text just as well. -/
def text? (b : ByteArray) : Option String :=
  String.fromUTF8? (if Bytes.hasAt b 0 byteOrderMark then b.extract byteOrderMark.length b.size else b)

/-- The set with a file put in, if its bytes are text. -/
def insertBytes (s : FileSet) (path : String) (b : ByteArray) : FileSet :=
  match text? b with
  | some t => s.insert path t
  | none => s

def single (path content : String) : FileSet := empty.insert path content

end FileSet

end PageBundle
