import PageBundle.Proofs.Url.Parse
import PageBundle.Repository.Basic

/-! Addresses of repositories as people write them: with the ending for cloning or without it, with more of the path, a
query or a fragment after that, and with the host in any case of its letters. Each is one of the service, and it gives
back the repository that it was written for. -/

namespace PageBundle

open Text Url

/-! ## Characters -/

/-- Characters of names that stand for themselves in an address. -/
def isNameChar (c : Char) : Bool := c.isAlphanum || c == '-' || c == '_'

/-- Whether a character is one of ASCII that can be seen. -/
def isVisible (c : Char) : Bool := 32 < c.toNat && c.toNat < 127

variable {c : Char} {s t x scheme host : List Char} {text : String} {u : Url} {r : Repository}

theorem lt_toNat_of_isVisible (h : isVisible c = true) : 32 < c.toNat := by
  rw [isVisible, Bool.and_eq_true, decide_eq_true_eq] at h
  exact h.1

theorem isBlank_of_isVisible (h : isVisible c = true) : isBlank c = false := by
  simp only [isVisible, Bool.and_eq_true, decide_eq_true_eq] at h
  rw [Bool.eq_false_iff, Ne]
  simp only [isBlank, Bool.or_eq_true, Bool.and_eq_true, decide_eq_true_eq, beq_iff_eq]
  omega

theorem toNat_lt_of_isNameChar (h : isNameChar c = true) : c.toNat < 128 := by
  have hupto : ∀ d : Char, d.toNat < 128 → c.val ≤ d.val → c.toNat < 128 :=
    fun d hd hle => Nat.lt_of_le_of_lt (UInt32.le_iff_toNat_le.1 hle) hd
  have hupper : c.isUpper = true → c.toNat < 128 := fun h => hupto 'Z' (by decide) (of_decide_eq_true h).2
  have hlower : c.isLower = true → c.toNat < 128 :=
    fun h => hupto 'z' (by decide) (of_decide_eq_true (Bool.and_eq_true_iff.1 h).2)
  have hdigit : c.isDigit = true → c.toNat < 128 :=
    fun h => hupto '9' (by decide) (of_decide_eq_true (Bool.and_eq_true_iff.1 h).2)
  rw [isNameChar, Bool.or_eq_true, Bool.or_eq_true, beq_iff_eq, beq_iff_eq] at h
  rcases h with (h | rfl) | rfl
  · exact (Bool.or_eq_true_iff.1 h).elim (fun h => (Bool.or_eq_true_iff.1 h).elim hupper hlower) hdigit
  · decide
  · decide

theorem of_isNameChar (h : isNameChar c = true) :
    isVisible c = true ∧ encodedInPath c = false ∧ c ≠ '/' ∧ c ≠ '\\' ∧ c ≠ '.' ∧ c ≠ '%' := by
  have hall : ∀ n < 128, isNameChar (Char.ofNat n) = true → isVisible (Char.ofNat n) = true ∧
      encodedInPath (Char.ofNat n) = false ∧ Char.ofNat n ≠ '/' ∧ Char.ofNat n ≠ '\\' ∧ Char.ofNat n ≠ '.' ∧
        Char.ofNat n ≠ '%' := by decide
  have := hall c.toNat (toNat_lt_of_isNameChar h)
  rw [Char.ofNat_toNat] at this
  exact this h

/-! ## Segments -/

/-- A segment of characters of names and dots, of which none comes first. -/
structure IsNamed (s : List Char) : Prop where
  chars : ∀ c ∈ s, isNameChar c = true ∨ c = '.'
  head : ∀ c, s.head? = some c → isNameChar c = true

theorem isNamed_of_chars (h : ∀ c ∈ s, isNameChar c = true) : IsNamed s :=
  ⟨fun c hc => .inl (h c hc), fun c hc => h c (List.mem_of_mem_head? hc)⟩

namespace IsNamed

theorem isDots_eq_false (h : IsNamed s) : isDots s = false := by
  have hnone : dropDot? s = none := by
    rw [Option.eq_none_iff_forall_ne_some]
    intro t ht
    rcases dropDot?_eq_some_iff.1 ht with rfl | rfl | rfl
    · exact (of_isNameChar (h.head '.' rfl)).2.2.2.2.1 rfl
    · exact (of_isNameChar (h.head '%' rfl)).2.2.2.2.2 rfl
    · exact (of_isNameChar (h.head '%' rfl)).2.2.2.2.2 rfl
  rw [isDots, isDot, isDoubleDot, hnone]
  rfl

theorem isSegment (h : IsNamed s) : IsSegment s where
  encoded c hc := by
    rcases h.chars c hc with hc | rfl
    · exact (of_isNameChar hc).2.1
    · decide
  slash hc := by
    rcases h.chars _ hc with hc | he
    · exact (of_isNameChar hc).2.2.1 rfl
    · exact absurd he (by decide)
  backslash hc := by
    rcases h.chars _ hc with hc | he
    · exact (of_isNameChar hc).2.2.2.1 rfl
    · exact absurd he (by decide)
  dots := h.isDots_eq_false

theorem isVisible (h : IsNamed s) (hc : c ∈ s) : isVisible c = true := by
  rcases h.chars c hc with hc | rfl
  · exact (of_isNameChar hc).1
  · decide

end IsNamed

namespace Repository

theorem withoutGitEnding_append (s : List Char) : withoutGitEnding (s ++ ".git".toList) = s := by
  have hlength : (s ++ ".git".toList).length - 4 = s.length := by simp
  rw [withoutGitEnding, if_pos (List.isSuffixOf_iff_suffix.2 (List.suffix_append s _)), hlength, List.take_left]

theorem withoutGitEnding_eq_self (h : '.' ∉ s) : withoutGitEnding s = s := by
  refine if_neg fun hs => h ?_
  exact (List.isSuffixOf_iff_suffix.1 hs).subset (by decide)

theorem isPlainName_of_hosted (h : lower host ∈ hosts.map String.toList) : IsPlainName host := by
  have hplain : ∀ name ∈ hosts, IsPlainName name.toList ∧ lower name.toList = name.toList := by
    simp only [hosts, List.forall_mem_cons]
    exact ⟨⟨isPlainName_of_all (by decide) (by decide) (by decide) (by decide) (by decide), by decide⟩,
      ⟨isPlainName_of_all (by decide) (by decide) (by decide) (by decide) (by decide), by decide⟩, List.forall_mem_nil _⟩
  obtain ⟨name, hname, he⟩ := List.mem_map.1 h
  obtain ⟨hplain, hlower⟩ := hplain name hname
  exact hplain.of_lower (he.symm.trans hlower.symm)

theorem isHosted_of_mem (h : lower host ∈ hosts.map String.toList) (scheme : List Char) (port : Option Nat)
    (segments : List (List Char)) (query : Option (List Char)) :
    isHosted ⟨scheme, some (.domain (lower host)), port, segments, query⟩ = true := by
  obtain ⟨name, hname, he⟩ := List.mem_map.1 h
  exact List.any_eq_true.2 ⟨name, hname, beq_iff_eq.2 he⟩

/-- How an address of the service is read, whatever stands behind its host. -/
theorem parse_hosted (hs : scheme = "http".toList ∨ scheme = "https".toList) (hh : lower host ∈ hosts.map String.toList)
    (hx : ∀ c ∈ x, 32 < c.toNat) : Url.parse (scheme ++ "://".toList ++ host ++ '/' :: x) =
      .ok ⟨scheme, some (.domain (lower host)), none, rootedPath true ('/' :: x), queryOf true ('/' :: x)⟩ :=
  parse_web hs (isPlainName_of_hosted hh) hx

theorem parse_eq_ok (hu : Url.parse (trim text.toList) = .ok u) (hs : u.scheme = "http".toList ∨ u.scheme = "https".toList)
    (hh : isHosted u = true) (hr : ofSegments? u.segments = some r) : parse text = .ok r := by
  have hweb : ¬ (u.scheme ≠ "http".toList ∧ u.scheme ≠ "https".toList) := fun h => hs.elim h.1 h.2
  rw [parse, ofAddress, hu]
  dsimp only
  rw [if_neg hweb, hh, hr]
  rfl

/-- The parts of an address of a repository, in the order in which they are written. -/
structure Address where
  scheme : String
  host : String
  repository : Repository
  /-- Whether the name has the ending of addresses for cloning. -/
  cloned : Bool
  /-- Parts of the path behind the name. An empty one at the end is a slash there. -/
  more : List String
  /-- A query or a fragment. -/
  tail : String
  scheme_eq : scheme = "http" ∨ scheme = "https"
  host_mem : lower host.toList ∈ hosts.map String.toList
  owner_ne : repository.owner ≠ ""
  owner_chars : ∀ c ∈ repository.owner.toList, isNameChar c = true
  name_ne : repository.name ≠ ""
  name_chars : ∀ c ∈ repository.name.toList, isNameChar c = true
  more_chars : ∀ s ∈ more, ∀ c ∈ s.toList, isNameChar c = true
  tail_head : ∀ c, tail.toList.head? = some c → c = '?' ∨ c = '#'
  tail_chars : ∀ c ∈ tail.toList, isVisible c = true

namespace Address

variable (a : Address)

def ending : String := if a.cloned then ".git" else ""

def write : String :=
  a.scheme ++ "://" ++ a.host ++ "/" ++ a.repository.owner ++ "/" ++ a.repository.name ++ a.ending ++
    String.join (a.more.map ("/" ++ ·)) ++ a.tail

def segments : List (List Char) :=
  a.repository.owner.toList :: (a.repository.name ++ a.ending).toList :: a.more.map String.toList

theorem toList_write :
    a.write.toList = a.scheme.toList ++ "://".toList ++ a.host.toList ++ (written a.segments ++ a.tail.toList) := by
  simp [write, segments, written, String.toList_join, List.flatMap_map]

theorem ending_eq : a.ending = "" ∨ a.ending = ".git" := by
  rw [ending]
  cases a.cloned
  · exact .inl rfl
  · exact .inr rfl

theorem isNamed_of_mem (hs : s ∈ a.segments) : IsNamed s := by
  rcases List.mem_cons.1 hs with rfl | hs
  · exact isNamed_of_chars a.owner_chars
  rcases List.mem_cons.1 hs with rfl | hs
  · have hne : a.repository.name.toList ≠ [] := by simpa using a.name_ne
    rw [String.toList_append]
    refine ⟨?_, fun c hc => ?_⟩
    · rw [List.forall_mem_append]
      refine ⟨fun c hc => .inl (a.name_chars c hc), ?_⟩
      rcases a.ending_eq with he | he <;> rw [he] <;> exact List.all_iff_forall_prop.1 (by decide)
    · rw [List.head?_append_of_ne_nil _ hne] at hc
      exact a.name_chars c (List.mem_of_mem_head? hc)
  · obtain ⟨x, hx, rfl⟩ := List.mem_map.1 hs
    exact isNamed_of_chars (a.more_chars x hx)

theorem isVisible_of_mem_written (hc : c ∈ written a.segments) : isVisible c = true := by
  obtain ⟨s, hs, hc⟩ := List.mem_flatMap.1 hc
  rcases List.mem_cons.1 hc with rfl | hc
  · decide
  · exact (a.isNamed_of_mem hs).isVisible hc

/-- The segments that are written name the repository. -/
theorem ofSegments?_segments : ofSegments? a.segments = some a.repository := by
  have howner : a.repository.owner.toList ≠ [] := by simpa using a.owner_ne
  have hname : a.repository.name.toList ≠ [] := by simpa using a.name_ne
  have hcut : withoutGitEnding (a.repository.name ++ a.ending).toList = a.repository.name.toList := by
    rcases a.ending_eq with he | he
    · have hdot : '.' ∉ a.repository.name.toList := fun hm => (of_isNameChar (a.name_chars '.' hm)).2.2.2.2.1 rfl
      rw [he, String.append_empty, withoutGitEnding_eq_self hdot]
    · rw [he, String.toList_append, withoutGitEnding_append]
  rw [ofSegments?, segments, List.filter_cons_of_pos (by simpa using howner), List.filter_cons_of_pos (by simp [hname])]
  dsimp only
  rw [hcut, if_neg (by simpa using hname), String.ofList_toList, String.ofList_toList]

/-- An address is read as one of the service, and as the repository that it was written for. -/
theorem parse_write : parse a.write = .ok a.repository ∧ isAddress a.write = true := by
  have hscheme : a.scheme.toList = "http".toList ∨ a.scheme.toList = "https".toList := by
    rw [String.toList_inj, String.toList_inj]
    exact a.scheme_eq
  have hrest : ∀ c ∈ written a.segments ++ a.tail.toList, isVisible c = true :=
    List.forall_mem_append.2 ⟨fun c hc => a.isVisible_of_mem_written hc, a.tail_chars⟩
  have hpath : rootedPath true (written a.segments ++ a.tail.toList) = a.segments :=
    rootedPath_written (List.cons_ne_nil _ _) (fun s hs => (a.isNamed_of_mem hs).isSegment) a.tail_head
  obtain ⟨x, hx⟩ : ∃ x, written a.segments ++ a.tail.toList = '/' :: x := ⟨_, rfl⟩
  rw [hx] at hrest hpath
  have hurl := parse_hosted hscheme a.host_mem fun c hc => lt_toNat_of_isVisible (hrest c (List.mem_cons_of_mem _ hc))
  rw [hpath, ← hx, ← toList_write] at hurl
  have hhosted := isHosted_of_mem a.host_mem
  have hhead : a.write.toList.head? = some 'h' := by
    rcases a.scheme_eq with h | h <;> rw [toList_write, h] <;> rfl
  have htrim : trim a.write.toList = a.write.toList := by
    refine trim_eq_self (fun c hc => ?_) fun c hc => isBlank_of_isVisible (hrest c ?_)
    · rw [hhead] at hc
      cases hc
      decide
    · rw [toList_write, List.getLast?_append_of_ne_nil _ (by simp [hx]), hx] at hc
      exact List.mem_of_getLast? hc
  refine ⟨parse_eq_ok ((congrArg Url.parse htrim).trans hurl) hscheme (hhosted _ _ _ _) a.ofSegments?_segments, ?_⟩
  rw [isAddress, hurl]
  exact hhosted _ _ _ _

/-- An address for cloning on a host in mixed letters, with more of the path, a slash at its end, and a query that has
another address in it. -/
def mixed : Address where
  scheme := "http"
  host := "WWW.GitHub.com"
  repository := ⟨"0-Octo", "git_"⟩
  cloned := true
  more := ["tree", "", ""]
  tail := "?from=https://github.com/a/b.git#/c"
  scheme_eq := .inl rfl
  host_mem := by decide
  owner_ne := by decide
  owner_chars := List.all_iff_forall_prop.1 (by decide)
  name_ne := by decide
  name_chars := List.all_iff_forall_prop.1 (by decide)
  more_chars := by
    simp only [List.forall_mem_cons]
    exact ⟨List.all_iff_forall_prop.1 (by decide), nofun, nofun, nofun⟩
  tail_head := by
    rintro c hc
    cases hc
    exact .inl rfl
  tail_chars := List.all_iff_forall_prop.1 (by decide)

theorem parse_write_mixed :
    parse "http://WWW.GitHub.com/0-Octo/git_.git/tree//?from=https://github.com/a/b.git#/c" = .ok ⟨"0-Octo", "git_"⟩ ∧
      isAddress "http://WWW.GitHub.com/0-Octo/git_.git/tree//?from=https://github.com/a/b.git#/c" = true :=
  mixed.parse_write

end Address

end Repository

end PageBundle
