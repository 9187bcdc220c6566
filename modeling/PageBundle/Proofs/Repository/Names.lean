import Mathlib.Data.List.DropRight
import Mathlib.Data.List.Flatten
import PageBundle.Proofs.Repository.Address
import PageBundle.Proofs.Source.Read

/-! What a repository is called, and where its archive is asked for. Owner and name are parts of a path. The owner is no
step "here" or "one up", since a path has none, but the name is cut after the path was read and may become one. So the
archive is asked for below the address that requests start with, and at its own place there unless the name is such a
step. -/

namespace PageBundle

namespace Http

variable (network : Network) (request : Url → Request) (redirects : Nat)

/-- What was sent before stays on record. -/
theorem exists_requests_ask (sent : List Request) (url : Url) :
    ∃ more, (ask network request redirects sent url).requests = sent ++ more := by
  fun_induction ask network request redirects sent url with
  | case1 redirects sent url => exact ⟨[], (List.append_nil sent).symm⟩
  | case2 redirects sent url => exact ⟨[], (List.append_nil sent).symm⟩
  | case3 redirects sent url => exact ⟨_, rfl⟩
  | case4 redirects sent url => exact ⟨_, rfl⟩
  | case5 sent url => exact ⟨_, rfl⟩
  | case6 sent url _ _ _ _ _ next _ redirects ih =>
    obtain ⟨more, hmore⟩ := ih
    exact ⟨request url :: more, by rw [hmore, List.append_assoc]; rfl⟩

/-- The first request is for the address itself, whatever comes of it. -/
theorem head?_requests_ask {url : Url} (hs : url.scheme = "http".toList ∨ url.scheme = "https".toList) :
    (ask network request redirects [] url).requests.head? = (network [] (request url)).map fun _ => request url := by
  have hweb : ¬ (url.scheme ≠ "http".toList ∧ url.scheme ≠ "https".toList) := fun h => hs.elim h.1 h.2
  rw [ask, if_neg hweb]
  cases hreply : network [] (request url) with
  | none => rfl
  | some reply =>
    dsimp only
    split
    · rfl
    · split
      · rfl
      · rename_i next _
        cases redirects with
        | zero => rfl
        | succ redirects =>
          obtain ⟨more, hmore⟩ := exists_requests_ask network request redirects ([] ++ [request url]) next
          dsimp only
          rw [hmore]
          rfl

end Http

namespace Repository

open Text Url

variable {input : String} {r : Repository} {hosting : Hosting} {s owner name : List Char} {segments : List (List Char)}
  {b u : Url}

/-! ## Names -/

/-- A text that can be a part of a path. -/
structure IsPart (s : List Char) : Prop where
  ne_nil : s ≠ []
  slash : '/' ∉ s
  query : '?' ∉ s
  fragment : '#' ∉ s

theorem isPart_of_subset (hs : IsSegment s) (hn : name ⊆ s) (hne : name ≠ []) : IsPart name := by
  have hencoded : ∀ c ∈ name, encodedInPath c = false := fun c hc => hs.encoded c (hn hc)
  exact ⟨hne, fun hm => hs.slash (hn hm), notMem_of_encoded hencoded (by decide), notMem_of_encoded hencoded (by decide)⟩

theorem withoutGitEnding_eq (s : List Char) : withoutGitEnding s = s ∨ withoutGitEnding s ++ ".git".toList = s := by
  unfold withoutGitEnding
  split
  · rename_i h
    obtain ⟨front, rfl⟩ := List.isSuffixOf_iff_suffix.1 h
    have hlength : (front ++ ".git".toList).length - 4 = front.length := by simp
    rw [hlength, List.take_left]
    exact .inr rfl
  · exact .inl rfl

theorem withoutGitEnding_subset (s : List Char) : withoutGitEnding s ⊆ s := by
  rcases withoutGitEnding_eq s with h | h
  · rw [h]
    exact List.Subset.refl s
  · conv_rhs => rw [← h]
    exact List.subset_append_left _ _

theorem exists_of_ofSegments? (h : ofSegments? segments = some r) : ∃ s ∈ segments,
    r.owner.toList ∈ segments ∧ r.owner.toList ≠ [] ∧ r.name.toList = withoutGitEnding s ∧ r.name.toList ≠ [] := by
  unfold ofSegments? at h
  split at h
  · rename_i owner s more hsegments
    dsimp only at h
    split at h
    · cases h
    · rename_i hname
      cases h
      have hkept : ∀ x ∈ owner :: s :: more, x ∈ segments ∧ x ≠ [] := by
        intro x hx
        rw [← hsegments, List.mem_filter] at hx
        exact ⟨hx.1, by simpa using hx.2⟩
      have howner := hkept owner List.mem_cons_self
      have hs := hkept s (List.mem_cons_of_mem owner List.mem_cons_self)
      simp only [String.toList_ofList]
      exact ⟨s, hs.1, howner.1, howner.2, rfl, mt List.isEmpty_iff.2 hname⟩
  · cases h

/-- A repository is named by the path of an address of the web. -/
theorem exists_of_parse (h : parse input = .ok r) : ∃ u, Url.parse (trim input.toList) = .ok u ∧
    SchemeKind.ofScheme u.scheme = .web ∧ ofSegments? u.segments = some r := by
  unfold parse ofAddress at h
  split at h
  · cases h
  · rename_i u hu
    split at h
    · cases h
    · rename_i hs
      split at h
      · cases h
      · split at h
        · rename_i hr
          cases h
          exact ⟨u, hu, ofScheme_eq_web (or_iff_not_and_not.2 hs), hr⟩
        · cases h

/-- Owner and name come from segments of one path, the owner as it stands there. -/
theorem exists_segment_of_parse (h : parse input = .ok r) : ∃ u s, Url.parse (trim input.toList) = .ok u ∧
    s ∈ u.segments ∧ IsSegment s ∧ r.name.toList = withoutGitEnding s ∧ r.name.toList ≠ [] ∧
      IsSegment r.owner.toList ∧ r.owner.toList ≠ [] := by
  obtain ⟨u, hu, hweb, hr⟩ := exists_of_parse h
  obtain ⟨s, hs, ho, hone, hname, hnne⟩ := exists_of_ofSegments? hr
  exact ⟨u, s, hu, hs, isSegment_of_mem_segments hu hweb hs, hname, hnne, isSegment_of_mem_segments hu hweb ho, hone⟩

/-! ## The address of the archive -/

theorem toList_archiveAddress (apiBase : String) (r : Repository) :
    (archiveAddress apiBase r).toList = apiBase.toList.rdropWhile (· == '/') ++
      '/' :: ("repos/".toList ++ r.owner.toList ++ '/' :: r.name.toList ++ "/zipball".toList) := by
  simp [archiveAddress, List.rdropWhile]

theorem splitSegments_archive (ho : IsSegment owner) (hslash : '/' ∉ name) (hback : '\\' ∉ name) :
    splitSegments true ("repos/".toList ++ owner ++ '/' :: name ++ "/zipball".toList) =
      ["repos".toList, owner, name, "zipball".toList] := by
  have happ : "repos/".toList ++ owner ++ '/' :: name ++ "/zipball".toList =
      "repos".toList ++ written [owner, name, "zipball".toList] := by simp [written]
  rw [happ]
  refine splitSegments_append_written (by decide) ?_
  simp only [List.forall_mem_cons]
  exact ⟨⟨ho.slash, ho.backslash⟩, ⟨hslash, hback⟩, by decide, List.forall_mem_nil _⟩

/-- A name that is a step is gone from the path. -/
theorem written_archive (path : List (List Char)) (ho : IsSegment owner) (hn : ∀ c ∈ name, encodedInPath c = false) :
    written (descendAll path ["repos".toList, owner, name, "zipball".toList]).reverse =
      written path.reverse ++ "/repos/".toList ++ owner ++ '/' :: name ++ "/zipball".toList ↔ isDots name = false := by
  have hrepos : IsSegment "repos".toList := ⟨List.all_iff_forall_prop.1 (by decide), by decide, by decide, by decide⟩
  have hzipball : IsSegment "zipball".toList := ⟨List.all_iff_forall_prop.1 (by decide), by decide, by decide, by decide⟩
  have hdown : descendAll path ["repos".toList, owner, name, "zipball".toList] =
      "zipball".toList :: descend (owner :: "repos".toList :: path) name false := by
    simp only [descendAll, descend_of_isSegment hrepos, descend_of_isSegment ho, descend_of_isSegment hzipball]
  rw [hdown]
  cases hdots : isDots name with
  | false =>
    rw [descend_of_isDots_eq_false hdots, encode_eq_self hn]
    simp [written]
  | true =>
    have hless := descend_sublist (owner :: "repos".toList :: path) hdots
    have hle := (hless.reverse.flatMap fun s => '/' :: s).length_le
    refine iff_of_false (fun he => ?_) (by decide)
    have hlength := congrArg List.length he
    simp only [written, List.reverse_cons, List.flatMap_append, List.length_append, List.flatMap_cons, List.flatMap_nil,
      List.length_cons, List.append_nil] at hle hlength
    have hrest : "/repos/".toList.length = "repos".toList.length + 2 ∧
        "/zipball".toList.length = "zipball".toList.length + 1 := by decide
    omega

theorem encoded_archive (ho : ∀ c ∈ owner, encodedInPath c = false) (hn : ∀ c ∈ name, encodedInPath c = false) :
    ∀ c ∈ "repos/".toList ++ owner ++ '/' :: name ++ "/zipball".toList, encodedInPath c = false := by
  simp only [List.forall_mem_append, List.forall_mem_cons]
  exact ⟨⟨⟨List.all_iff_forall_prop.1 (by decide), ho⟩, by decide, hn⟩, List.all_iff_forall_prop.1 (by decide)⟩

/-- What an address is continued with goes on from its directory, whatever slashes stand at its end. -/
theorem exists_root_directory {text : List Char} (hb : Url.parse text = .ok b) (hweb : SchemeKind.ofScheme b.scheme = .web)
    (hplain : '?' ∉ text ∧ '#' ∉ text) (hend : ∀ c, text.getLast? = some c → 32 < c.toNat) :
    ∃ (path : List (List Char)) (n : Nat), b.segments = path.reverse ++ List.replicate n [] ∧ b.query = none ∧
      ∀ y, (∀ c ∈ y, 32 < c.toNat) → '?' ∉ y ∧ '#' ∉ y → Url.parse (text.rdropWhile (· == '/') ++ '/' :: y) =
        .ok { b with segments := (descendAll path (splitSegments true y)).reverse } := by
  have hsplit := List.rdropWhile_append_rtakeWhile (p := (· == '/')) (l := text)
  have hslashes : ∀ c ∈ text.rtakeWhile (· == '/'), c = '/' := by
    intro c hc
    have := List.mem_rtakeWhile_imp hc
    exact beq_iff_eq.1 this
  have hroot := (List.rdropWhile_prefix (· == '/') (l := text)).subset
  exact exists_directory (hsplit.symm ▸ hb) hweb ⟨fun hm => hplain.1 (hroot hm), fun hm => hplain.2 (hroot hm)⟩ hslashes
    (hsplit.symm ▸ hend)

/-- How the address of an archive is read. -/
theorem exists_archiveUrl (ho : IsSegment r.owner.toList) (hs : IsSegment s) (hsub : r.name.toList ⊆ s) {apiBase : String}
    (hb : Url.parse apiBase.toList = .ok b) (hweb : SchemeKind.ofScheme b.scheme = .web)
    (hplain : '?' ∉ apiBase.toList ∧ '#' ∉ apiBase.toList)
    (hend : ∀ c, apiBase.toList.getLast? = some c → 32 < c.toNat) :
    ∃ dir n top url, Url.parse (apiBase.toList.rdropWhile (· == '/') ++ ['/']) = .ok top ∧ top.path = dir ++ ['/'] ∧
      b.path = dir ++ List.replicate n '/' ∧ Url.parse (archiveAddress apiBase r).toList = .ok url ∧
      url.scheme = b.scheme ∧ url.host = b.host ∧ url.port = b.port ∧ url.query = none ∧
      (url.path = dir ++ "/repos/".toList ++ r.owner.toList ++ '/' :: r.name.toList ++ "/zipball".toList ↔
        isDots r.name.toList = false) := by
  obtain ⟨path, n, hsegments, hquery, hbelow⟩ := exists_root_directory hb hweb hplain hend
  have hn : ∀ c ∈ r.name.toList, encodedInPath c = false := fun c hc => hs.encoded c (hsub hc)
  have hplaces := encoded_archive ho.encoded hn
  have htop := hbelow [] (List.forall_mem_nil _) ⟨List.not_mem_nil, List.not_mem_nil⟩
  have haddress := hbelow _ (fun c hc => lt_toNat_of_encodedInPath (hplaces c hc))
    ⟨notMem_of_encoded hplaces (by decide), notMem_of_encoded hplaces (by decide)⟩
  have hsplitnil : splitSegments true [] = [[]] := rfl
  rw [hsplitnil, descendAll, descend_of_isSegment isSegment_nil, List.reverse_cons] at htop
  rw [splitSegments_archive ho (fun hm => hs.slash (hsub hm)) (fun hm => hs.backslash (hsub hm)),
    ← toList_archiveAddress] at haddress
  refine ⟨written path.reverse, n, _, _, htop, ?_, ?_, haddress, rfl, rfl, rfl, hquery, written_archive path ho hn⟩
  · exact written_append_replicate path.reverse 1
  · exact (congrArg written hsegments).trans (written_append_replicate path.reverse n)

/-! ## Requests -/

theorem requests_fetch {address : Url} (h : parse input = .ok r)
    (ha : Url.parse (archiveAddress hosting.apiBase r).toList = .ok address) (network : Http.Network) :
    (fetch network hosting input).requests = (Http.ask network request maxRedirects [] address).requests := by
  rw [fetch, h]
  dsimp only
  rw [download, ha]
  dsimp only
  split <;> rfl

/-- Owner and name are parts of a path, and the owner is no step "here" or "one up". The archive is asked for on the host
that requests start with, below the path there: at the place of the owner and the name, if and only if the name too is no
such step. It is one only where the address has it with the ending. -/
theorem fetch_asks_below (h : parse input = .ok r) (hb : Url.parse hosting.apiBase.toList = .ok b)
    (hweb : b.scheme = "http".toList ∨ b.scheme = "https".toList)
    (hplain : '?' ∉ hosting.apiBase.toList ∧ '#' ∉ hosting.apiBase.toList)
    (hend : ∀ c, hosting.apiBase.toList.getLast? = some c → 32 < c.toNat) :
    IsPart r.owner.toList ∧ IsPart r.name.toList ∧ isDots r.owner.toList = false ∧
      (isDots r.name.toList = true →
        ∃ u, Url.parse (trim input.toList) = .ok u ∧ r.name.toList ++ ".git".toList ∈ u.segments) ∧
      ∃ dir n top url, Url.parse (hosting.apiBase.toList.rdropWhile (· == '/') ++ ['/']) = .ok top ∧
        top.path = dir ++ ['/'] ∧ b.path = dir ++ List.replicate n '/' ∧
        url.scheme = b.scheme ∧ url.host = b.host ∧ url.port = b.port ∧ url.query = none ∧
        (∀ network, (fetch network hosting input).requests.head? =
          (network [] (request url)).map fun _ => request url) ∧
        (url.path = dir ++ "/repos/".toList ++ r.owner.toList ++ '/' :: r.name.toList ++ "/zipball".toList ↔
          isDots r.name.toList = false) := by
  obtain ⟨u, s, hu, hsmem, hs, hname, hnne, ho, hone⟩ := exists_segment_of_parse h
  have hsub : r.name.toList ⊆ s := hname ▸ withoutGitEnding_subset s
  obtain ⟨dir, n, top, url, htop, hdir, hbase, haddress, hscheme, hhost, hport, hquery, hpath⟩ :=
    exists_archiveUrl ho hs hsub hb (ofScheme_eq_web hweb) hplain hend
  refine ⟨isPart_of_subset ho (List.Subset.refl _) hone, isPart_of_subset hs hsub hnne, ho.dots, ?_,
    dir, n, top, url, htop, hdir, hbase, hscheme, hhost, hport, hquery, ?_, hpath⟩
  · intro hdots
    rw [hname] at hdots ⊢
    rcases withoutGitEnding_eq s with he | he
    · rw [he, hs.dots] at hdots
      cases hdots
    · exact ⟨u, hu, he.symm ▸ hsmem⟩
  · intro network
    rw [requests_fetch h haddress]
    exact Http.head?_requests_ask network request maxRedirects (hscheme ▸ hweb)

/-- Reads an address of the service that is written in ASCII. -/
theorem parse_written {text : String} {x : List Char}
    (ht : trim text.toList = "https".toList ++ "://".toList ++ "github.com".toList ++ '/' :: x)
    (hx : x.all (32 < ·.toNat) = true) (hr : ofSegments? (rootedPath true ('/' :: x)) = some r) : parse text = .ok r := by
  have hmem : lower "github.com".toList ∈ hosts.map String.toList := by decide
  have hscheme : "https".toList = "http".toList ∨ "https".toList = "https".toList := .inr rfl
  have hu := parse_hosted hscheme hmem (List.all_iff_forall_prop.1 hx)
  exact parse_eq_ok ((congrArg Url.parse ht).trans hu) hscheme (isHosted_of_mem hmem _ _ _ _) hr

/-- A service that is not at the root of its host. -/
def mirror : Hosting where
  apiBase := "http://api.test/v3//"

theorem parse_below_mirror {text : String} {x : List Char}
    (ht : text.toList = "http".toList ++ "://".toList ++ "api.test".toList ++ '/' :: x) (hx : x.all (32 < ·.toNat) = true) :
    Url.parse text.toList =
      .ok ⟨"http".toList, some (.domain "api.test".toList), none, rootedPath true ('/' :: x), queryOf true ('/' :: x)⟩ := by
  have hplain : IsPlainName "api.test".toList := isPlainName_of_all (by decide) (by decide) (by decide) (by decide) (by decide)
  have hscheme : "http".toList = "http".toList ∨ "http".toList = "https".toList := .inl rfl
  have hlower : lower "api.test".toList = "api.test".toList := by decide
  rw [ht, parse_web hscheme hplain (List.all_iff_forall_prop.1 hx), hlower]

/-- Three dots are a name like any other. -/
theorem fetch_asks_below_threeDots : parse "https://github.com/octo/....git" = .ok ⟨"octo", "..."⟩ ∧
    ∃ url : Url, url.path = "/v3/repos/octo/.../zipball".toList ∧ url.query = none ∧ ∀ network,
      (fetch network mirror "https://github.com/octo/....git").requests.head? =
        (network [] (request url)).map fun _ => request url := by
  have hparse : parse "https://github.com/octo/....git" = .ok ⟨"octo", "..."⟩ :=
    parse_written (x := "octo/....git".toList) (by decide +kernel) (by decide) (by decide +kernel)
  have hb : Url.parse mirror.apiBase.toList = _ := parse_below_mirror (x := "v3//".toList) (by decide) (by decide)
  obtain ⟨-, -, -, -, dir, n, top, url, htop, hdir, -, -, -, -, hquery, hrequests, hpath⟩ :=
    fetch_asks_below hparse hb (.inl rfl) (by decide) (by rintro c ⟨⟩; decide)
  have htop' : Url.parse "http://api.test/v3/".toList = _ :=
    parse_below_mirror (x := "v3/".toList) (by decide) (by decide)
  cases htop.symm.trans htop'
  have hsegments : rootedPath true "/v3/".toList = ["v3".toList, []] := by decide +kernel
  have hdirectory : dir = "/v3".toList := by
    refine List.append_cancel_right (hdir.symm.trans ?_)
    exact (congrArg written hsegments).trans (by decide)
  refine ⟨hparse, url, ?_, hquery, hrequests⟩
  rw [hpath.2 (by decide), hdirectory]
  decide

/-- Two dots take the owner away. -/
theorem fetch_asks_above : parse "https://github.com/octo/...git" = .ok ⟨"octo", ".."⟩ ∧
    (fetch (fun _ _ => some ⟨404, none, none, .empty⟩) mirror "https://github.com/octo/...git").requests.map (·.url.path) =
      ["/v3/repos/zipball".toList] := by
  have hparse : parse "https://github.com/octo/...git" = .ok ⟨"octo", ".."⟩ :=
    parse_written (x := "octo/...git".toList) (by decide +kernel) (by decide) (by decide +kernel)
  have haddress : Url.parse (archiveAddress mirror.apiBase ⟨"octo", ".."⟩).toList = _ :=
    parse_below_mirror (x := "v3/repos/octo/../zipball".toList) (by decide +kernel) (by decide)
  refine ⟨hparse, ?_⟩
  rw [requests_fetch hparse haddress]
  decide +kernel

end Repository

end PageBundle
