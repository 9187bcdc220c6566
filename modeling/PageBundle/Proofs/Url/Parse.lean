import Mathlib.Data.Bool.AllAny
import Mathlib.Data.List.TakeWhile
import PageBundle.Proofs.Text.Trim
import PageBundle.Proofs.Url.Domain

/-! Reading addresses of the web. What comes before the path is read without a look at it, and a path is read from left
to right. So an address with a slash at its end can be continued: what follows the slash goes on from the directory
that the address names, on the same host. -/

namespace PageBundle.Url

open Text

variable {c : Char} {s t x scheme rest : List Char} {p : Char → Bool} {u : Url}

/-! ## What is passed over -/

/-- An address as it is read if nothing is to be taken off its end. -/
def lead (s : List Char) : List Char :=
  (s.dropWhile fun c => decide (c.toNat ≤ 32)).filter fun c => c ≠ '\t' && c ≠ '\n' && c ≠ '\r'

theorem mem_of_mem_lead (h : c ∈ lead s) : c ∈ s := (List.dropWhile_suffix _).subset (List.mem_of_mem_filter h)

theorem cleaned_eq_lead (h : ∀ c, s.getLast? = some c → 32 < c.toNat) : cleaned s = lead s := by
  have hlast : ∀ c, (s.dropWhile fun c => decide (c.toNat ≤ 32)).reverse.head? = some c →
      decide (c.toNat ≤ 32) = false := by
    intro c hc
    rw [List.head?_reverse] at hc
    obtain ⟨front, hs⟩ := List.dropWhile_suffix (l := s) fun c => decide (c.toNat ≤ 32)
    refine decide_eq_false (Nat.not_le.2 (h c ?_))
    rw [← hs, List.getLast?_append, hc]
    rfl
  rw [cleaned, dropWhile_eq_self hlast, List.reverse_reverse]
  rfl

theorem lead_append (hx : ∀ c ∈ x, 32 < c.toNat) : lead (t ++ x) = lead t ++ x := by
  have hskip : ∀ c, x.head? = some c → decide (c.toNat ≤ 32) = false :=
    fun c hc => decide_eq_false (Nat.not_le.2 (hx c (List.mem_of_mem_head? hc)))
  have hkeep : x.filter (fun c => c ≠ '\t' && c ≠ '\n' && c ≠ '\r') = x := by
    refine List.filter_eq_self.2 fun c hc => ?_
    have hne : ∀ d : Char, d.toNat ≤ 32 → c ≠ d := by
      rintro d hd rfl
      exact absurd (hx c hc) (Nat.not_lt.2 hd)
    simp [hne '\t' (by decide), hne '\n' (by decide), hne '\r' (by decide)]
  rw [lead, List.dropWhile_append]
  split
  · rename_i hnil
    rw [lead, List.isEmpty_iff.1 hnil, dropWhile_eq_self hskip, hkeep]
    rfl
  · rw [List.filter_append, hkeep, lead]

theorem cleaned_append (hx : ∀ c ∈ x, 32 < c.toNat) (hne : x ≠ []) : cleaned (t ++ x) = lead t ++ x := by
  rw [cleaned_eq_lead, lead_append hx]
  intro c hc
  rw [List.getLast?_append_of_ne_nil _ hne] at hc
  exact hx c (List.mem_of_getLast? hc)

/-! ## Schemes -/

/-- What follows a slash does not matter to what ends before one. -/
theorem takeWhile_append_of_head? (hx : ∀ c, x.head? = some c → p c = false) :
    (s ++ x).takeWhile p = s.takeWhile p := by
  induction s with
  | nil => exact takeWhile_append_eq (List.forall_mem_nil _) hx
  | cons d s ih => rw [List.cons_append, List.takeWhile_cons, List.takeWhile_cons, ih]

theorem dropWhile_append_of_head? (hx : ∀ c, x.head? = some c → p c = false) :
    (s ++ x).dropWhile p = s.dropWhile p ++ x := by
  induction s with
  | nil => exact dropWhile_eq_self hx
  | cons d s ih =>
    rw [List.cons_append, List.dropWhile_cons, List.dropWhile_cons, ih]
    split <;> rfl

theorem mem_of_scheme? (h : scheme? s = some (scheme, rest)) (hc : c ∈ rest) : c ∈ s := by
  unfold scheme? at h
  split at h
  · rename_i r hr
    split at h
    · cases h
      exact (List.dropWhile_suffix isSchemeChar).subset (hr ▸ List.mem_cons_of_mem ':' hc)
    · cases h
  · cases h

theorem scheme?_append (hx : ∀ c, x.head? = some c → c = '/') :
    scheme? (s ++ x) = (scheme? s).map fun r => (r.1, r.2 ++ x) := by
  have hslash : ∀ c, x.head? = some c → isSchemeChar c = false := by
    intro c hc
    rw [hx c hc]
    decide
  rw [scheme?, scheme?, dropWhile_append_of_head? hslash, takeWhile_append_of_head? hslash]
  cases hs : s.dropWhile isSchemeChar with
  | nil =>
    rw [List.nil_append]
    split
    · exact absurd (hx ':' rfl) (by decide)
    · rfl
  | cons c r =>
    have hhead : (s ++ x).head? = s.head? := by
      cases s with
      | nil => cases hs
      | cons d s => rfl
    rw [hhead]
    by_cases hc : c = ':'
    · subst hc
      change (if s.head?.any Char.isAlpha then some (_, r ++ x) else none) =
        (if s.head?.any Char.isAlpha then some (_, r) else none).map _
      split <;> rfl
    · simp [hc]

/-! ## Hosts -/

/-- Whether a character may stand between the slashes in front of a host and the path behind it. -/
def inAuthority (c : Char) : Bool := !endsAuthority true c

theorem snd_splitUser_subset (s : List Char) : (splitUser s).2 ⊆ s := by
  intro c hc
  have := (List.takeWhile_prefix _).subset (List.mem_reverse.1 hc)
  exact List.mem_reverse.1 this

theorem snd_splitPort_subset {inside : Bool} {seen : List Char} (h : (splitPort inside seen s).2 = some x) : x ⊆ s := by
  fun_induction splitPort inside seen s with
  | case1 => cases h
  | case2 seen inside c s hc =>
    cases h
    exact List.subset_cons_self c x
  | case3 seen inside c s hc ih => exact List.subset_cons_of_subset c (ih h)

theorem authority_web (scheme s : List Char) (atEnd : Bool) :
    authority .web scheme s atEnd =
      if (splitPort false [] (splitUser s).2).1.isEmpty then .error .emptyHost
      else
        (Host.ofSpecial (splitPort false [] (splitUser s).2).1).bind fun host =>
          match (splitPort false [] (splitUser s).2).2 with
          | none => .ok (some host, none, [])
          | some p => (port? scheme (p.takeWhile (· ≠ '\\'))).map fun n => (some host, n, p.dropWhile (· ≠ '\\')) := by
  rw [authority]
  simp only [beq_self_eq_true, Bool.true_or, Bool.and_true]
  split
  · rfl
  · cases Host.ofSpecial (splitPort false [] (splitUser s).2).1 with
    | error why => rfl
    | ok host =>
      cases (splitPort false [] (splitUser s).2).2 with
      | none => rfl
      | some p => cases port? scheme (p.takeWhile (· ≠ '\\')) <;> rfl

/-- The end of an address does not matter to a host of the web, which may not be missing. -/
theorem authority_web_congr (scheme s : List Char) (atEnd : Bool) :
    authority .web scheme s atEnd = authority .web scheme s false := by
  rw [authority_web, authority_web]

theorem subset_of_authority {host : Option Host} {port : Option Nat} {atEnd : Bool}
    (h : authority .web scheme s atEnd = .ok (host, port, rest)) : rest ⊆ s := by
  rw [authority_web] at h
  split at h
  · cases h
  · cases hh : Host.ofSpecial (splitPort false [] (splitUser s).2).1 with
    | error why =>
      rw [hh] at h
      cases h
    | ok host =>
      rw [hh, Except.bind] at h
      split at h
      · cases h
        exact List.nil_subset s
      · rename_i p hp
        cases hn : port? scheme (p.takeWhile (· ≠ '\\')) with
        | error why =>
          rw [hn] at h
          cases h
        | ok n =>
          rw [hn] at h
          cases h
          exact fun c hc => snd_splitUser_subset s (snd_splitPort_subset hp ((List.dropWhile_suffix _).subset hc))

theorem splitPort_eq_self (h : ':' ∉ s) (inside : Bool) (seen : List Char) :
    splitPort inside seen s = (seen.reverse ++ s, none) := by
  induction s generalizing inside seen with
  | nil => simp [splitPort]
  | cons c s ih =>
    rw [List.mem_cons, not_or] at h
    rw [splitPort, if_neg fun hc => h.1 hc.1.symm, ih h.2]
    simp

/-- A host without a user and a port. -/
theorem authority_of_isPlainName (h : IsPlainName s) (scheme : List Char) (atEnd : Bool) :
    authority .web scheme s atEnd = .ok (some (.domain (lower s)), none, []) := by
  have huser : (splitUser s).2 = s := by
    have hall : ∀ c ∈ s.reverse, decide (c ≠ '@') = true := by
      intro c hc
      refine decide_eq_true ?_
      rintro rfl
      exact h.ne (by decide) (List.mem_reverse.1 hc)
    rw [splitUser, List.takeWhile_eq_self_iff.2 hall, List.reverse_reverse]
  rw [authority_web, huser, splitPort_eq_self (h.ne (by decide)), List.reverse_nil, List.nil_append,
    List.isEmpty_eq_false_iff.2 h.ne_nil, ofSpecial_eq_ok h]
  rfl

/-! ## Addresses of the web -/

/-- The address on a host that was read, with the path and the query in the rest of the text. -/
def ofAuthority (scheme rest : List Char) (x : Option Host × Option Nat × List Char) : Url :=
  ⟨scheme, x.1, x.2.1, rootedPath true (x.2.2 ++ rest), queryOf true (x.2.2 ++ rest)⟩

theorem afterSlashes_web (hk : SchemeKind.ofScheme scheme = .web) (s : List Char) :
    afterSlashes scheme s = (authority .web scheme (s.takeWhile inAuthority) false).map
      (ofAuthority scheme (s.dropWhile inAuthority)) := by
  rw [afterSlashes, hk]
  change (authority .web scheme (s.takeWhile inAuthority) (s.dropWhile inAuthority).isEmpty).bind _ = _
  rw [authority_web_congr]
  cases authority .web scheme (s.takeWhile inAuthority) false <;> rfl

/-- The scheme is that of the address that was read. -/
theorem scheme_of_afterScheme (h : afterScheme scheme s = .ok u) : u.scheme = scheme := by
  have hslashes : ∀ s, afterSlashes scheme s = .ok u → u.scheme = scheme := by
    intro s h
    unfold afterSlashes at h
    dsimp only at h
    split at h
    · split at h
      · cases h
        rfl
      · generalize fileHost _ = host at h
        cases host <;> cases h
        rfl
    · generalize authority _ _ _ _ = a at h
      cases a <;> cases h
      rfl
  unfold afterScheme at h
  split at h
  · exact hslashes _ h
  · split at h
    · split at h
      · exact hslashes _ h
      · cases h
        rfl
    · cases h
      rfl
  · split at h
    · exact hslashes _ h
    · cases h
      rfl

theorem afterScheme_web (hk : SchemeKind.ofScheme scheme = .web) (s : List Char) :
    afterScheme scheme s = afterSlashes scheme (s.dropWhile isSlash) := by
  unfold afterScheme
  rw [hk]

/-- An address of the web is read from its host on, whatever slashes stand before that. -/
theorem exists_of_parse (h : parse s = .ok u) (hk : SchemeKind.ofScheme u.scheme = .web) :
    ∃ rest, scheme? (cleaned s) = some (u.scheme, rest) ∧ afterSlashes u.scheme (rest.dropWhile isSlash) = .ok u := by
  unfold parse at h
  split at h
  · rename_i scheme rest hs
    obtain rfl := scheme_of_afterScheme h
    exact ⟨rest, hs, (afterScheme_web hk rest).symm.trans h⟩
  · cases h

theorem parse_of_scheme? (hs : scheme? (cleaned s) = some (scheme, rest)) (hk : SchemeKind.ofScheme scheme = .web) :
    parse s = afterSlashes scheme (rest.dropWhile isSlash) := by
  rw [parse, hs]
  exact afterScheme_web hk rest

theorem exists_ofAuthority (hk : SchemeKind.ofScheme scheme = .web) (h : afterSlashes scheme s = .ok u) :
    ∃ a, authority .web scheme (s.takeWhile inAuthority) false = .ok a ∧
      u = ofAuthority scheme (s.dropWhile inAuthority) a := by
  rw [afterSlashes_web hk] at h
  cases ha : authority .web scheme (s.takeWhile inAuthority) false with
  | error why =>
    rw [ha] at h
    cases h
  | ok a =>
    rw [ha] at h
    cases h
    exact ⟨a, rfl, rfl⟩

/-- The path of an address of the web is made of segments that stand for themselves. -/
theorem isSegment_of_mem_segments (h : parse s = .ok u) (hk : SchemeKind.ofScheme u.scheme = .web)
    (hx : x ∈ u.segments) : IsSegment x := by
  obtain ⟨rest, -, h⟩ := exists_of_parse h hk
  obtain ⟨a, -, hu⟩ := exists_ofAuthority hk h
  rw [hu] at hx
  exact isSegment_of_mem_rootedPath hx

/-- A text begins an address of the web, of which `w` is what comes from the host on and `a` the host that was read. -/
structure Begins (t scheme w : List Char) (a : Option Host × Option Nat × List Char) : Prop where
  web : SchemeKind.ofScheme scheme = .web
  rest : ∃ front, scheme? (lead t) = some (scheme, front) ∧ front.dropWhile isSlash = w
  ne_nil : w ≠ []
  host : authority .web scheme (w.takeWhile inAuthority) false = .ok a

section Begins

variable {w : List Char} {a : Option Host × Option Nat × List Char}

theorem inAuthority_of_slash (hx : ∀ c, x.head? = some c → c = '/') (hc : x.head? = some c) : inAuthority c = false := by
  rw [hx c hc]
  decide

/-- A path may go on at a slash. -/
theorem Begins.parse_append (h : Begins t scheme w a) (hx : ∀ c, x.head? = some c → c = '/')
    (hclean : cleaned (t ++ x) = lead t ++ x) :
    parse (t ++ x) = .ok (ofAuthority scheme (w.dropWhile inAuthority ++ x) a) := by
  obtain ⟨front, hfront, hw⟩ := h.rest
  have hdrop : (front ++ x).dropWhile isSlash = w ++ x := by
    rw [List.dropWhile_append, hw, if_neg (mt List.isEmpty_iff.1 h.ne_nil)]
  have hread : scheme? (cleaned (t ++ x)) = some (scheme, front ++ x) := by
    rw [hclean, scheme?_append hx, hfront]
    rfl
  rw [parse_of_scheme? hread h.web, hdrop, afterSlashes_web h.web,
    takeWhile_append_of_head? fun c => inAuthority_of_slash hx, h.host, Except.map,
    dropWhile_append_of_head? fun c => inAuthority_of_slash hx]

theorem exists_begins (h : parse (t ++ x) = .ok u) (hk : SchemeKind.ofScheme u.scheme = .web) (hx : ∀ c ∈ x, c = '/')
    (hclean : cleaned (t ++ x) = lead t ++ x) : ∃ scheme w a, Begins t scheme w a := by
  have hslash : ∀ c, x.head? = some c → c = '/' := fun c hc => hx c (List.mem_of_mem_head? hc)
  obtain ⟨rest, hs, hu⟩ := exists_of_parse h hk
  rw [hclean, scheme?_append hslash] at hs
  obtain ⟨⟨scheme, front⟩, hfront, he⟩ := Option.map_eq_some_iff.1 hs
  obtain ⟨hsch, rfl⟩ := Prod.mk.inj he
  rw [← hsch] at hk hu
  rw [List.dropWhile_append] at hu
  split at hu
  · -- Slashes alone are no host.
    have hnil : x.dropWhile isSlash = [] := by
      refine List.dropWhile_eq_nil_iff.2 fun c hc => ?_
      rw [hx c hc]
      decide
    rw [hnil] at hu
    obtain ⟨a, ha, -⟩ := exists_ofAuthority hk hu
    cases ha
  · rename_i hne
    obtain ⟨a, ha, -⟩ := exists_ofAuthority hk hu
    rw [takeWhile_append_of_head? fun c => inAuthority_of_slash hslash] at ha
    exact ⟨scheme, _, a, hk, ⟨front, hfront, rfl⟩, mt List.isEmpty_iff.2 hne, ha⟩

/-- What stands between the host and where the path goes on: the rest of a port that a backslash ends, and the path. -/
theorem Begins.notMem (h : Begins t scheme w a) (hc : endsAuthority true c = true) (ht : c ∉ t) :
    c ∉ a.2.2 ++ w.dropWhile inAuthority := by
  obtain ⟨front, hfront, rfl⟩ := h.rest
  intro hm
  rcases List.mem_append.1 hm with hm | hm
  · have := List.mem_takeWhile_imp (subset_of_authority h.host hm)
    rw [inAuthority, hc] at this
    cases this
  · have hmf : c ∈ front := (List.dropWhile_suffix isSlash).subset ((List.dropWhile_suffix _).subset hm)
    exact ht (mem_of_mem_lead (mem_of_scheme? hfront hmf))

end Begins

/-- An address can be continued behind the slashes at its end. What follows goes on from the directory that it names. -/
theorem exists_directory (h : parse (t ++ x) = .ok u) (hk : SchemeKind.ofScheme u.scheme = .web)
    (ht : '?' ∉ t ∧ '#' ∉ t) (hx : ∀ c ∈ x, c = '/') (hend : ∀ c, (t ++ x).getLast? = some c → 32 < c.toNat) :
    ∃ (path : List (List Char)) (n : Nat), u.segments = path.reverse ++ List.replicate n [] ∧ u.query = none ∧
      ∀ y, (∀ c ∈ y, 32 < c.toNat) → '?' ∉ y ∧ '#' ∉ y →
        parse (t ++ '/' :: y) = .ok { u with segments := (descendAll path (splitSegments true y)).reverse } := by
  have hsolid : ∀ c ∈ x, 32 < c.toNat := by
    intro c hc
    rw [hx c hc]
    decide
  have hclean : cleaned (t ++ x) = lead t ++ x := by rw [cleaned_eq_lead hend, lead_append hsolid]
  obtain ⟨scheme, w, a, hbegins⟩ := exists_begins h hk hx hclean
  cases h.symm.trans (hbegins.parse_append (fun c hc => hx c (List.mem_of_mem_head? hc)) hclean)
  have hplain := And.intro (hbegins.notMem (by decide) ht.1) (hbegins.notMem (by decide) ht.2)
  rw [ofAuthority, ← List.append_assoc]
  generalize hv : a.2.2 ++ w.dropWhile inAuthority = v at hplain
  have hquery : queryOf true (v ++ x) = none :=
    queryOf_eq_none (notMem_append_slashes (by decide) hplain.1 hx) (notMem_append_slashes (by decide) hplain.2 hx)
  obtain ⟨n, hn⟩ := exists_rootedPath hplain hx
  refine ⟨directory v, n, hn, hquery, ?_⟩
  intro y hy hyp
  have hstart : ∀ c, ('/' :: y).head? = some c → c = '/' := by
    rintro c hc
    cases hc
    rfl
  have hgoes := cleaned_append (t := t) (List.forall_mem_cons.2 ⟨by decide, hy⟩) (List.cons_ne_nil '/' y)
  rw [hbegins.parse_append hstart hgoes, ofAuthority, ← List.append_assoc, hv, rootedPath_append_slash hplain hyp,
    queryOf_eq_none (notMem_append_slash (by decide) hplain.1 hyp.1) (notMem_append_slash (by decide) hplain.2 hyp.2), hquery]

/-! ## Addresses on hosts with plain names -/

section PlainName

variable {host : List Char}

theorem ofScheme_eq_web (hs : scheme = "http".toList ∨ scheme = "https".toList) : SchemeKind.ofScheme scheme = .web := by
  rcases hs with rfl | rfl <;> decide

theorem IsPlainName.inAuthority (h : IsPlainName host) (hc : c ∈ host) : inAuthority c = true := by
  have hne : ∀ d, isForbidden d.toLower = true → c ≠ d := by
    rintro d hd rfl
    exact h.ne hd hc
  simp [Url.inAuthority, endsAuthority, hne '/' (by decide), hne '?' (by decide), hne '#' (by decide),
    hne '\\' (by decide)]

theorem isSlash_of_inAuthority (h : inAuthority c = true) : isSlash c = false := by
  simp only [inAuthority, endsAuthority, Bool.not_eq_true', Bool.or_eq_false_iff, Bool.true_and] at h
  rw [isSlash, h.1.1.1, h.2]
  rfl

theorem IsPlainName.begins (h : IsPlainName host) (hs : scheme = "http".toList ∨ scheme = "https".toList) :
    Begins (scheme ++ "://".toList ++ host) scheme host (some (.domain (lower host)), none, []) := by
  have hsolid : ∀ c ∈ scheme ++ "://".toList ++ host, 32 < c.toNat := by
    refine List.forall_mem_append.2 ⟨?_, fun c hc => h.lt_toNat hc⟩
    rcases hs with rfl | rfl <;> exact List.all_iff_forall_prop.1 (by decide)
  have hlead : lead (scheme ++ "://".toList ++ host) = scheme ++ "://".toList ++ host := lead_append (t := []) hsolid
  refine ⟨ofScheme_eq_web hs, ⟨"//".toList ++ host, ?_, ?_⟩, h.ne_nil, ?_⟩
  · rw [hlead]
    rcases hs with rfl | rfl <;> simp [scheme?, isSchemeChar]
  · exact dropWhile_append_eq (List.all_eq_true.1 (by decide)) fun c hc =>
      isSlash_of_inAuthority (h.inAuthority (List.mem_of_mem_head? hc))
  · rw [List.takeWhile_eq_self_iff.2 fun c hc => h.inAuthority hc]
    exact authority_of_isPlainName h scheme false

/-- How an address of the web on a plain host is read. -/
theorem parse_web (hs : scheme = "http".toList ∨ scheme = "https".toList) (hh : IsPlainName host)
    (hx : ∀ c ∈ x, 32 < c.toNat) : parse (scheme ++ "://".toList ++ host ++ '/' :: x) =
      .ok ⟨scheme, some (.domain (lower host)), none, rootedPath true ('/' :: x), queryOf true ('/' :: x)⟩ := by
  have hstart : ∀ c, ('/' :: x).head? = some c → c = '/' := by
    rintro c hc
    cases hc
    rfl
  have hclean := cleaned_append (t := scheme ++ "://".toList ++ host) (List.forall_mem_cons.2 ⟨by decide, hx⟩)
    (List.cons_ne_nil '/' x)
  rw [(hh.begins hs).parse_append hstart hclean, List.dropWhile_eq_nil_iff.2 fun c hc => hh.inAuthority hc]
  rfl

end PlainName

end PageBundle.Url
