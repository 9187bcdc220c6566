import PageBundle.Proofs.Repository.Names

/-! How large an archive can be that is read. The length that a reply declares is checked before its body is read, and of
the body as much is read as was declared. So the limit holds for every reply that declares a length, whether the length is
right or not, and for no other. -/

namespace PageBundle

namespace Http.Reply

variable {reply : Reply} {b : ByteArray}

theorem size_content (h : reply.content = .ok b) {n : Nat} (hn : reply.declared? = some n) : b.size = n := by
  unfold content at h
  unfold declared? at hn
  split at h
  · rename_i hs
    rw [if_pos hs] at hn
    cases h
    cases hn
    rfl
  · rename_i hs
    rw [if_neg hs] at hn
    rw [hn] at h
    dsimp only at h
    split at h
    · cases h
    · rename_i hle
      cases h
      rw [ByteArray.size_extract]
      omega

theorem content_of_declared? (h : reply.declared? = none) : reply.content = .ok reply.body := by
  unfold declared? at h
  unfold content
  split at h
  · cases h
  · rename_i hs
    rw [if_neg hs, h]

end Http.Reply

namespace Repository

variable {network : Http.Network} {hosting : Hosting} {input address : String} {r : Repository} {reply : Http.Reply}
  {b : ByteArray}

/-- The network answers a fetch so, after all redirects. -/
def Replies (network : Http.Network) (hosting : Hosting) (input : String) (reply : Http.Reply) : Prop :=
  ∃ r url, parse input = .ok r ∧ Url.parse (archiveAddress hosting.apiBase r).toList = .ok url ∧
    (Http.ask network request maxRedirects [] url).result = .ok reply

/-- A fetch comes to read these bytes as an archive. -/
def Extracts (network : Http.Network) (hosting : Hosting) (input : String) (b : ByteArray) : Prop :=
  ∃ r, parse input = .ok r ∧ (download network (archiveAddress hosting.apiBase r)).result = .ok b

/-- A reply has an archive exactly if it is a success, declares no length above the limit, and its body arrives. -/
theorem archiveOf_eq_ok_iff : archiveOf address reply = .ok b ↔
    Http.isSuccess reply.status = true ∧ (∀ n, reply.declared? = some n → n ≤ maxArchiveBytes) ∧ reply.content = .ok b := by
  constructor
  · intro h
    unfold archiveOf at h
    split at h
    · cases h
    · rename_i hs
      split at h
      · cases h
      · rename_i hd
        refine ⟨by simpa using hs, fun n hn => ?_, mapError_eq_ok_iff.1 h⟩
        have := Option.filter_eq_none_iff.1 hd n hn
        rwa [decide_eq_true_eq, Nat.not_lt] at this
  · rintro ⟨hs, hd, hc⟩
    have hd : reply.declared?.filter (maxArchiveBytes < ·) = none := by
      refine Option.filter_eq_none_iff.2 fun n hn => ?_
      rw [decide_eq_true_eq, Nat.not_lt]
      exact hd n hn
    rw [archiveOf, hs, hd, hc]
    rfl

/-- Too long a body is noticed if its length was declared. -/
theorem archiveOf_of_declared? {n : Nat} (hs : Http.isSuccess reply.status = true) (hn : reply.declared? = some n)
    (hlt : maxArchiveBytes < n) : archiveOf address reply = .error (.inputUnavailable ("repository archive too large (" ++
      toString n ++ " bytes, max " ++ toString maxArchiveBytes ++ ")")) := by
  rw [archiveOf, hs, hn, Option.filter_some, decide_eq_true hlt]
  rfl

theorem result_fetch (h : parse input = .ok r) : (fetch network hosting input).result =
    (download network (archiveAddress hosting.apiBase r)).result.bind Archive.read := by
  rw [fetch, h]

theorem Replies.exists_result (h : Replies network hosting input reply) : ∃ r, parse input = .ok r ∧
    (download network (archiveAddress hosting.apiBase r)).result = archiveOf (archiveAddress hosting.apiBase r) reply := by
  obtain ⟨r, url, hr, hurl, hreply⟩ := h
  refine ⟨r, hr, ?_⟩
  rw [download, hurl]
  dsimp only
  rw [hreply]

theorem extracts_iff : Extracts network hosting input b ↔ ∃ reply, Replies network hosting input reply ∧
    Http.isSuccess reply.status = true ∧ (∀ n, reply.declared? = some n → n ≤ maxArchiveBytes) ∧ reply.content = .ok b := by
  constructor
  · rintro ⟨r, hr, h⟩
    unfold download at h
    split at h
    · cases h
    · rename_i url hurl
      dsimp only at h
      split at h
      · cases h
      · rename_i reply hreply
        exact ⟨reply, ⟨r, url, hr, hurl, hreply⟩, archiveOf_eq_ok_iff.1 h⟩
  · rintro ⟨reply, hreply, h⟩
    obtain ⟨r, hr, hresult⟩ := hreply.exists_result
    exact ⟨r, hr, hresult.trans (archiveOf_eq_ok_iff.2 h)⟩

/-- A fetch that comes to an archive gives what reading the archive gives. -/
theorem Extracts.result_eq (h : Extracts network hosting input b) : (fetch network hosting input).result = Archive.read b := by
  obtain ⟨r, hr, h⟩ := h
  rw [result_fetch hr, h]
  rfl

/-- More bytes than the limit allows are read as an archive if and only if a reply without a declared length has them.
Where a length above the limit is declared, the fetch fails for that reason and nothing is read. -/
theorem exists_oversized_iff (network : Http.Network) (hosting : Hosting) (input : String) :
    ((∃ b, Extracts network hosting input b ∧ maxArchiveBytes < b.size) ↔ ∃ reply, Replies network hosting input reply ∧
      Http.isSuccess reply.status = true ∧ reply.declared? = none ∧ maxArchiveBytes < reply.body.size) ∧
    (∀ b, Extracts network hosting input b → (fetch network hosting input).result = Archive.read b) ∧
    ∀ reply n, Replies network hosting input reply → Http.isSuccess reply.status = true → reply.declared? = some n →
      maxArchiveBytes < n → (∀ b, ¬ Extracts network hosting input b) ∧
        (fetch network hosting input).result = .error (.inputUnavailable ("repository archive too large (" ++ toString n ++
          " bytes, max " ++ toString maxArchiveBytes ++ ")")) := by
  refine ⟨⟨?_, ?_⟩, fun b h => h.result_eq, ?_⟩
  · rintro ⟨b, h, hlt⟩
    obtain ⟨reply, hreply, hs, hn, hc⟩ := extracts_iff.1 h
    cases hd : reply.declared? with
    | none =>
      cases hc.symm.trans (Http.Reply.content_of_declared? hd)
      exact ⟨reply, hreply, hs, hd, hlt⟩
    | some n =>
      rw [Http.Reply.size_content hc hd] at hlt
      exact absurd hlt (Nat.not_lt.2 (hn n hd))
  · rintro ⟨reply, hreply, hs, hd, hlt⟩
    have hle : ∀ n, reply.declared? = some n → n ≤ maxArchiveBytes := by
      rw [hd]
      nofun
    exact ⟨reply.body, extracts_iff.2 ⟨reply, hreply, hs, hle, Http.Reply.content_of_declared? hd⟩, hlt⟩
  · intro reply n hreply hs hd hlt
    obtain ⟨r, hr, hresult⟩ := hreply.exists_result
    rw [archiveOf_of_declared? hs hd hlt] at hresult
    refine ⟨?_, ?_⟩
    · rintro b ⟨r', hr', h⟩
      cases hr.symm.trans hr'
      rw [hresult] at h
      cases h
    · rw [result_fetch hr, hresult]
      rfl

theorem result_ask_of_success {u : Url} (hs : u.scheme = "http".toList) (body : ByteArray) :
    (Http.ask (fun _ _ => some ⟨200, none, none, body⟩) request maxRedirects [] u).result = .ok ⟨200, none, none, body⟩ := by
  rw [Http.ask, if_neg fun h => h.1 hs]
  rfl

/-- One byte more than the limit allows. -/
def oversized : ByteArray := ⟨Array.replicate (maxArchiveBytes + 1) 0⟩

/-- Without a declared length a body is read however long it is. -/
theorem extracts_oversized :
    Extracts (fun _ _ => some ⟨200, none, none, oversized⟩) mirror "https://github.com/octo/site" oversized ∧
      maxArchiveBytes < oversized.size := by
  have hparse : parse "https://github.com/octo/site" = .ok ⟨"octo", "site"⟩ :=
    parse_written (x := "octo/site".toList) (by decide +kernel) (by decide) (by decide +kernel)
  have haddress : Url.parse (archiveAddress mirror.apiBase ⟨"octo", "site"⟩).toList = _ :=
    parse_below_mirror (x := "v3/repos/octo/site/zipball".toList) (by decide +kernel) (by decide)
  have hsize : oversized.size = maxArchiveBytes + 1 := Array.size_replicate
  refine ⟨extracts_iff.2 ⟨⟨200, none, none, oversized⟩, ⟨_, _, hparse, haddress, ?_⟩, rfl, nofun, ?_⟩, ?_⟩
  · exact result_ask_of_success rfl oversized
  · exact Http.Reply.content_of_declared? rfl
  · rw [hsize]
    exact Nat.lt_succ_self _

end Repository

end PageBundle
