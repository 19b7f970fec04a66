import LesserHost.Outbound.Guard

set_option autoImplicit false

/-! # Runs of the two clients

The environment answers one operation after the other. Its answers are any sequence: those of the resolver to
two lookups of one name need not agree, a transport dials what it likes, and a server redirects as often as it
likes. `Trace` is what is seen from outside. -/

namespace LesserHost.Outbound

open LesserHost.Go Prog

/-- What the environment says next. -/
structure Answer where
  ips : Option (List IP)
  dialErr : Option String
  addrs : List String
  result : Except FetchError Response

/-- The connections that are opened and the URLs that are requested. -/
structure Trace where
  conns : List (IP × String)
  requests : List URL

def world : Env Op Op.Res Trace Answer where
  handle o answer t :=
    match o with
    | .LookupIPAddr _ => (answer.ips, t)
    | .connect ip port => (answer.dialErr, { t with conns := t.conns ++ [(ip, port)] })
    | .send u => (answer.addrs, { t with requests := t.requests ++ [u] })
    | .response => (answer.result, t)

/-- What is seen of a program. -/
def observe {α : Type} (p : Fetch α) (answers : Nat → Answer) : Trace := (run world p answers ⟨[], []⟩).2

section Observe

variable {α : Type} {p : Fetch α} {ok : Op → Prop}

/-- What is seen was allowed. -/
theorem observe_only (h : Only ok p) (answers : Nat → Answer) :
    (∀ c ∈ (observe p answers).conns, ok (.connect c.1 c.2)) ∧
      ∀ u ∈ (observe p answers).requests, ok (.send u) := by
  have hstep : ∀ o, ok o → ∀ answer t,
      ((∀ c ∈ t.conns, ok (.connect c.1 c.2)) ∧ ∀ u ∈ t.requests, ok (.send u)) →
      (∀ c ∈ (world.handle o answer t).2.conns, ok (.connect c.1 c.2)) ∧
        ∀ u ∈ (world.handle o answer t).2.requests, ok (.send u) := by
    intro o ho answer t ht
    cases o with
    | LookupIPAddr host => exact ht
    | response => exact ht
    | connect ip port =>
        refine ⟨fun c hc => ?_, ht.2⟩
        rcases List.mem_append.1 hc with hc | hc
        · exact ht.1 c hc
        · obtain rfl := List.mem_singleton.1 hc
          exact ho
    | send u =>
        refine ⟨ht.1, fun v hv => ?_⟩
        rcases List.mem_append.1 hv with hv | hv
        · exact ht.2 v hv
        · obtain rfl := List.mem_singleton.1 hv
          exact ho
  exact run_of_wp (wp_of_only hstep h ⟨by simp, by simp⟩) answers

theorem run_sends {n : Nat} (h : SendsAtMost n p) (answers : Nat → Answer) (t : Trace) :
    (run world p answers t).2.requests.length ≤ t.requests.length + n := by
  induction p generalizing n answers t with
  | ret a => exact Nat.le_add_right _ _
  | fail e => exact Nat.le_add_right _ _
  | op o k ih =>
      rw [sendsAtMost_op] at h
      have hrest := ih (world.handle o (answers 0) t).1 (h.2 _) (fun i => answers (i + 1)) (world.handle o (answers 0) t).2
      have hsent : (world.handle o (answers 0) t).2.requests.length = t.requests.length + o.sends := by
        cases o <;> simp [world, Op.sends]
      rw [run]
      have hone := h.1
      omega

theorem observe_sends {n : Nat} (h : SendsAtMost n p) (answers : Nat → Answer) :
    (observe p answers).requests.length ≤ n := by
  have hsent := run_sends h answers ⟨[], []⟩
  rwa [List.length_nil, Nat.zero_add] at hsent

end Observe

/-- **No connection to a denied address.** Whatever is linked and whatever is answered, each connection of the
    preview fetcher goes to an address that is not denied, at port 80 or 443, each URL it requests is an `http` or
    `https` URL without user information, and it follows five redirects at most. The outbound client connects to
    such addresses at port 443 only, for one `https` URL at its default port, and follows no redirect. -/
theorem fetches_guarded (std : Std) (answers : Nat → Answer) :
    (∀ link fetch, fetch = fetchLinkPreview std link ∨ fetch = tryStorePreviewImage std link →
      (∀ c ∈ (observe fetch answers).conns, isDeniedIP c.1 = false ∧ (c.2 = "80" ∨ c.2 = "443")) ∧
      (∀ u ∈ (observe fetch answers).requests, (u.Scheme = "http" ∨ u.Scheme = "https") ∧ u.User = none) ∧
      (observe fetch answers).requests.length ≤ 1 + 5) ∧
    ∀ u, let t := observe (Client.Do std u) answers
      (∀ c ∈ t.conns, isDeniedIP c.1 = false ∧ c.2 = "443") ∧
      (∀ v ∈ t.requests, ToLower (TrimSpace v.Scheme) = "https" ∧
        (TrimSpace (std.Port v) = "" ∨ TrimSpace (std.Port v) = "443")) ∧
      t.requests.length ≤ 1 := by
  refine ⟨?_, ?_⟩
  · intro link fetch hfetch
    have hguarded : ∀ maxBytes, (∀ c ∈ (observe (fetchLink std maxBytes link) answers).conns,
          isDeniedIP c.1 = false ∧ (c.2 = "80" ∨ c.2 = "443")) ∧
        (∀ u ∈ (observe (fetchLink std maxBytes link) answers).requests,
          (u.Scheme = "http" ∨ u.Scheme = "https") ∧ u.User = none) ∧
        (observe (fetchLink std maxBytes link) answers).requests.length ≤ 1 + 5 := by
      intro maxBytes
      obtain ⟨hconns, hrequests⟩ := observe_only (fetchLink_only std maxBytes link) answers
      exact ⟨hconns, hrequests, observe_sends (fetchLink_sends std maxBytes link) answers⟩
    rcases hfetch with h | h
    · rw [h, fetchLinkPreview]
      exact hguarded linkPreviewMaxHTMLBytes
    · rw [h, tryStorePreviewImage]
      exact hguarded linkPreviewMaxImageBytes
  · intro u t
    obtain ⟨hconns, hrequests⟩ := observe_only (Client.Do_only std u) answers
    exact ⟨hconns, hrequests, observe_sends (Client.Do_sends std u) answers⟩

/-! ## User information -/

/-- The library on the one host of the sample. -/
def sampleStd : Std where
  Parse _ := none
  text u := u.Scheme ++ "://" ++ u.Host ++ u.Path
  ResolveReference _ u := u
  Hostname u := u.Host
  Port _ := ""
  ToASCII host := some host
  Clean path := path
  encodeQuery query := query
  ParseIP _ := none
  SplitHostPort addr := if addr = "example.com:443" then some ("example.com", "443") else none

/-- The name resolves to a public address, the connection is made and the server answers. -/
def sampleAnswers (_ : Nat) : Answer := ⟨some [[93, 184, 215, 14]], none, ["example.com:443"], .ok ⟨200, "", some []⟩⟩

def sampleURL : URL := ⟨"https", some "user", "example.com", "/", "", ""⟩

/-- The outbound client also requests a URL with user information. -/
theorem not_client_without_user : ¬ ∀ std answers u, ∀ v ∈ (observe (Client.Do std u) answers).requests,
    v.User = none := by
  intro h
  have hrequests : (observe (Client.Do sampleStd sampleURL) sampleAnswers).requests = [sampleURL] := by
    decide +kernel
  have hnone := h sampleStd sampleAnswers sampleURL sampleURL (by rw [hrequests]; exact List.mem_singleton.2 rfl)
  cases hnone

end LesserHost.Outbound
