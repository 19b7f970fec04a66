import LesserHost.Outbound.Fetcher

set_option autoImplicit false

/-! # No connection to a denied address

What a program may do is said of each operation that it can come to (`Yields`, `Only`), for all answers of the
environment: whatever the resolver says at each lookup, whatever the transport dials, and whatever the servers
return. `SendsAtMost` bounds the requests. -/

namespace LesserHost.Outbound

open LesserHost.Go Prog

/-! ## Steps of a program -/

section Steps

variable {ok : Op → Prop} {α : Type}

theorem yields_check {c : Prop} [Decidable c] {e : FetchError} : Yields ok (fun _ => c) (check c e) :=
  yields_ite (fun h => yields_pure h) (fun _ => yields_fail)

theorem yields_checked {c : Prop} [Decidable c] {e : FetchError} : Yields ok (fun _ => True) (check c e) :=
  yields_check.mono fun _ _ => trivial

theorem yields_required {x : Option α} {e : FetchError} : Yields ok (fun a => x = some a) (required x e) := by
  cases x with
  | none => exact yields_fail
  | some a => exact yields_pure rfl

/-- Nothing is said of the answer. -/
theorem yields_of_only {p : Fetch α} (h : Only ok p) : Yields ok (fun _ => True) p := by
  induction p with
  | ret a => exact yields_pure trivial
  | fail e => exact yields_fail
  | op o k ih =>
      rw [only_op] at h
      exact yields_bind (yields_perform h.1 fun _ => trivial) fun r _ => ih r (h.2 r)

theorem only_attempt {p : Fetch α} (h : Only ok p) : Only ok (attempt p) := by
  induction p with
  | ret a => exact only_ret _
  | fail e => exact only_ret _
  | op o k ih =>
      rw [only_op] at h
      exact (only_op _ _).2 ⟨h.1, fun r => ih r (h.2 r)⟩

end Steps

/-! ## What the checks let through -/

/-- An `http` or `https` URL without user information. -/
def Normal (u : URL) : Prop := (u.Scheme = "http" ∨ u.Scheme = "https") ∧ u.User = none

section Checks

variable {ok : Op → Prop} (std : Std)

theorem validateDefaultPort_yields (u : URL) : Yields ok (fun _ => True) (validateDefaultPort std u) := by
  unfold validateDefaultPort
  split
  · exact yields_pure trivial
  · refine yields_bind yields_required fun n _ => ?_
    refine yields_bind yields_check fun _ _ => ?_
    exact yields_checked

theorem canonicalizeLinkSchemeAndUserinfo_yields (u : URL) :
    Yields ok Normal (canonicalizeLinkSchemeAndUserinfo u) := by
  unfold canonicalizeLinkSchemeAndUserinfo
  refine yields_bind yields_check fun _ hscheme => ?_
  refine yields_bind yields_check fun _ huser => ?_
  exact yields_pure ⟨hscheme, huser⟩

theorem canonicalizeLinkHostAndPort_yields {u : URL} (h : Normal u) :
    Yields ok Normal (canonicalizeLinkHostAndPort std u) := by
  unfold canonicalizeLinkHostAndPort
  refine yields_bind yields_check fun _ _ => ?_
  refine yields_bind yields_required fun host _ => ?_
  refine yields_bind yields_check fun _ _ => ?_
  refine yields_bind (validateDefaultPort_yields std u) fun _ _ => ?_
  refine yields_pure ?_
  exact ⟨h.1, h.2⟩

theorem normalizeLinkURL_yields (raw : String) : Yields ok Normal (normalizeLinkURL std raw) := by
  unfold normalizeLinkURL
  refine yields_bind yields_check fun _ _ => ?_
  refine yields_bind yields_required fun u _ => ?_
  refine yields_bind (canonicalizeLinkSchemeAndUserinfo_yields u) fun v hv => ?_
  refine yields_bind (canonicalizeLinkHostAndPort_yields std hv) fun w hw => ?_
  refine yields_pure ?_
  exact ⟨hw.1, hw.2⟩

theorem followRedirect_yields (current : URL) (location : String) :
    Yields ok Normal (followRedirect std current location) :=
  yields_bind yields_check fun _ _ => yields_bind yields_required fun _ _ => normalizeLinkURL_yields std _

theorem readBodyLimit_yields (body : Option Bytes) (maxBytes : Nat) :
    Yields ok (fun _ => True) (readBodyLimit body maxBytes) :=
  yields_bind yields_check fun _ _ => yields_bind yields_required fun _ _ =>
    yields_bind yields_check fun _ _ => yields_pure trivial

variable (hlookup : ∀ host, ok (.LookupIPAddr host))

include hlookup

theorem resolveHostIPs_yields (host : String) : Yields ok (fun _ => True) (resolveHostIPs host) :=
  yields_bind (yields_perform (hlookup host) fun _ => trivial) fun _ _ => yields_bind yields_required fun _ _ =>
    yields_bind yields_check fun _ _ => yields_pure trivial

theorem validateOutboundURL_yields (u : URL) : Yields ok (fun _ => True) (validateOutboundURL std u) := by
  refine yields_bind yields_check fun _ _ => yields_bind yields_check fun _ _ =>
    yields_bind yields_check fun _ _ => ?_
  split
  · exact yields_checked
  · exact yields_bind (resolveHostIPs_yields hlookup _) fun _ _ => yields_checked

/-! ## What is dialed -/

omit hlookup in
/-- Connections to allowed addresses at the port. -/
theorem dialResolvedIPs_yields {port : String} {ips : List IP}
    (hconnect : ∀ ip ∈ ips, ok (.connect (Unmap ip) port)) (lastErr : String) :
    Yields ok (fun _ => True) (dialResolvedIPs port lastErr ips) := by
  induction ips generalizing lastErr with
  | nil => exact yields_fail
  | cons ip ips ih =>
      refine yields_bind (yields_perform (hconnect ip List.mem_cons_self) fun _ => trivial) fun answer _ => ?_
      cases answer with
      | none => exact yields_pure trivial
      | some dialErr => exact ih (fun ip hip => hconnect ip (List.mem_cons_of_mem _ hip)) dialErr

/-- The dialer of the preview fetcher resolves the host once, and dials what it has checked. -/
theorem dialSSRFProtected_yields
    (hconnect : ∀ ip port, isDeniedIP ip = false → port = "80" ∨ port = "443" → ok (.connect ip port))
    (addr : String) : Yields ok (fun _ => True) (dialSSRFProtected std addr) := by
  have htarget : Yields ok (fun target => target.2 = "80" ∨ target.2 = "443")
      (parseAndValidateDialTarget std addr) :=
    yields_bind yields_required fun _ _ => yields_bind yields_check fun _ _ =>
      yields_bind yields_check fun _ hport => yields_bind yields_check fun _ _ => yields_pure hport
  refine yields_bind htarget fun target hport => ?_
  obtain ⟨host, port⟩ := target
  have hdial : ∀ ips : List IP, (∀ ip ∈ ips, isDeniedIP ip = false) →
      Yields ok (fun _ => True) (dialResolvedIPs port "" ips) := fun ips hips =>
    dialResolvedIPs_yields (fun ip hip => hconnect _ _ ((isDeniedIP_Unmap ip).trans (hips ip hip)) hport) ""
  dsimp only
  split
  · next ip _ =>
      refine yields_bind yields_check fun _ hip => hdial [ip] ?_
      simpa using hip
  · exact yields_bind (resolveHostIPs_yields hlookup _) fun ips _ => yields_bind yields_check fun _ hips =>
      hdial ips hips

omit hlookup in
theorem dialAll_only {dial : String → Fetch Unit} (hdial : ∀ addr, Only ok (dial addr)) (addrs : List String) :
    Only ok (dialAll dial addrs) := by
  induction addrs with
  | nil => exact only_pure _
  | cons addr addrs ih => exact only_bind (only_attempt (hdial addr)) fun _ => ih

omit hlookup in
theorem roundTrip_only {dial : String → Fetch Unit} (hdial : ∀ addr, Only ok (dial addr)) {u : URL}
    (hsend : ok (.send u)) (hresponse : ok .response) : Only ok (roundTrip dial u) :=
  only_bind ((only_perform _).2 hsend) fun _ => only_bind (dialAll_only hdial _) fun _ =>
    (only_perform _).2 hresponse

end Checks

/-! ## How many requests are sent -/

def Op.sends : Op → Nat
  | .send _ => 1
  | _ => 0

/-- No more than so many requests are sent, whatever is answered. -/
def SendsAtMost {α : Type} : Nat → Fetch α → Prop
  | _, .ret _ => True
  | _, .fail _ => True
  | n, .op o k => o.sends ≤ n ∧ ∀ r, SendsAtMost (n - o.sends) (k r)

section Sends

variable {α β : Type}

theorem sendsAtMost_pure (n : Nat) (a : α) : SendsAtMost n (pure a : Fetch α) := trivial

theorem sendsAtMost_fail (n : Nat) (e : FetchError) : SendsAtMost n (Prog.fail e : Fetch α) := trivial

theorem sendsAtMost_op {n : Nat} {o : Op} {k : o.Res → Fetch α} :
    SendsAtMost n (.op o k) ↔ o.sends ≤ n ∧ ∀ r, SendsAtMost (n - o.sends) (k r) := Iff.rfl

theorem SendsAtMost.mono {m n : Nat} {p : Fetch α} (h : SendsAtMost m p) (hle : m ≤ n) : SendsAtMost n p := by
  induction p generalizing m n with
  | ret a => trivial
  | fail e => trivial
  | op o k ih => exact ⟨h.1.trans hle, fun r => ih r (h.2 r) (by omega)⟩

theorem SendsAtMost.bind {m n : Nat} {p : Fetch α} {f : α → Fetch β} (hp : SendsAtMost m p)
    (hf : ∀ a, SendsAtMost n (f a)) : SendsAtMost (m + n) (p >>= f) := by
  induction p generalizing m with
  | ret a => exact (hf a).mono (Nat.le_add_left n m)
  | fail e => trivial
  | op o k ih =>
      refine ⟨hp.1.trans (Nat.le_add_right m n), fun r => ?_⟩
      have hrest := ih r (hp.2 r)
      rwa [← Nat.sub_add_comm hp.1] at hrest

theorem SendsAtMost.andThen {m k : Nat} {p : Fetch α} {f : α → Fetch β} (hp : SendsAtMost m p) (n : Nat)
    (hk : m + n ≤ k) (hf : ∀ a, SendsAtMost n (f a)) : SendsAtMost k (p >>= f) :=
  (hp.bind hf).mono hk

theorem sendsAtMost_of_only {p : Fetch α} (h : Only (fun o => o.sends = 0) p) : SendsAtMost 0 p := by
  induction p with
  | ret a => trivial
  | fail e => trivial
  | op o k ih =>
      rw [only_op] at h
      refine ⟨h.1.le, fun r => ?_⟩
      rw [h.1]
      exact ih r (h.2 r)

/-- A round trip sends one request, if the dialer sends none. -/
theorem roundTrip_sends {dial : String → Fetch Unit} (hdial : ∀ addr, Only (fun o => o.sends = 0) (dial addr))
    (u : URL) : SendsAtMost 1 (roundTrip dial u) := by
  have hdials : ∀ addrs, SendsAtMost 0 (dialAll dial addrs) := fun addrs =>
    sendsAtMost_of_only (dialAll_only hdial addrs)
  have hresponse : SendsAtMost 0 (perform Op.response : Fetch (Except FetchError Response)) :=
    ⟨Nat.le_refl 0, fun _ => trivial⟩
  exact ⟨Nat.le_refl 1, fun addrs => (hdials addrs).bind fun _ => hresponse⟩

-- Programs are taken apart by the lemmas above.
attribute [irreducible] SendsAtMost

end Sends

/-! ## The loop -/

section Loop

variable (std : Std) (maxBytes : Nat)

/-- What the preview fetcher may do. -/
def PreviewOk : Op → Prop
  | .connect ip port => isDeniedIP ip = false ∧ (port = "80" ∨ port = "443")
  | .send u => Normal u
  | _ => True

theorem dialSSRFProtected_preview (addr : String) : Only PreviewOk (dialSSRFProtected std addr) :=
  (dialSSRFProtected_yields std (fun _ => trivial) (fun _ _ hip hport => ⟨hip, hport⟩) addr).only

/-- A pass sends a checked URL only, and goes on with another one. -/
theorem fetchHop_yields {current : URL} (h : Normal current) :
    Yields PreviewOk (fun r => ∀ next, r = .inl next → Normal next) (fetchHop std maxBytes current) := by
  have htrip : Yields PreviewOk (fun _ => True) (roundTrip (dialSSRFProtected std) current) := by
    refine yields_of_only ?_
    exact roundTrip_only (dialSSRFProtected_preview std) h trivial
  unfold fetchHop
  refine yields_bind (validateOutboundURL_yields std (fun _ => trivial) current) fun _ _ => ?_
  refine yields_bind yields_required fun _ _ => ?_
  refine yields_bind htrip fun answer _ => ?_
  split
  · exact yields_fail
  · exact yields_fail
  · refine yields_ite (fun _ => ?_) fun _ => ?_
    · refine yields_bind (followRedirect_yields std current _) fun next hnext => yields_pure ?_
      rintro _ ⟨⟩
      exact hnext
    · refine yields_bind (readBodyLimit_yields _ maxBytes) fun body _ => yields_pure ?_
      rintro _ ⟨⟩

theorem fetchWithRedirects_only {current : URL} (redirects : Nat) (h : Normal current) :
    Only PreviewOk (fetchWithRedirects std maxBytes redirects current) := by
  suffices hyields : Yields PreviewOk (fun _ => True) (fetchWithRedirects std maxBytes redirects current) from
    hyields.only
  induction redirects generalizing current with
  | zero =>
      unfold fetchWithRedirects
      refine yields_bind (fetchHop_yields std maxBytes h) fun r _ => ?_
      cases r with
      | inl next => exact yields_fail
      | inr body => exact yields_pure trivial
  | succ redirects ih =>
      unfold fetchWithRedirects
      refine yields_bind (fetchHop_yields std maxBytes h) fun r hr => ?_
      cases r with
      | inl next => exact ih (hr next rfl)
      | inr body => exact yields_pure trivial

theorem validateOutboundURL_sends (u : URL) : SendsAtMost 0 (validateOutboundURL std u) :=
  sendsAtMost_of_only (validateOutboundURL_yields std (fun _ => rfl) u).only

theorem fetchHop_sends (current : URL) : SendsAtMost 1 (fetchHop std maxBytes current) := by
  have hdial : ∀ addr, Only (fun o => o.sends = 0) (dialSSRFProtected std addr) := fun addr =>
    (dialSSRFProtected_yields std (fun _ => rfl) (fun _ _ _ _ => rfl) addr).only
  have hparse : SendsAtMost 0 (required (std.Parse (std.text current)) (invalidURL "invalid url")) :=
    sendsAtMost_of_only yields_required.only
  have htrip := roundTrip_sends hdial current
  unfold fetchHop
  refine (validateOutboundURL_sends std current).andThen 1 (by omega) fun _ => ?_
  refine hparse.andThen 1 (by omega) fun _ => ?_
  refine htrip.andThen 0 (by omega) fun answer => sendsAtMost_of_only ?_
  split
  · exact only_fail _
  · exact only_fail _
  · refine only_ite ?_ ?_
    · exact only_bind (followRedirect_yields std current _).only fun _ => only_pure _
    · exact only_bind (readBodyLimit_yields _ maxBytes).only fun _ => only_pure _

theorem fetchWithRedirects_sends (current : URL) (redirects : Nat) :
    SendsAtMost (redirects + 1) (fetchWithRedirects std maxBytes redirects current) := by
  induction redirects generalizing current with
  | zero =>
      unfold fetchWithRedirects
      refine (fetchHop_sends std maxBytes current).andThen 0 (by omega) fun r => ?_
      cases r with
      | inl next => exact sendsAtMost_fail 0 _
      | inr body => exact sendsAtMost_pure 0 _
  | succ redirects ih =>
      unfold fetchWithRedirects
      refine (fetchHop_sends std maxBytes current).andThen (redirects + 1) (by omega) fun r => ?_
      cases r with
      | inl next => exact ih next
      | inr body => exact sendsAtMost_pure _ _

theorem fetchLink_only (rawURL : String) : Only PreviewOk (fetchLink std maxBytes rawURL) := by
  suffices hyields : Yields PreviewOk (fun _ => True) (fetchLink std maxBytes rawURL) from hyields.only
  unfold fetchLink
  refine yields_bind (normalizeLinkURL_yields std rawURL) fun u hu => ?_
  refine yields_bind (validateOutboundURL_yields std (fun _ => trivial) u) fun _ _ => ?_
  exact yields_of_only (fetchWithRedirects_only std maxBytes linkPreviewMaxRedirects hu)

theorem fetchLink_sends (rawURL : String) :
    SendsAtMost (linkPreviewMaxRedirects + 1) (fetchLink std maxBytes rawURL) := by
  have hnormal : SendsAtMost 0 (normalizeLinkURL std rawURL) :=
    sendsAtMost_of_only (normalizeLinkURL_yields std rawURL).only
  unfold fetchLink
  refine hnormal.andThen (linkPreviewMaxRedirects + 1) (by omega) fun u => ?_
  refine (validateOutboundURL_sends std u).andThen (linkPreviewMaxRedirects + 1) (by omega) fun _ => ?_
  exact fetchWithRedirects_sends std maxBytes u linkPreviewMaxRedirects

end Loop

/-! ## The outbound client -/

namespace Client

variable {ok : Op → Prop} (std : Std)

theorem normalizeOutboundHost_yields (host : String) : Yields ok (fun _ => True) (normalizeOutboundHost std host) := by
  unfold normalizeOutboundHost
  refine yields_bind yields_check fun _ _ => ?_
  refine yields_bind yields_check fun _ _ => ?_
  refine yields_bind yields_check fun _ _ => ?_
  exact yields_pure trivial

theorem resolve_yields (hlookup : ∀ host, ok (.LookupIPAddr host)) (host : String) :
    Yields ok (fun ips => ∀ ip ∈ ips, isDeniedIP ip = false) (resolveAndValidateOutboundHostIPs std host) := by
  unfold resolveAndValidateOutboundHostIPs
  refine yields_bind (normalizeOutboundHost_yields std host) fun normalized _ => ?_
  split
  · refine yields_bind yields_check fun _ hip => yields_pure ?_
    simpa using hip
  · refine yields_bind (yields_perform (hlookup _) fun _ => trivial) fun _ _ => ?_
    refine yields_bind yields_required fun ips _ => ?_
    refine yields_bind yields_check fun _ _ => ?_
    refine yields_bind yields_check fun _ hips => ?_
    exact yields_pure hips

theorem dialContext_yields (hlookup : ∀ host, ok (.LookupIPAddr host))
    (hconnect : ∀ ip, isDeniedIP ip = false → ok (.connect ip "443")) (addr : String) :
    Yields ok (fun _ => True) (dialContext std addr) := by
  have htarget : Yields ok (fun target => target.2 = "443") (parseAndValidateDialTarget std addr) := by
    unfold parseAndValidateDialTarget
    refine yields_bind yields_required fun _ _ => ?_
    refine yields_bind yields_check fun _ hport => ?_
    refine yields_bind (normalizeOutboundHost_yields std _) fun _ _ => ?_
    exact yields_pure hport
  unfold dialContext
  refine yields_bind htarget fun target hport => ?_
  obtain ⟨host, port⟩ := target
  obtain rfl : port = "443" := hport
  refine yields_bind (resolve_yields std hlookup host) fun ips hips => ?_
  exact dialResolvedIPs_yields (fun ip hip => hconnect _ ((isDeniedIP_Unmap ip).trans (hips ip hip))) _

/-- An `https` URL at its default port. -/
def Plain (u : URL) : Prop :=
  ToLower (TrimSpace u.Scheme) = "https" ∧ (TrimSpace (std.Port u) = "" ∨ TrimSpace (std.Port u) = "443")

/-- What the outbound client may do. -/
def ClientOk : Op → Prop
  | .connect ip port => isDeniedIP ip = false ∧ port = "443"
  | .send u => Plain std u
  | _ => True

theorem validate_yields (hlookup : ∀ host, ok (.LookupIPAddr host)) (u : URL) :
    Yields ok (fun _ => Plain std u) (validateOutboundURL std u) := by
  unfold validateOutboundURL
  refine yields_bind yields_check fun _ hscheme => ?_
  refine yields_bind yields_check fun _ hport => ?_
  refine yields_bind (normalizeOutboundHost_yields std _) fun host _ => ?_
  refine yields_bind (resolve_yields std hlookup host) fun _ _ => ?_
  exact yields_pure ⟨hscheme, hport⟩

theorem Do_only (u : URL) : Only (ClientOk std) (Do std u) := by
  suffices hyields : Yields (ClientOk std) (fun _ => True) (Do std u) from hyields.only
  have hdial : ∀ addr, Only (ClientOk std) (dialContext std addr) := fun addr =>
    (dialContext_yields std (fun _ => trivial) (fun _ hip => ⟨hip, rfl⟩) addr).only
  unfold Do
  refine yields_bind (validate_yields std (fun _ => trivial) u) fun _ hplain => ?_
  refine yields_bind (yields_of_only (roundTrip_only hdial hplain trivial)) fun answer _ => ?_
  split
  · exact yields_fail
  · exact yields_bind yields_checked fun _ _ => yields_pure trivial

theorem Do_sends (u : URL) : SendsAtMost 1 (Do std u) := by
  have hdial : ∀ addr, Only (fun o => o.sends = 0) (dialContext std addr) := fun addr =>
    (dialContext_yields std (fun _ => rfl) (fun _ _ => rfl) addr).only
  have hvalidate : SendsAtMost 0 (validateOutboundURL std u) :=
    sendsAtMost_of_only (validate_yields std (fun _ => rfl) u).only
  unfold Do
  refine hvalidate.andThen 1 (by omega) fun _ => ?_
  refine (roundTrip_sends hdial u).andThen 0 (by omega) fun answer => sendsAtMost_of_only ?_
  split
  · exact only_fail _
  · exact only_bind yields_checked.only fun _ => only_pure _

end Client

end LesserHost.Outbound
