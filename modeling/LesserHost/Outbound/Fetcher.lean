import LesserHost.Go.Bytes
import LesserHost.Go.Text
import LesserHost.Lib.Program
import LesserHost.Outbound.Addresses

set_option autoImplicit false

/-! # Fetching what others name

`trust/preview_fetcher.go` fetches a page that a user has linked, and follows its redirects.
`outboundhttp/ssrf_client.go` makes one request to a host that an operator has named. Both check the URL before
the request and check the address again when the transport dials.

What answers is the environment: the resolver, the transport, which may dial any addresses for a request, and
the servers. The functions of Go's library on texts and URLs are a parameter (`Std`), of which nothing is
assumed. -/

namespace LesserHost.Outbound

open LesserHost.Go

structure URL where
  Scheme : String
  User : Option String
  Host : String
  Path : String
  RawQuery : String
  Fragment : String
  deriving DecidableEq

structure Std where
  Parse : String → Option URL
  /-- `URL.String` -/
  text : URL → String
  ResolveReference : URL → URL → URL
  Hostname : URL → String
  Port : URL → String
  /-- `idna.Lookup.ToASCII` -/
  ToASCII : String → Option String
  /-- `path.Clean` -/
  Clean : String → String
  /-- `u.Query().Encode()` of a raw query -/
  encodeQuery : String → String
  ParseIP : String → Option IP
  SplitHostPort : String → Option (String × String)

structure Response where
  StatusCode : Nat
  Location : String
  /-- none where the body cannot be read -/
  Body : Option Bytes

inductive FetchError where
  | linkPreview (Code Message : String)
  | other (text : String)

inductive Op where
  | LookupIPAddr (host : String)
  /-- open a TCP connection -/
  | connect (ip : IP) (port : String)
  /-- send a request for a URL: the transport chooses the addresses it dials -/
  | send (u : URL)
  /-- what the transport returns for it -/
  | response

def Op.Res : Op → Type
  | .LookupIPAddr _ => Option (List IP)
  | .connect _ _ => Option String
  | .send _ => List String
  | .response => Except FetchError Response

abbrev Fetch := Prog Op Op.Res FetchError

def invalidURL (message : String) : FetchError := .linkPreview "invalid_url" message

def blockedSSRF (message : String) : FetchError := .linkPreview "blocked_ssrf" message

def fetchFailed (message : String) : FetchError := .linkPreview "fetch_failed" message

def check (c : Prop) [Decidable c] (e : FetchError) : Fetch Unit := if c then pure () else Prog.fail e

def required {α : Type} (x : Option α) (e : FetchError) : Fetch α :=
  match x with
  | some a => pure a
  | none => Prog.fail e

/-- Go on with what a program returns or fails with. -/
def attempt {α : Type} : Fetch α → Fetch (Except FetchError α)
  | .ret a => .ret (.ok a)
  | .fail e => .ret (.error e)
  | .op o k => .op o fun r => attempt (k r)

variable (std : Std)

/-! ## Links in normal form -/

def canonicalizeLinkSchemeAndUserinfo (u : URL) : Fetch URL := do
  let u := { u with Scheme := ToLower (TrimSpace u.Scheme) }
  check (u.Scheme = "http" ∨ u.Scheme = "https") (invalidURL "url scheme must be http or https")
  check (u.User = none) (invalidURL "url must not include userinfo")
  return u

def defaultPortForScheme (scheme : String) : Int :=
  if ToLower (TrimSpace scheme) = "http" then 80
  else if ToLower (TrimSpace scheme) = "https" then 443
  else 0

def validateDefaultPort (u : URL) : Fetch Unit :=
  if TrimSpace (std.Port u) = "" then pure ()
  else do
    let n ← required (Atoi (bytes (TrimSpace (std.Port u)))) (invalidURL "invalid port")
    check (0 < n ∧ n ≤ 65535) (invalidURL "invalid port")
    check (defaultPortForScheme u.Scheme ≠ 0 ∧ n = defaultPortForScheme u.Scheme)
      (invalidURL "non-default ports are not allowed")

def canonicalizeLinkHostAndPort (u : URL) : Fetch URL := do
  let host := TrimSpace (std.Hostname u)
  check (host ≠ "") (invalidURL "url host is required")
  let asciiHost ← required (std.ToASCII host) (invalidURL "invalid host")
  let asciiHost := ToLower (TrimSpace asciiHost)
  check (asciiHost ≠ "") (invalidURL "invalid host")
  validateDefaultPort std u
  return { u with Host := asciiHost }

def canonicalizeLinkPathQuery (u : URL) : URL :=
  let path := std.Clean (if u.Path = "" then "/" else u.Path)
  { u with
    Path := if HasPrefix path "/" then path else "/" ++ path
    RawQuery := if u.RawQuery ≠ "" then std.encodeQuery u.RawQuery else u.RawQuery }

def normalizeLinkURL (raw : String) : Fetch URL := do
  let raw := TrimSpace raw
  check (raw ≠ "") (invalidURL "url is required")
  let u ← required (std.Parse raw) (invalidURL "invalid url")
  let u ← canonicalizeLinkSchemeAndUserinfo u
  let u ← canonicalizeLinkHostAndPort std u
  return { canonicalizeLinkPathQuery std u with Fragment := "" }

/-! ## Hosts and addresses -/

def isDeniedHostname (host : String) : Bool :=
  let host := ToLower (TrimSpace host)
  host == "localhost" || HasSuffix host ".localhost" || HasSuffix host ".local" || HasSuffix host ".internal"

def resolveHostIPs (host : String) : Fetch (List IP) := do
  let answer ← Prog.perform (Op.LookupIPAddr host)
  let ips ← required answer (blockedSSRF "failed to resolve host")
  check (ips ≠ []) (blockedSSRF "host did not resolve")
  return ips

def validateOutboundURL (u : URL) : Fetch Unit := do
  check (ToLower (TrimSpace u.Scheme) = "http" ∨ ToLower (TrimSpace u.Scheme) = "https")
    (invalidURL "url scheme must be http or https")
  let host := ToLower (TrimSpace (std.Hostname u))
  check (host ≠ "") (invalidURL "url host is required")
  check (isDeniedHostname host = false) (blockedSSRF "host is not allowed")
  match std.ParseIP host with
  | some ip => check (isDeniedIP ip = false) (blockedSSRF "ip is not allowed")
  | none => do
      let ips ← resolveHostIPs host
      check (∀ ip ∈ ips, isDeniedIP ip = false) (blockedSSRF "host resolves to a blocked ip")

/-! ## Dialing -/

/-- `dialer.DialContext` of the text of an address connects to the address in its short form. -/
def dialIP (ip : IP) (port : String) : Fetch (Option String) := Prog.perform (Op.connect (Unmap ip) port)

/-- The first of the addresses that takes the connection. -/
def dialResolvedIPs (port : String) : String → List IP → Fetch Unit
  | lastErr, [] => Prog.fail (.other lastErr)
  | _, ip :: ips => do
      match ← dialIP ip port with
      | none => return ()
      | some dialErr => dialResolvedIPs port dialErr ips

def parseAndValidateDialTarget (addr : String) : Fetch (String × String) := do
  let (host, port) ← required (std.SplitHostPort addr) (.other "split host port")
  let host := ToLower (TrimSpace host)
  let port := TrimSpace port
  check (host ≠ "") (invalidURL "url host is required")
  check (port = "80" ∨ port = "443") (invalidURL "non-default ports are not allowed")
  check (isDeniedHostname host = false) (blockedSSRF "host is not allowed")
  return (host, port)

def dialSSRFProtected (addr : String) : Fetch Unit := do
  let (host, port) ← parseAndValidateDialTarget std addr
  match std.ParseIP host with
  | some ip => do
      check (isDeniedIP ip = false) (blockedSSRF "ip is not allowed")
      dialResolvedIPs port "" [ip]
  | none => do
      let ips ← resolveHostIPs host
      check (∀ ip ∈ ips, isDeniedIP ip = false) (blockedSSRF "host resolves to a blocked ip")
      dialResolvedIPs port "" ips

/-- The transport dials, in whatever order, and makes of the failures what it likes. -/
def dialAll (dial : String → Fetch Unit) : List String → Fetch Unit
  | [] => return ()
  | addr :: addrs => do
      let _ ← attempt (dial addr)
      dialAll dial addrs

/-- A round trip of the transport. -/
def roundTrip (dial : String → Fetch Unit) (u : URL) : Fetch (Except FetchError Response) := do
  let addrs ← Prog.perform (Op.send u)
  dialAll dial addrs
  Prog.perform Op.response

/-! ## The preview fetcher -/

def isRedirectStatus (status : Nat) : Bool := [301, 302, 303, 307, 308].contains status

def followRedirect (current : URL) (location : String) : Fetch URL := do
  let loc := TrimSpace location
  check (loc ≠ "") (fetchFailed "redirect missing location")
  let locURL ← required (std.Parse loc) (fetchFailed "invalid redirect location")
  normalizeLinkURL std (std.text (std.ResolveReference current locURL))

def readBodyLimit (body : Option Bytes) (maxBytes : Nat) : Fetch Bytes := do
  check (0 < maxBytes) (.linkPreview "internal" "invalid read limit")
  let buf ← required body (fetchFailed "read failed")
  check (buf.length ≤ maxBytes) (.linkPreview "too_large" "response too large")
  return buf

/-- A pass of the loop: the next URL, or the body. -/
def fetchHop (maxBytes : Nat) (current : URL) : Fetch (URL ⊕ Bytes) := do
  validateOutboundURL std current
  let _ ← required (std.Parse (std.text current)) (invalidURL "invalid url")
  match ← roundTrip (dialSSRFProtected std) current with
  | .error (.linkPreview code message) => Prog.fail (.linkPreview code message)
  | .error (.other _) => Prog.fail (fetchFailed "fetch failed")
  | .ok resp =>
      if isRedirectStatus resp.StatusCode then do
        let next ← followRedirect std current resp.Location
        return .inl next
      else do
        let body ← readBodyLimit resp.Body maxBytes
        return .inr body

/-- The loop, with the redirects that are left. -/
def fetchWithRedirects (maxBytes : Nat) : Nat → URL → Fetch (URL × Bytes)
  | 0, current => do
      match ← fetchHop std maxBytes current with
      | .inr body => return (current, body)
      | .inl _ => Prog.fail (fetchFailed "too many redirects")
  | redirects + 1, current => do
      match ← fetchHop std maxBytes current with
      | .inr body => return (current, body)
      | .inl next => fetchWithRedirects maxBytes redirects next

def linkPreviewMaxRedirects : Nat := 5

def linkPreviewMaxHTMLBytes : Nat := 1024 * 1024

def linkPreviewMaxImageBytes : Nat := 5 * 1024 * 1024

/-- What the fetch of a page and of its image do with their link. -/
def fetchLink (maxBytes : Nat) (rawURL : String) : Fetch (URL × Bytes) := do
  let u ← normalizeLinkURL std rawURL
  validateOutboundURL std u
  fetchWithRedirects std maxBytes linkPreviewMaxRedirects u

def fetchLinkPreview (rawURL : String) : Fetch (URL × Bytes) := fetchLink std linkPreviewMaxHTMLBytes rawURL

def tryStorePreviewImage (rawImageURL : String) : Fetch (URL × Bytes) :=
  fetchLink std linkPreviewMaxImageBytes rawImageURL

/-! ## The outbound client -/

namespace Client

def normalizeOutboundHost (host : String) : Fetch String := do
  let host := TrimSpace host
  check (host ≠ "") (.other "host is required")
  let host :=
    if ContainsAny host ":" then
      match std.SplitHostPort host with
      | some (h, _) => h
      | none => host
    else host
  let host := ToLower (TrimSpace (Trim host "[]"))
  check (host ≠ "") (.other "host is required")
  check (¬ (host = "localhost" ∨ HasSuffix host ".localhost" = true ∨ HasSuffix host ".local" = true ∨
    HasSuffix host ".internal" = true)) (.other "host is not allowed")
  return host

def resolveAndValidateOutboundHostIPs (host : String) : Fetch (List IP) := do
  let normalized ← normalizeOutboundHost std host
  match std.ParseIP normalized with
  | some ip => do
      check (isDeniedIP ip = false) (.other "ip is not allowed")
      return [ip]
  | none => do
      let answer ← Prog.perform (Op.LookupIPAddr normalized)
      let ips ← required answer (.other "failed to resolve host")
      check (ips ≠ []) (.other "failed to resolve host")
      check (∀ ip ∈ ips, isDeniedIP ip = false) (.other "host resolves to blocked ip")
      return ips

def portNotAllowed (port : String) : FetchError := .other ("port " ++ Quote port ++ " is not allowed")

def validateOutboundURL (u : URL) : Fetch Unit := do
  check (ToLower (TrimSpace u.Scheme) = "https") (.other "url scheme must be https")
  check (TrimSpace (std.Port u) = "" ∨ TrimSpace (std.Port u) = "443")
    (portNotAllowed (TrimSpace (std.Port u)))
  let host ← normalizeOutboundHost std (std.Hostname u)
  let _ ← resolveAndValidateOutboundHostIPs std host

def parseAndValidateDialTarget (addr : String) : Fetch (String × String) := do
  let (host, port) ← required (std.SplitHostPort addr) (.other "split host port")
  let port := TrimSpace port
  check (port = "443") (portNotAllowed port)
  let host ← normalizeOutboundHost std host
  return (host, port)

/-- `newSSRFProtectedDialContext`. -/
def dialContext (addr : String) : Fetch Unit := do
  let (host, port) ← parseAndValidateDialTarget std addr
  let ips ← resolveAndValidateOutboundHostIPs std host
  dialResolvedIPs port "host did not resolve" ips

/-- A request of the client that `NewSSRFProtectedClient` makes without a transport of its caller. The
    `http.Client` asks before it follows a redirect, and is told not to. -/
def Do (u : URL) : Fetch Response := do
  validateOutboundURL std u
  match ← roundTrip (dialContext std) u with
  | .error e => Prog.fail e
  | .ok resp =>
      check (¬ (isRedirectStatus resp.StatusCode = true ∧ resp.Location ≠ "")) (.other "redirects not allowed")
      return resp

end Client

end LesserHost.Outbound
