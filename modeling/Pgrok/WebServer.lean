import Pgrok.Prog

/-!
# The web server's handlers

The handlers `startWebServer` registers (`pgrokd/cli/web_server.go`), each a `Prog` over
its calls, written in the order of the Go code:

* the `/api` group, behind a middleware that reads `userID` from the session and loads
  that principal: `GET /api/user-info`, `GET /api/tunnels`, `POST /api/tunnels`,
  `DELETE /api/tunnels/{id}` and `PATCH /api/tunnels/{id}`;
* `GET /api/identity-provider` and the health check, which call nothing;
* the OIDC login: `oidc/auth` stores a fresh nonce in the session and redirects to the
  provider, and `oidc/callback` checks the `state` parameter against the
  stored nonce, runs `handleOIDCCallback`, upserts the principal, creates a default tunnel
  for a principal that has none, and signs the session in; a deferred call deletes the
  nonce on every way out once the provider is known to be configured;
* `sign-out`.

The last four are the routes of the group the Go code mounts under a dash; they are
named here by their path in that group.

A handler that reads or writes the session takes it and returns it with its response.

## Honest scope

`NormalizeIdentifier`, `SHA1` and the `%q` verb of `fmt` are parameters (`Externals`);
the first two are not under `src/`. The JSON body of `PATCH` is given decoded: `none` when
the decoder fails, the `subdomain` field (empty when absent) otherwise. The static and Vite
routes, logging and the listener are not modelled; `c.Redirect` is the redirect response.
A `'%'` in the provider's `AuthURL` would be read by `Sprintf` as a verb; the model
concatenates.
-/

namespace Pgrok.Web

open Database

/-- `conf.IdentityProvider.FieldMapping`: the claims that carry each field. -/
structure FieldMapping where
  /-- `Identifier`. -/
  identifier : String
  /-- `DisplayName`. -/
  displayName : String
  /-- `Email`. -/
  email : String

/-- `conf.IdentityProvider` (not under `src/`): the fields the server reads. -/
structure IdentityProvider where
  /-- `DisplayName`. -/
  displayName : String
  /-- `Issuer`. -/
  issuer : String
  /-- `ClientID`. -/
  clientID : String
  /-- `FieldMapping`. -/
  fieldMapping : FieldMapping
  /-- `RequiredDomain`. -/
  requiredDomain : String

/-- `conf.Config` (not under `src/`): the fields the web server reads. -/
structure Config where
  /-- `ExternalURL`. -/
  externalURL : String
  /-- `Proxy.Scheme`. -/
  proxyScheme : String
  /-- `Proxy.Domain`. -/
  proxyDomain : String
  /-- `IdentityProvider`, nil when none is configured. -/
  identityProvider : Option IdentityProvider

/-- Functions the server calls whose code is not modelled: `userutil.NormalizeIdentifier`
(which may fail, with its error's text), `cryptoutil.SHA1`, and `fmt`'s `%q`. -/
structure Externals where
  /-- `userutil.NormalizeIdentifier`. -/
  normalizeIdentifier : String → Except String String
  /-- `cryptoutil.SHA1`. -/
  sha1 : String → String
  /-- `%q`. -/
  quote : String → String

/-- A value stored in a session (`interface{}`); the server stores an `int64` and a
`string`. -/
inductive SessionValue where
  /-- An `int64`. -/
  | int64 (v : Int)
  /-- A `string`. -/
  | string (s : String)
  deriving DecidableEq, Repr

/-- A browser's session (`session.Session`), at the keys the server uses. -/
structure Session where
  /-- The value under `"userID"`. -/
  userID : Option SessionValue
  /-- The value under `"oidc::nonce"`. -/
  nonce : Option SessionValue
  deriving DecidableEq, Repr

/-- A session with nothing stored. -/
def Session.empty : Session := ⟨none, none⟩

/-- `s.Get("userID").(int64)`, when the assertion holds. -/
def Session.userIDOf (s : Session) : Option Int :=
  match s.userID with
  | some (.int64 v) => some v
  | _ => none

/-- `nonce, _ := s.Get("oidc::nonce").(string)`: the empty string when the assertion fails. -/
def Session.nonceString (s : Session) : String :=
  match s.nonce with
  | some (.string n) => n
  | _ => ""

/-- An element of the list `GET /api/tunnels` returns: the tunnel and its URL. -/
structure TunnelResponse where
  /-- The embedded `*database.Tunnel`, token included. -/
  tunnel : Tunnel
  /-- `URL`. -/
  url : String

/-- What a handler writes. -/
inductive Response where
  /-- `r.PlainText(status, text)`. -/
  | plainText (status : Nat) (text : String)
  /-- `WriteHeader(status)` and no body. -/
  | status (code : Nat)
  /-- `r.JSON(status, resp)` of a list of tunnels. -/
  | tunnels (status : Nat) (list : List TunnelResponse)
  /-- `r.JSON(status, tunnel)`. -/
  | tunnel (status : Nat) (t : Tunnel)
  /-- `r.JSON(status, map[string]string{...})`. -/
  | fields (status : Nat) (kvs : List (String × String))
  /-- `c.Redirect(url)`. -/
  | redirect (url : String)

/-- The tunnel records a response carries. -/
def Response.tunnelsIn : Response → List Tunnel
  | .tunnels _ l => l.map (·.tunnel)
  | .tunnel _ t => [t]
  | _ => []

/-- A request the server routes. -/
inductive Route where
  /-- `GET /api/user-info`. -/
  | userInfo
  /-- `GET /api/tunnels`. -/
  | getTunnels
  /-- `POST /api/tunnels`. -/
  | postTunnels
  /-- `DELETE /api/tunnels/{id}`. -/
  | deleteTunnel (id : Bytes)
  /-- `PATCH /api/tunnels/{id}`, with its decoded body. -/
  | patchTunnel (id : Bytes) (body : Option String)
  /-- `GET /api/identity-provider`. -/
  | identityProvider
  /-- `GET healthcheck`. -/
  | healthcheck
  /-- `GET oidc/auth`. -/
  | oidcAuth
  /-- `GET oidc/callback?state=…&code=…`; a missing parameter reads as empty. -/
  | oidcCallback (state code : String)
  /-- `GET sign-out`. -/
  | signOut

/-- The routes of the `/api` group, behind its middleware. -/
def Route.isApi : Route → Bool
  | .userInfo | .getTunnels | .postTunnels | .deleteTunnel _ | .patchTunnel _ _ => true
  | _ => false

/-- `claims[k].(string)`, the empty string when absent or not a string. -/
def stringClaim (claims : List (String × ClaimValue)) (k : String) : String :=
  match claims.lookup k with
  | some (.string v) => v
  | _ => ""

/-- `idpUserInfo`. -/
structure IdpUserInfo where
  /-- `Identifier`. -/
  identifier : String
  /-- `DisplayName`. -/
  displayName : String

section Handlers

variable (cfg : Config) (ext : Externals)

/-- The `/api` middleware: `userID` from the session, positive, and the principal with
that id; `handler` runs with it. -/
def apiAuth (s : Session) (handler : Principal → Prog Response) : Prog Response := do
  match s.userIDOf with
  | none => return .status 401
  | some userID =>
    if userID ≤ 0 then return .status 401
    match ← Prog.query (.getPrincipalByID userID) with
    | .error err => return .plainText 500 ("Failed to get principle: " ++ err.msg)
    | .ok principle => handler principle

/-- `GET /api/user-info`. -/
def userInfo (principle : Principal) : Prog Response :=
  return .fields 200 [("displayName", principle.displayName)]

/-- The URL of a subdomain, `Proxy.Scheme + "://" + subdomain + "." + Proxy.Domain`. -/
def tunnelURL (subdomain : String) : String :=
  cfg.proxyScheme ++ "://" ++ subdomain ++ "." ++ cfg.proxyDomain

/-- `GET /api/tunnels`. -/
def getTunnels (principle : Principal) : Prog Response := do
  match ← Prog.query (.getTunnelsByPrincipalID principle.id) with
  | .error err => return .plainText 500 ("Failed to get tunnels: " ++ err.msg)
  | .ok tunnels => return .tunnels 200 (tunnels.map fun t => ⟨t, tunnelURL cfg t.subdomain⟩)

/-- `POST /api/tunnels`: a tunnel named after a random suffix, on the normalized
subdomain `<identifier before "@">-<suffix>`, with a random token. -/
def postTunnels (principle : Principal) : Prog Response := do
  let randomSuffix ← Prog.mustRandomChars 6
  let subdomain := (principle.identifier.splitOn "@").headD "" ++ "-" ++ randomSuffix
  match ext.normalizeIdentifier subdomain with
  | .error err => return .plainText 400 ("Invalid subdomain: " ++ err)
  | .ok normalizedSubdomain =>
    let token ← Prog.mustRandomChars 10
    let opts : CreateTunnelOptions :=
      { principalID := principle.id, name := "Tunnel " ++ randomSuffix, token := ext.sha1 token,
        subdomain := normalizedSubdomain }
    match ← Prog.query (.createTunnel opts) with
    | .error err => return .plainText 500 ("Failed to create tunnel: " ++ err.msg)
    | .ok tunnel => return .tunnel 200 tunnel

/-- `DELETE /api/tunnels/{id}`; `id, _ := strconv.ParseInt(c.Param("id"), 10, 64)`. -/
def deleteTunnel (principle : Principal) (idParam : Bytes) : Prog Response := do
  let id := (Strconv.parseInt idParam).1
  if id ≤ 0 then return .plainText 400 "Invalid tunnel ID"
  match ← Prog.query (.deleteTunnelByID id principle.id) with
  | .error err => return .plainText 500 ("Failed to delete tunnel: " ++ err.msg)
  | .ok _ => return .plainText 200 "OK"

/-- `PATCH /api/tunnels/{id}`: ownership is checked with `GetTunnelByID`, then the
subdomain is updated by id alone, in a separate call. -/
def patchTunnel (principle : Principal) (idParam : Bytes) (body : Option String) :
    Prog Response := do
  let id := (Strconv.parseInt idParam).1
  if id ≤ 0 then return .plainText 400 "Invalid tunnel ID"
  match body with
  | none => return .plainText 400 "Invalid request body"
  | some formSubdomain =>
    match ext.normalizeIdentifier formSubdomain with
    | .error err => return .plainText 400 ("Invalid subdomain: " ++ err)
    | .ok subdomain =>
      match ← Prog.query (.getTunnelByID id) with
      | .error _ => return .plainText 404 "Tunnel not found"
      | .ok t =>
        if t.principalID ≠ principle.id then return .plainText 403 "Access denied"
        match ← Prog.query (.updateTunnelSubdomain id subdomain) with
        | .error .subdomainTaken => return .plainText 409 "Subdomain is already taken"
        | .error err => return .plainText 500 ("Failed to update subdomain: " ++ err.msg)
        | .ok _ =>
          return .fields 200 [("subdomain", subdomain), ("url", tunnelURL cfg subdomain)]

/-- `GET /api/identity-provider`. -/
def identityProviderInfo : Response :=
  match cfg.identityProvider with
  | none => .fields 500 [("error", "No identity provider is configured, please ask your " ++
      "admin to configure an identity provider.")]
  | some idp => .fields 200 [("displayName", idp.displayName), ("authURL", "/-/oidc/auth")]

/-- The text of both OIDC handlers when no provider is configured. -/
def noProviderText : String :=
  "Sorry but ask your admin to configure an identity provider first"

/-- `GET oidc/auth`: a fresh nonce, stored under `oidc::nonce` and sent as `state` and
`nonce`. -/
def oidcAuth (s : Session) : Prog (Response × Session) := do
  match cfg.identityProvider with
  | none => return (.plainText 400 noProviderText, s)
  | some idp =>
    match ← Prog.idp (.newProvider idp.issuer) with
    | .error err => return (.plainText 500 ("Failed to create new provider: " ++ err), s)
    | .ok p =>
      let nonce ← Prog.mustRandomChars 10
      let s := { s with nonce := some (.string nonce) }
      return (.redirect (p.authURL ++ "?client_id=" ++ idp.clientID ++ "&redirect_uri=" ++
        cfg.externalURL ++ "/-/oidc/callback" ++ "&state=" ++ nonce ++ "&nonce=" ++ nonce ++
        "&response_type=code&scope=openid+profile+email&hd=" ++ idp.requiredDomain), s)

/-- `handleOIDCCallback`: exchange the code, verify the ID token and its nonce, fetch the
claims and map them. -/
def handleOIDCCallback (idp : IdentityProvider) (code nonce : String) :
    Prog (Except String IdpUserInfo) := do
  match ← Prog.idp (.newProvider idp.issuer) with
  | .error err => return .error ("create new provider: " ++ err)
  | .ok _ =>
  match ← Prog.idp (.exchange code) with
  | .error err => return .error ("exchange token: " ++ err)
  | .ok token =>
  match token.idToken with
  | none => return .error "missing \"id_token\" from the issuer's authorization response"
  | some rawIDToken =>
  match ← Prog.idp (.verify rawIDToken) with
  | .error err => return .error ("verify raw ID Token: " ++ err)
  | .ok idToken =>
  if nonce ≠ idToken.nonce then
    return .error ("mismatched nonce, want " ++ ext.quote nonce ++ " but got " ++
      ext.quote idToken.nonce)
  match ← Prog.idp (.userInfo token) with
  | .error err => return .error ("fetch user info: " ++ err)
  | .ok rawUserInfo =>
  match rawUserInfo.claims with
  | .error err => return .error ("unmarshal claims: " ++ err)
  | .ok claims =>
  let identifier := stringClaim claims idp.fieldMapping.identifier
  if identifier = "" then
    return .error ("the field " ++ ext.quote idp.fieldMapping.identifier ++
      " is not found in claims or has empty value")
  let displayName :=
    if idp.fieldMapping.displayName ≠ "" then stringClaim claims idp.fieldMapping.displayName
    else ""
  let displayName := if displayName = "" then identifier else displayName
  if idp.requiredDomain ≠ "" then
    let email := stringClaim claims idp.fieldMapping.email
    if !email.endsWith ("@" ++ idp.requiredDomain) then
      return .error ("the email " ++ ext.quote email ++ " does not have required domain " ++
        ext.quote idp.requiredDomain)
  return .ok ⟨identifier, displayName⟩

/-- The default tunnel of `oidc/callback`, for a principal without tunnels. -/
def createDefaultTunnel (principle : Principal) (identifier : String) :
    Prog (Option Response) := do
  match ext.normalizeIdentifier identifier with
  | .error err => return some (.plainText 400 ("Failed to normalize identifier: " ++ err))
  | .ok subdomain =>
    let token ← Prog.mustRandomChars 10
    let opts : CreateTunnelOptions :=
      { principalID := principle.id, name := "Default", token := ext.sha1 token,
        subdomain := subdomain }
    match ← Prog.query (.createTunnel opts) with
    | .error err => return some (.plainText 500 ("Failed to create default tunnel: " ++ err.msg))
    | .ok _ => return none

/-- `oidc/callback` after the deferred deletion of the nonce is registered. -/
def callbackBody (idp : IdentityProvider) (s : Session) (state code : String) :
    Prog (Response × Session) := do
  let nonce := s.nonceString
  if nonce ≠ state then
    return (.plainText 400 ("mismatched state, want " ++ ext.quote nonce ++ " but got " ++
      ext.quote state), s)
  match ← handleOIDCCallback ext idp code nonce with
  | .error err => return (.plainText 500 ("Failed to handle callback: " ++ err), s)
  | .ok userInfo =>
  match ← Prog.query (.upsertPrincipal ⟨userInfo.identifier, userInfo.displayName⟩) with
  | .error err => return (.plainText 500 ("Failed to upsert principle: " ++ err.msg), s)
  | .ok principle =>
  match ← Prog.query (.getTunnelsByPrincipalID principle.id) with
  | .error err => return (.plainText 500 ("Failed to get tunnels: " ++ err.msg), s)
  | .ok tunnels =>
  let failed ← if tunnels.length = 0 then createDefaultTunnel ext principle userInfo.identifier
    else pure none
  match failed with
  | some resp => return (resp, s)
  | none => return (.redirect "/", { s with userID := some (.int64 principle.id) })

/-- `GET oidc/callback`. -/
def oidcCallback (s : Session) (state code : String) : Prog (Response × Session) := do
  match cfg.identityProvider with
  | none => return (.plainText 400 noProviderText, s)
  | some idp =>
    let (resp, s) ← callbackBody ext idp s state code
    return (resp, { s with nonce := none })

/-- The server: the handler of a route, with the session of the request. -/
def serve (s : Session) : Route → Prog (Response × Session)
  | .userInfo => (·, s) <$> apiAuth s userInfo
  | .getTunnels => (·, s) <$> apiAuth s (getTunnels cfg)
  | .postTunnels => (·, s) <$> apiAuth s (postTunnels ext)
  | .deleteTunnel id => (·, s) <$> apiAuth s (deleteTunnel · id)
  | .patchTunnel id body => (·, s) <$> apiAuth s (patchTunnel cfg ext · id body)
  | .identityProvider => return (identityProviderInfo cfg, s)
  | .healthcheck => return (.plainText 200 "OK", s)
  | .oidcAuth => oidcAuth cfg s
  | .oidcCallback state code => oidcCallback cfg ext s state code
  | .signOut => return (.redirect "/", { s with userID := none })

end Handlers

end Pgrok.Web
