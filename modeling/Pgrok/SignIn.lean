import Pgrok.WebServer
import Pgrok.Principals

/-!
# What a sign-in rests on

The rules of this module see a request's whole past: the calls it has made with their
answers (`Rules.ofLog`). Over that log they say two things of every handler.

The OIDC callback signs a session in only on the strength of its answers (`SignInEnd`): the
code was exchanged for a token, the ID token that came with it was verified and carries the
session's nonce, the claims fetched with the token hold a non-empty identifier under the
configured claim and, when a domain is required, an email in it (`Verified`); and the
session's `userID` is the id of the principal `UpsertPrincipal` returned for that identifier.
On every other way out the session's `userID` stays as it was, and the response is an error
text.

A tunnel is created only for a principal the request has read from the store
(`CreatesForRead`): `POST /api/tunnels` for the principal the middleware loaded, the default
tunnel of the callback for the principal it upserted.

## What is proved

* `handleOIDCCallback_verified` — every user info `handleOIDCCallback` returns is `Verified`
  by the answers it got.
* `oidcCallback_signIn` — the callback ends as `SignInEnd` says, and keeps `CreatesForRead`.
* `serve_owned` — every handler keeps `CreatesForRead`.
-/

namespace Pgrok.Web

open Database

/-- The request has read principal `pid` from the store. -/
def Read (log : List Entry) (pid : Int) : Prop :=
  ∃ e ∈ log, ∃ p, principalOf e.1 e.2 = some p ∧ p.id = pid

theorem Read.append {log : List Entry} {pid : Int} (h : Read log pid) (l : List Entry) :
    Read (log ++ l) pid :=
  let ⟨e, he, hp⟩ := h
  ⟨e, List.mem_append_left _ he, hp⟩

/-- A tunnel is created only for a principal the request has read. -/
def CreatesForRead (log : List Entry) : Call → Prop
  | .db (.createTunnel o) => Read log o.principalID
  | _ => True

/-- The rules of a request over what it has seen. -/
def ownerRules : Rules (List Entry) := Rules.ofLog CreatesForRead

/-- What the provider's answers in `log` vouch for about `info`, the result of
`handleOIDCCallback idp code nonce`. -/
inductive Verified (idp : IdentityProvider) (code nonce : String) (log : List Entry)
    (info : IdpUserInfo) : Prop where
  | intro (token : Token) (rawIDToken : String) (idToken : IDToken)
      (claims : List (String × ClaimValue))
      (exchanged : (⟨.idp (.exchange code), .ok token⟩ : Entry) ∈ log)
      (withIDToken : token.idToken = some rawIDToken)
      (verified : (⟨.idp (.verify rawIDToken), .ok idToken⟩ : Entry) ∈ log)
      (nonce_eq : idToken.nonce = nonce)
      (fetched : (⟨.idp (.userInfo token), .ok ⟨.ok claims⟩⟩ : Entry) ∈ log)
      (identifier_eq : info.identifier = stringClaim claims idp.fieldMapping.identifier)
      (identifier_ne : info.identifier ≠ "")
      (inDomain : idp.requiredDomain ≠ "" →
        (stringClaim claims idp.fieldMapping.email).endsWith ("@" ++ idp.requiredDomain) = true)

theorem Verified.mono {idp : IdentityProvider} {code nonce : String} {log log' : List Entry}
    {info : IdpUserInfo} (h : log ⊆ log') : Verified idp code nonce log info →
      Verified idp code nonce log' info
  | ⟨token, raw, idToken, claims, he, hraw, hv, hn, hf, hid, hne, hdom⟩ =>
    ⟨token, raw, idToken, claims, h he, hraw, h hv, hn, h hf, hid, hne, hdom⟩

/-- How the callback of session `s` may end, given its answers `log`: with an error text and
`userID` as it was, or redirected to `/` and signed in as the principal `UpsertPrincipal`
returned for an identifier the provider verified, `state` being the session's nonce. -/
def SignInEnd (cfg : Config) (s : Session) (state code : String) (log : List Entry)
    (r : Response × Session) : Prop :=
  ((∃ status text, r.1 = .plainText status text) ∧ r.2.userID = s.userID) ∨
  ∃ idp info p, cfg.identityProvider = some idp ∧ r.1 = .redirect "/" ∧
    r.2.userID = some (.int64 p.id) ∧ state = s.nonceString ∧ Verified idp code state log info ∧
    (⟨.db (.upsertPrincipal ⟨info.identifier, info.displayName⟩), .ok p⟩ : Entry) ∈ log

theorem signInEnd_error (cfg : Config) (s : Session) (state code : String) (log : List Entry)
    (status : Nat) (text : String) : SignInEnd cfg s state code log (.plainText status text, s) :=
  .inl ⟨⟨status, text, rfl⟩, rfl⟩

section Handlers

variable (cfg : Config) (ext : Externals)

/-- Every user info `handleOIDCCallback` returns is verified by the answers it got, under any
rules that allow the calls to the provider. -/
theorem handleOIDCCallback_verified {A : List Entry → Call → Prop}
    (hidp : ∀ log c, A log (.idp c)) (idp : IdentityProvider) (code nonce : String)
    (log : List Entry) :
    Guarded (Rules.ofLog A) (fun log r => ∀ info, r = .ok info → Verified idp code nonce log info)
      log (handleOIDCCallback ext idp code nonce) := by
  unfold handleOIDCCallback
  refine .call (hidp _ _) fun a _ => ?_
  rcases a with _ | _
  · exact .pure fun _ h => nomatch h
  refine .call (hidp _ _) fun a _ => ?_
  rcases a with _ | ⟨access, _ | raw⟩
  · exact .pure fun _ h => nomatch h
  · exact .pure fun _ h => nomatch h
  refine .call (hidp _ _) fun a _ => ?_
  rcases a with _ | idToken
  · exact .pure fun _ h => nomatch h
  refine Guarded.ite (fun _ => .pure fun _ h => nomatch h) fun hnonce => ?_
  refine .call (hidp _ _) fun a _ => ?_
  rcases a with _ | ⟨_ | claims⟩
  · exact .pure fun _ h => nomatch h
  · exact .pure fun _ h => nomatch h
  refine Guarded.ite (fun _ => .pure fun _ h => nomatch h) fun hid => ?_
  -- the user info is returned after the domain check, or with no domain required
  have hverified : ∀ info : IdpUserInfo, info.identifier = stringClaim claims idp.fieldMapping.identifier →
      (idp.requiredDomain ≠ "" →
        (stringClaim claims idp.fieldMapping.email).endsWith ("@" ++ idp.requiredDomain) = true) →
      Verified idp code nonce (log ++ [⟨.idp (.newProvider idp.issuer), .ok ‹_›⟩] ++
        [⟨.idp (.exchange code), .ok ⟨access, some raw⟩⟩] ++ [⟨.idp (.verify raw), .ok idToken⟩] ++
        [⟨.idp (.userInfo ⟨access, some raw⟩), .ok ⟨.ok claims⟩⟩]) info :=
    fun info hinfo hdom =>
      ⟨⟨access, some raw⟩, raw, idToken, claims, by simp, rfl, by simp, (not_not.1 hnonce).symm,
        by simp, hinfo,
        hinfo ▸ hid, hdom⟩
  refine Guarded.ite (fun _ => Guarded.ite (fun _ => .pure fun _ h => nomatch h) fun hmail => ?_)
    fun hdom => .pure fun info h => hverified info (by cases h; rfl) fun hne => absurd hne hdom
  exact .pure fun info h => hverified info (by cases h; rfl) fun _ => by simpa using hmail

/-- The default tunnel is created for the principal the callback upserted, and its failure is
an error text. -/
theorem createDefaultTunnel_owned (p : Principal) (identifier : String) {log : List Entry}
    (hp : Read log p.id) :
    Guarded ownerRules (fun _ r => ∀ resp, r = some resp → ∃ status text, resp = .plainText status text)
      log (createDefaultTunnel ext p identifier) := by
  unfold createDefaultTunnel
  split
  · exact .pure fun _ h => ⟨_, _, (Option.some.inj h).symm⟩
  refine .call trivial fun _ _ => .call (hp.append _) fun a _ => ?_
  rcases a with _ | _
  · exact .pure fun _ h => ⟨_, _, (Option.some.inj h).symm⟩
  · exact .pure fun _ h => nomatch h

theorem callbackBody_signIn {idp : IdentityProvider} (hidp : cfg.identityProvider = some idp)
    (s : Session) (state code : String) (log : List Entry) :
    Guarded ownerRules (SignInEnd cfg s state code) log (callbackBody ext idp s state code) := by
  unfold callbackBody
  dsimp only
  refine Guarded.ite (fun _ => .pure (signInEnd_error ..)) fun hstate => ?_
  obtain rfl : s.nonceString = state := not_not.1 hstate
  refine (handleOIDCCallback_verified ext (fun _ _ => trivial) idp code _ log).bind
    fun log₁ r hr => ?_
  rcases r with e | info
  · exact .pure (signInEnd_error ..)
  refine .call trivial fun a _ => ?_
  rcases a with e | p
  · exact .pure (signInEnd_error ..)
  refine .call trivial fun a _ => ?_
  rcases a with e | ts
  · exact .pure (signInEnd_error ..)
  -- the session is signed in on any log that extends the one after the upsert
  have hsigned : ∀ log', log₁ ++ [⟨.db (.upsertPrincipal ⟨info.identifier, info.displayName⟩), .ok p⟩] ++
      [⟨.db (.getTunnelsByPrincipalID p.id), .ok ts⟩] <+: log' →
      SignInEnd cfg s s.nonceString code log' (.redirect "/", { s with userID := some (.int64 p.id) }) :=
    fun log' hpre => .inr ⟨idp, info, p, hidp, rfl, rfl, rfl,
      (hr info rfl).mono fun e he => hpre.subset (by simp [he]), hpre.subset (by simp)⟩
  dsimp only [Prog.bind]
  split
  · refine (createDefaultTunnel_owned ext p _ ?_).grows.bind fun log' r ⟨hpre, hr'⟩ => ?_
    · exact ⟨_, List.mem_append_left _ (List.mem_append_right _ (List.mem_singleton_self _)), p, rfl,
        rfl⟩
    rcases r with _ | resp
    · exact .pure (hsigned _ hpre)
    · obtain ⟨status, text, rfl⟩ := hr' _ rfl
      exact .pure (signInEnd_error ..)
  · exact .pure (hsigned _ (List.prefix_refl _))

/-- **The callback signs in only on verified answers**, and creates tunnels only for the
principal it upserted. -/
theorem oidcCallback_signIn (s : Session) (state code : String) (log : List Entry) :
    Guarded ownerRules (SignInEnd cfg s state code) log (oidcCallback cfg ext s state code) := by
  unfold oidcCallback
  split
  · exact .pure (signInEnd_error ..)
  · exact (callbackBody_signIn cfg ext ‹_› s state code log).bind fun _ r hr => .pure hr

/-- The guarantee of a handler of the `/api` group, given a principal the request has read. -/
def ApiOwned (h : Principal → Prog Response) : Prop :=
  ∀ p log, Read log p.id → Guarded ownerRules (fun _ _ => True) log (h p)

theorem apiAuth_owned {h : Principal → Prog Response} (hh : ApiOwned h) (s : Session)
    (log : List Entry) : Guarded ownerRules (fun _ _ => True) log (apiAuth s h) := by
  unfold apiAuth
  split
  · exact .pure trivial
  split
  · exact .pure trivial
  refine .call trivial fun a _ => ?_
  rcases a with e | p
  · exact .pure trivial
  · exact hh p _ ⟨_, List.mem_append_right _ (List.mem_singleton_self _), p, rfl, rfl⟩

theorem postTunnels_owned : ApiOwned (postTunnels ext) := by
  intro p log hp
  refine .call trivial fun suffix _ => ?_
  dsimp only [Prog.bind]
  split
  · exact .pure trivial
  · refine .call trivial fun token _ => .call ((hp.append _).append _) fun a _ => ?_
    rcases a with _ | _ <;> exact .pure trivial

theorem patchTunnel_owned (idParam : Bytes) (body : Option String) :
    ApiOwned (patchTunnel cfg ext · idParam body) := by
  intro p log _
  unfold patchTunnel
  refine Guarded.ite (fun _ => .pure trivial) fun _ => ?_
  rcases body with _ | form
  · exact .pure trivial
  dsimp only [Prog.pure_eq, Prog.pure_bind]
  rcases ext.normalizeIdentifier form with err | sub
  · exact .pure trivial
  refine .call trivial fun a _ => ?_
  rcases a with e | t
  · exact .pure trivial
  refine Guarded.ite (fun _ => .pure trivial) fun _ => .call trivial fun a _ => ?_
  rcases a with (_ | _ | _ | _) | _ <;> exact .pure trivial

/-- Every handler creates tunnels only for principals its request has read. -/
theorem serve_owned (s : Session) (route : Route) :
    Guarded ownerRules (fun _ _ => True) [] (serve cfg ext s route) := by
  have api : ∀ {h : Principal → Prog Response}, ApiOwned h →
      Guarded ownerRules (fun _ _ => True) [] ((·, s) <$> apiAuth s h) :=
    fun hh => (apiAuth_owned hh s []).bind fun _ _ _ => .pure trivial
  cases route with
  | userInfo => exact api fun _ _ _ => .pure trivial
  | getTunnels =>
    exact api fun _ _ _ => .call trivial fun a _ => by rcases a with _ | _ <;> exact .pure trivial
  | postTunnels => exact api (postTunnels_owned ext)
  | deleteTunnel id =>
    refine api fun _ _ _ => ?_
    dsimp only [deleteTunnel]
    split
    · exact .pure trivial
    · exact .call trivial fun a _ => by rcases a with _ | _ <;> exact .pure trivial
  | patchTunnel id body => exact api (patchTunnel_owned cfg ext id body)
  | oidcAuth =>
    change Guarded ownerRules _ [] (oidcAuth cfg s)
    unfold oidcAuth
    split
    · exact .pure trivial
    refine .call trivial fun a _ => ?_
    rcases a with _ | _
    · exact .pure trivial
    · exact .call trivial fun _ _ => .pure trivial
  | oidcCallback state code => exact (oidcCallback_signIn cfg ext s state code []).mono fun _ _ _ => trivial
  | _ => exact .pure trivial

end Handlers

end Pgrok.Web
