import Pgrok.Discipline

/-!
# One browser session's login

The OIDC login, seen from one browser session: the requests the session makes one after
another, each run to its end (`SessionRun`), whatever the identity provider answers and
whatever other sessions do to the store in between.

`SessionEffect` says, for every route, what a request can do to the session. Only
`oidc/auth` stores a nonce, a fresh one; `oidc/callback` deletes it on every way out once a
provider is configured (the deferred `s.Delete`); only `sign-out` deletes `userID`; and only
`oidc/callback` sets it, when its `state` parameter equals the stored nonce as the handler
reads it, `nonce, _ := s.Get("oidc::nonce").(string)`. That reading is the empty string when
no nonce is stored, and a missing `state` parameter reads as the empty string too.

## What is proved

* `serve_sessionEffect`: every run of every handler changes the session only as
  `SessionEffect` says.
* `SessionRun.nonce_stored`: a nonce a session holds was stored by an `oidc/auth` of the
  session and kept by every request since, or was there at the start.
* `callback_sign_in_state`: in a session that started empty, a callback that changes
  `userID` either carries as `state` a nonce an earlier `oidc/auth` stored and no request
  removed since, or finds no nonce and carries an empty `state`.
* `oidcCallback_signs_in_without_nonce`: the second case happens. A fresh session whose
  first request is the callback with no `state`, for a code whose ID token carries no
  nonce, is signed in.

Runs of the whole server on fixed answers close the module: `first_login` signs user `user`
in, `two_logins` adds a second login of the same user while the first has not responded, and
`signed_in_listing` has the session the first login signed in list its tunnels.

## Honest scope

The requests of one session run one after another; the session store's handling of
concurrent requests of one browser is not modelled.
-/

namespace Pgrok.Web

open Database

/-- What a request on `route` can do to session `s`, leaving `s'`. -/
structure SessionEffect (route : Route) (s s' : Session) : Prop where
  /-- The nonce is kept, stored fresh by `oidc/auth`, or deleted by `oidc/callback`. -/
  nonce : s'.nonce = s.nonce ∨ (route = .oidcAuth ∧ ∃ n, s'.nonce = some (.string n)) ∨
    ((∃ state code, route = .oidcCallback state code) ∧ s'.nonce = none)
  /-- `userID` is kept, deleted by `sign-out`, or set by a callback whose `state` is the
  stored nonce as the handler reads it. -/
  userID : s'.userID = s.userID ∨ (route = .signOut ∧ s'.userID = none) ∨
    ((∃ code, route = .oidcCallback s.nonceString code) ∧ ∃ id, s'.userID = some (.int64 id))

theorem SessionEffect.refl (route : Route) (s : Session) : SessionEffect route s s :=
  ⟨.inl rfl, .inl rfl⟩

section Handlers

variable (cfg : Config) (ext : Externals)

theorem oidcAuth_session (s : Session) :
    Guarded Rules.any (fun _ r => SessionEffect .oidcAuth s r.2) () (oidcAuth cfg s) := by
  unfold oidcAuth
  split
  · exact .pure (.refl _ _)
  refine .call trivial fun a _ => ?_
  rcases a with e | p
  · exact .pure (.refl _ _)
  · exact .call trivial fun n _ => .pure ⟨.inr (.inl ⟨rfl, n, rfl⟩), .inl rfl⟩

/-- The body of the callback signs in only when the stored nonce, as read, is `state`. -/
theorem callbackBody_session (idp : IdentityProvider) (s : Session) (state code : String) :
    Guarded Rules.any
      (fun _ r => r.2 = s ∨ (s.nonceString = state ∧ ∃ id, r.2 = { s with userID := some (.int64 id) }))
      () (callbackBody ext idp s state code) := by
  unfold callbackBody
  dsimp only
  split
  · exact .pure (Or.inl rfl)
  rename_i hstate
  refine (Guarded.any (handleOIDCCallback ext idp code _)).bind fun _ r _ => ?_
  rcases r with e | info
  · exact .pure (Or.inl rfl)
  refine .call trivial fun a _ => ?_
  rcases a with e | p
  · exact .pure (Or.inl rfl)
  refine .call trivial fun a _ => ?_
  rcases a with e | ts
  · exact .pure (Or.inl rfl)
  have hsign : s.nonceString = state := not_not.1 hstate
  dsimp only [Prog.bind]
  split
  · refine (Guarded.any (createDefaultTunnel ext p _)).bind fun _ r _ => ?_
    rcases r with _ | resp
    · exact .pure (.inr ⟨hsign, p.id, rfl⟩)
    · exact .pure (Or.inl rfl)
  · exact .pure (.inr ⟨hsign, p.id, rfl⟩)

theorem oidcCallback_session (s : Session) (state code : String) :
    Guarded Rules.any (fun _ r => SessionEffect (.oidcCallback state code) s r.2) ()
      (oidcCallback cfg ext s state code) := by
  unfold oidcCallback
  split
  · exact .pure (.refl _ _)
  refine (callbackBody_session ext _ s state code).bind fun _ r hr => ?_
  obtain ⟨resp, s'⟩ := r
  refine .pure ⟨.inr (.inr ⟨⟨_, _, rfl⟩, rfl⟩), ?_⟩
  rcases hr with rfl | ⟨hst, id, rfl⟩
  · exact .inl rfl
  · exact .inr (.inr ⟨⟨code, by rw [hst]⟩, id, rfl⟩)

/-- Every handler changes the session only as `SessionEffect` says. -/
theorem serve_session (s : Session) (route : Route) :
    Guarded Rules.any (fun _ r => SessionEffect route s r.2) () (serve cfg ext s route) := by
  cases route with
  | oidcAuth => exact oidcAuth_session cfg s
  | oidcCallback state code => exact oidcCallback_session cfg ext s state code
  | signOut => exact .pure ⟨.inl rfl, .inr (.inl ⟨rfl, rfl⟩)⟩
  | identityProvider => exact .pure (.refl _ _)
  | healthcheck => exact .pure (.refl _ _)
  | _ => exact (Guarded.any _).bind fun _ _ _ => .pure (.refl _ _)

theorem serve_sessionEffect {s s' : Session} {route : Route} {db db' : DB} {resp : Response}
    (h : Prog.Exec (serve cfg ext s route) db (resp, s') db') : SessionEffect route s s' := by
  obtain ⟨_, he⟩ := (serve_session cfg ext s route).exec (fun _ => trivial) h
  exact he

/-! ### The requests of one session -/

/-- The requests of one browser session, one after another from session `s`, each run to
its end on whatever store the other sessions left. `trace` pairs each request's route with
the session it leaves; `s'` is the last. -/
inductive SessionRun : Session → List (Route × Session) → Session → Prop where
  | nil (s : Session) : SessionRun s [] s
  | cons {s s₁ s₂ : Session} {route : Route} {trace : List (Route × Session)} {db db' : DB}
      {resp : Response} :
      Prog.Exec (serve cfg ext s route) db (resp, s₁) db' → SessionRun s₁ trace s₂ →
      SessionRun s ((route, s₁) :: trace) s₂

/-- A nonce the session holds was stored by an `oidc/auth` of the run, as a string, and
every request since kept it; or it was there at the start and every request kept it. -/
theorem SessionRun.nonce_stored {s s' : Session} {trace : List (Route × Session)}
    {v : SessionValue} (h : SessionRun cfg ext s trace s') (hv : s'.nonce = some v) :
    (∃ pre s₀ post, trace = pre ++ (.oidcAuth, s₀) :: post ∧ (∃ n, v = .string n) ∧
      s₀.nonce = some v ∧ ∀ x ∈ post, x.2.nonce = some v) ∨
    (s.nonce = some v ∧ ∀ x ∈ trace, x.2.nonce = some v) := by
  induction h with
  | nil s => exact .inr ⟨hv, by simp⟩
  | @cons s s₁ _ route _ _ _ _ hexec _ ih =>
    rcases ih hv with ⟨pre, s₀, post, rfl, hstr, hs₀, hpost⟩ | ⟨hs₁, htr⟩
    · exact .inl ⟨(route, s₁) :: pre, s₀, post, rfl, hstr, hs₀, hpost⟩
    have hall : ∀ x ∈ (route, s₁) :: _, x.2.nonce = some v :=
      List.forall_mem_cons.2 ⟨hs₁, htr⟩
    rcases (serve_sessionEffect cfg ext hexec).nonce with he | ⟨rfl, n, hn⟩ | ⟨-, hn⟩
    · exact .inr ⟨he ▸ hs₁, hall⟩
    · exact .inl ⟨[], s₁, _, rfl, ⟨n, Option.some.inj (hs₁.symm.trans hn)⟩, hs₁, htr⟩
    · cases hn.symm.trans hs₁

/-- In a session that started empty, a callback that changes `userID` carries as `state` a
nonce an earlier `oidc/auth` of the session stored and no request removed since, or finds no
nonce and carries an empty `state`. -/
theorem callback_sign_in_state {trace : List (Route × Session)} {s s' : Session}
    {state code : String} {db db' : DB} {resp : Response}
    (hrun : SessionRun cfg ext Session.empty trace s)
    (h : Prog.Exec (serve cfg ext s (.oidcCallback state code)) db (resp, s') db')
    (hsign : s'.userID ≠ s.userID) :
    (s.nonce = none ∧ state = "") ∨
    ∃ pre s₀ post, trace = pre ++ (.oidcAuth, s₀) :: post ∧
      s₀.nonce = some (.string state) ∧ ∀ x ∈ post, x.2.nonce = some (.string state) := by
  have hst : s.nonceString = state := by
    rcases (serve_sessionEffect cfg ext h).userID with he | ⟨he, -⟩ | ⟨⟨c, hc⟩, -⟩
    · exact absurd he hsign
    · cases he
    · exact ((Route.oidcCallback.inj hc).1).symm
  unfold Session.nonceString at hst
  rcases hn : s.nonce with _ | v
  · rw [hn] at hst
    exact .inl ⟨rfl, hst.symm⟩
  rcases hrun.nonce_stored cfg ext hn with ⟨pre, s₀, post, rfl, ⟨n, rfl⟩, hs₀, hpost⟩ | ⟨h₀, -⟩
  · rw [hn] at hst
    subst hst
    exact .inr ⟨pre, s₀, post, rfl, hs₀, hpost⟩
  · cases h₀

end Handlers

/-! ### A session signed in without a nonce -/

/-- A configuration with a provider whose `Identifier` claim is `email`, and no required
domain. -/
def loginConfig : Config :=
  ⟨"", "http", "localhost", some ⟨"IdP", "issuer", "client", ⟨"email", "name", "email"⟩, ""⟩⟩

/-- `NormalizeIdentifier` accepting every identifier as it is. -/
def loginExternals : Externals := ⟨.ok, id, id⟩

/-- A provider that, for any code, returns an ID token carrying `nonce` and the claims of
user `user` (its `email`); `MustRandomChars` returns `r`. -/
def userProvider (user nonce : String) : Oracle where
  idp
    | .newProvider _ => .ok ⟨"auth"⟩
    | .exchange _ => .ok ⟨"access", some "raw"⟩
    | .verify _ => .ok ⟨nonce⟩
    | .userInfo _ => .ok ⟨.ok [("email", .string user)]⟩
  random _ := "r"

/-- A provider whose ID tokens carry no nonce, for user `user`. -/
def noNonceProvider : Oracle := userProvider "user" ""

/-- The callback, with no `state`, of a fresh session, answered by `noNonceProvider`,
signs the session in as principal `1`. -/
theorem noNonce_callback_exec :
    ∃ resp db', Prog.Exec (serve loginConfig loginExternals Session.empty (.oidcCallback "" "code"))
      DB.empty (resp, ⟨some (.int64 1), none⟩) db' :=
  ⟨_, _, Prog.run_exec noNonceProvider _ DB.empty⟩

theorem oidcCallback_signs_in_without_nonce :
    SessionRun loginConfig loginExternals Session.empty
      [(.oidcCallback "" "code", ⟨some (.int64 1), none⟩)] ⟨some (.int64 1), none⟩ :=
  have ⟨_, _, h⟩ := noNonce_callback_exec
  .cons h (.nil _)

/-- The hypotheses are met: a fresh session's `oidc/auth` stores the nonce `r`, and the
callback with `state` `r`, for an ID token carrying `r`, signs the session in. -/
theorem callback_sign_in_state_after_auth :
    let s : Session := ⟨none, some (.string "r")⟩
    ∃ resp s' db', SessionRun loginConfig loginExternals Session.empty [(.oidcAuth, s)] s ∧
      Prog.Exec (serve loginConfig loginExternals s (.oidcCallback "r" "code")) DB.empty
        (resp, s') db' ∧ s'.userID ≠ s.userID ∧
      ((s.nonce = none ∧ "r" = "") ∨
        ∃ pre s₀ post, [(Route.oidcAuth, s)] = pre ++ (.oidcAuth, s₀) :: post ∧
          s₀.nonce = some (.string "r") ∧ ∀ x ∈ post, x.2.nonce = some (.string "r")) :=
  have hauth := Prog.run_exec (userProvider "user" "r")
    (serve loginConfig loginExternals Session.empty .oidcAuth) DB.empty
  have hrun : SessionRun loginConfig loginExternals Session.empty
      [(.oidcAuth, ⟨none, some (.string "r")⟩)] ⟨none, some (.string "r")⟩ := .cons hauth (.nil _)
  have ⟨_, _, h⟩ : ∃ resp db', Prog.Exec (serve loginConfig loginExternals ⟨none, some (.string "r")⟩
      (.oidcCallback "r" "code")) DB.empty (resp, ⟨some (.int64 1), none⟩) db' :=
    ⟨_, _, Prog.run_exec (userProvider "user" "r") _ DB.empty⟩
  have hsign : (⟨some (.int64 1), none⟩ : Session).userID ≠
      (⟨none, some (.string "r")⟩ : Session).userID := by decide
  ⟨_, _, _, hrun, h, hsign, callback_sign_in_state _ _ hrun h hsign⟩

/-! ### Logins on the server -/

/-- The first login of user `user`, from a session holding the nonce `n`, run to its
response: the provider verifies, with nonce `n`, an ID token for `user`, and the principal and
its default tunnel are created. The callback request is left with its response. -/
theorem first_login : ∃ evs r, Run loginConfig loginExternals Server.init evs
      ⟨⟨[⟨1, 1, "Default", "r", "user", 0⟩], 2, [⟨1, "user", "user"⟩], 2⟩, [r]⟩ ∧
    r.route = .oidcCallback "n" "code" ∧ r.session = ⟨none, some (.string "n")⟩ ∧
    r.prog = .pure (.redirect "/", ⟨some (.int64 1), none⟩) :=
  ⟨_, _, .snoc (.snoc (.snoc (.snoc (.snoc (.snoc (.snoc (.snoc (.snoc (.nil _)
      (.arrive _ (.oidcCallback "n" "code") ⟨none, some (.string "n")⟩))
      (Step.call_head _ _ rfl (.idp (.newProvider "issuer") _ (.ok ⟨"auth"⟩))))
      (Step.call_head _ _ rfl (.idp (.exchange "code") _ (.ok ⟨"access", some "raw"⟩))))
      (Step.call_head _ _ rfl (.idp (.verify "raw") _ (.ok ⟨"n"⟩))))
      (Step.call_head _ _ rfl
        (.idp (.userInfo ⟨"access", some "raw"⟩) _ (.ok ⟨.ok [("email", .string "user")]⟩))))
      (Step.call_head _ _ rfl (.run (.upsertPrincipal ⟨"user", "user"⟩) _)))
      (Step.call_head _ _ rfl (.run (.getTunnelsByPrincipalID 1) _)))
      (Step.call_head _ _ rfl (.random 10 _ "r")))
      (Step.call_head _ _ rfl (.run (.createTunnel ⟨1, "Default", "r", "user"⟩) _)),
    rfl, rfl, rfl⟩

/-- Two logins of user `user`: the first runs to its response, then a second, from a session
holding `m`, whose claims also carry the display name `User`, runs up to its upsert, while the
first has not yet responded. -/
theorem two_logins : ∃ σ r, Reachable loginConfig loginExternals σ ∧ r ∈ σ.reqs ∧
    r.route = .oidcCallback "n" "code" ∧ r.session = ⟨none, some (.string "n")⟩ ∧
    r.prog = .pure (.redirect "/", ⟨some (.int64 1), none⟩) ∧
    σ.db.tunnels = [⟨1, 1, "Default", "r", "user", 0⟩] :=
  let ⟨_, r, h, hroute, hsess, hprog⟩ := first_login
  ⟨_, r, .step (.step (.step (.step (.step (.step (h.reachable _ _ .init)
      (.arrive _ (.oidcCallback "m" "code2") ⟨none, some (.string "m")⟩))
      (Step.call_head _ _ rfl (.idp (.newProvider "issuer") _ (.ok ⟨"auth"⟩))))
      (Step.call_head _ _ rfl (.idp (.exchange "code2") _ (.ok ⟨"access2", some "raw2"⟩))))
      (Step.call_head _ _ rfl (.idp (.verify "raw2") _ (.ok ⟨"m"⟩))))
      (Step.call_head _ _ rfl (.idp (.userInfo ⟨"access2", some "raw2"⟩) _
        (.ok ⟨.ok [("email", .string "user"), ("name", .string "User")]⟩))))
      (Step.call_head _ _ rfl (.run (.upsertPrincipal ⟨"user", "User"⟩) _)),
    List.mem_cons_of_mem _ (List.mem_singleton_self _), hroute, hsess, hprog, rfl⟩

end Pgrok.Web
