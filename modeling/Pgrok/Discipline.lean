import Pgrok.Server

/-!
# What a request may do to the tunnels

The rules every handler keeps, over every answer it can get (`serverRules`):

* a request acting for principal `P` creates tunnels only for `P`, deletes only with
  `principal_id = P`, lists only `P`'s tunnels, and renames (`UpdateTunnelSubdomain`) only
  an id it has read, with `GetTunnelByID`, as `P`'s;
* a request acting for nobody (the OIDC handlers, an `/api` request the middleware turns
  away) may create tunnels and list, and changes no existing row;
* no request calls `UpdateTunnelLastTCPPort`, and every subdomain a request writes is an
  output of `NormalizeIdentifier`;
* every response carries only tunnels of the principal the request acts for.

What a request knows is the list of `(id, owner)` pairs it has read (`learnOwner`). The
answers it can get are those the store gives (`Sound`): `GetPrincipalByID id` returns the
principal with that id, `GetTunnelsByPrincipalID p` only `p`'s tunnels, and
`CreateTunnel` a row with the owner it was asked for.

`serve_guarded` proves that every handler keeps the rules from its first call on.
-/

namespace Pgrok.Web

open Database

/-- What the store can answer, as far as the handlers rely on it. -/
def Sound : (c : Call) → c.Ret → Prop
  | .db (.getPrincipalByID id), .ok p => p.id = id
  | .db (.getTunnelsByPrincipalID pid), .ok ts => ∀ t ∈ ts, t.principalID = pid
  | .db (.createTunnel opts), .ok t => t.principalID = opts.principalID
  | _, _ => True

/-- What an answer teaches about owners: `GetTunnelByID id` returning a row of `p`. -/
def learnOwner : (c : Call) → c.Ret → List (Int × Int)
  | .db (.getTunnelByID id), .ok t => [(id, t.principalID)]
  | _, _ => []

section

variable (ext : Externals)

/-- `sub` is an output of `NormalizeIdentifier`. -/
def Normalized (sub : String) : Prop := ∃ x, ext.normalizeIdentifier x = .ok sub

/-- The calls a request acting for `actor` may make, knowing the owners `κ`. -/
def Allowed (actor : Option Int) (κ : List (Int × Int)) : Call → Prop
  | .db (.createTunnel opts) =>
    (actor = none ∨ actor = some opts.principalID) ∧ Normalized ext opts.subdomain
  | .db (.deleteTunnelByID _ pid) => actor = some pid
  | .db (.updateTunnelSubdomain id sub) =>
    (∃ p, actor = some p ∧ (id, p) ∈ κ) ∧ Normalized ext sub
  | .db (.updateTunnelLastTCPPort _ _) => False
  | .db (.getTunnelsByPrincipalID pid) => actor = none ∨ actor = some pid
  | _ => True

/-- The rules of a request acting for `actor`. -/
def serverRules (actor : Option Int) : Rules (List (Int × Int)) where
  allowed := Allowed ext actor
  answers := Sound
  learn κ c a := learnOwner c a ++ κ

end

/-- A response carries only tunnels of the principal the request acts for. -/
def RespOK (actor : Option Int) (resp : Response) : Prop :=
  ∀ t ∈ resp.tunnelsIn, actor = some t.principalID

@[simp] theorem respOK_plainText (actor : Option Int) (status : Nat) (text : String) :
    RespOK actor (.plainText status text) := by simp [RespOK, Response.tunnelsIn]

@[simp] theorem respOK_status (actor : Option Int) (code : Nat) : RespOK actor (.status code) := by
  simp [RespOK, Response.tunnelsIn]

@[simp] theorem respOK_fields (actor : Option Int) (status : Nat) (kvs : List (String × String)) :
    RespOK actor (.fields status kvs) := by simp [RespOK, Response.tunnelsIn]

@[simp] theorem respOK_redirect (actor : Option Int) (url : String) :
    RespOK actor (.redirect url) := by simp [RespOK, Response.tunnelsIn]

section Handlers

variable (cfg : Config) (ext : Externals)

/-- The guarantee of a handler of the `/api` group, for principal `p`. -/
def ApiGuarded (h : Principal → Prog Response) : Prop :=
  ∀ p κ, Guarded (serverRules ext (some p.id)) (fun _ r => RespOK (some p.id) r) κ (h p)

theorem userInfo_guarded : ApiGuarded ext userInfo :=
  fun _ _ => .pure (respOK_fields _ _ _)

theorem getTunnels_guarded : ApiGuarded ext (getTunnels cfg) := by
  intro p κ
  refine .call (.inr rfl) fun a ha => ?_
  rcases a with e | ts
  · exact .pure (respOK_plainText _ _ _)
  · refine .pure fun t ht => ?_
    simp only [Response.tunnelsIn, List.map_map, List.mem_map] at ht
    obtain ⟨u, hu, rfl⟩ := ht
    exact congrArg some (ha u hu).symm

theorem postTunnels_guarded : ApiGuarded ext (postTunnels ext) := by
  intro p κ
  refine .call trivial fun suffix _ => ?_
  dsimp only [Prog.bind]
  split
  · exact .pure (respOK_plainText _ _ _)
  · rename_i sub hsub
    refine .call trivial fun token _ => .call ⟨.inr rfl, _, hsub⟩ fun a ha => ?_
    rcases a with e | t
    · exact .pure (respOK_plainText _ _ _)
    · exact .pure fun u hu => by
        simp only [Response.tunnelsIn, List.mem_singleton] at hu
        subst hu
        exact congrArg some ha.symm

theorem deleteTunnel_guarded (idParam : Bytes) : ApiGuarded ext (deleteTunnel · idParam) := by
  intro p κ
  dsimp only [deleteTunnel]
  split
  · exact .pure (respOK_plainText _ _ _)
  · refine .call rfl fun a _ => ?_
    rcases a with e | _ <;> exact .pure (respOK_plainText _ _ _)

theorem patchTunnel_guarded (idParam : Bytes) (body : Option String) :
    ApiGuarded ext (patchTunnel cfg ext · idParam body) := by
  intro p κ
  unfold patchTunnel
  refine Guarded.ite (fun _ => .pure (respOK_plainText _ _ _)) fun _ => ?_
  rcases body with _ | form
  · exact .pure (respOK_plainText _ _ _)
  dsimp only [Prog.pure_eq, Prog.pure_bind]
  rcases hsub : ext.normalizeIdentifier form with err | sub
  · exact .pure (respOK_plainText _ _ _)
  refine .call trivial fun a _ => ?_
  rcases a with e | t
  · exact .pure (respOK_plainText _ _ _)
  refine Guarded.ite (fun _ => .pure (respOK_plainText _ _ _)) fun hown => ?_
  -- the update is allowed by the row just read, which is the principal's
  refine .call ⟨⟨p.id, rfl, ?_⟩, _, hsub⟩ fun a _ => ?_
  · rw [← not_not.1 hown]
    exact List.mem_cons_self _ _
  rcases a with (_ | _ | _ | _) | _ <;> exact .pure (by simp)

/-- The middleware lets a handler run only for the principal with the session's positive
`userID`, so the request acts for that principal. -/
theorem apiAuth_guarded {h : Principal → Prog Response} (hh : ApiGuarded ext h) (s : Session)
    (κ : List (Int × Int)) :
    Guarded (serverRules ext (s.userIDOf.filter (0 < ·)))
      (fun _ r => RespOK (s.userIDOf.filter (0 < ·)) r) κ (apiAuth s h) := by
  generalize hact : s.userIDOf.filter (0 < ·) = actor
  unfold apiAuth
  split
  · exact .pure (respOK_status _ _)
  rename_i u hu
  split
  · exact .pure (respOK_status _ _)
  obtain rfl : actor = some u := by
    rw [← hact, hu]
    simp only [Option.filter_some, decide_eq_true_eq]
    exact if_pos (by omega)
  refine .call trivial fun a ha => ?_
  rcases a with e | p
  · exact .pure (respOK_plainText _ _ _)
  · have hid : p.id = u := ha
    exact hid ▸ hh p _

theorem oidcAuth_guarded (s : Session) (κ : List (Int × Int)) :
    Guarded (serverRules ext none) (fun _ r => RespOK none r.1) κ (oidcAuth cfg s) := by
  unfold oidcAuth
  split
  · exact .pure (respOK_plainText _ _ _)
  refine .call trivial fun a _ => ?_
  rcases a with e | p
  · exact .pure (respOK_plainText _ _ _)
  · exact .call trivial fun _ _ => .pure (respOK_redirect _ _)

/-- `handleOIDCCallback` calls only the provider. -/
theorem handleOIDCCallback_guarded {K : Type} (R : Rules K) (hidp : ∀ κ c, R.allowed κ (.idp c))
    (idp : IdentityProvider) (code nonce : String) (κ : K) :
    Guarded R (fun _ _ => True) κ (handleOIDCCallback ext idp code nonce) := by
  unfold handleOIDCCallback
  refine .call (hidp _ _) fun a _ => ?_
  rcases a with _ | _
  · exact .pure trivial
  refine .call (hidp _ _) fun a _ => ?_
  rcases a with _ | ⟨access, _ | raw⟩
  · exact .pure trivial
  · exact .pure trivial
  refine .call (hidp _ _) fun a _ => ?_
  rcases a with _ | idToken
  · exact .pure trivial
  refine Guarded.ite (fun _ => .pure trivial) fun _ => ?_
  refine .call (hidp _ _) fun a _ => ?_
  rcases a with _ | ⟨_ | claims⟩
  · exact .pure trivial
  · exact .pure trivial
  refine Guarded.ite (fun _ => .pure trivial) fun _ => ?_
  exact Guarded.ite (fun _ => Guarded.ite (fun _ => .pure trivial) fun _ => .pure trivial)
    fun _ => .pure trivial

theorem createDefaultTunnel_guarded (p : Principal) (identifier : String) (κ : List (Int × Int)) :
    Guarded (serverRules ext none) (fun _ r => ∀ resp, r = some resp → RespOK none resp) κ
      (createDefaultTunnel ext p identifier) := by
  unfold createDefaultTunnel
  split
  · exact .pure (by simp)
  rename_i sub hsub
  refine .call trivial fun _ _ => .call ⟨.inl rfl, _, hsub⟩ fun a _ => ?_
  rcases a with _ | _ <;> exact .pure (by simp)

theorem callbackBody_guarded (idp : IdentityProvider) (s : Session) (state code : String)
    (κ : List (Int × Int)) :
    Guarded (serverRules ext none) (fun _ r => RespOK none r.1) κ
      (callbackBody ext idp s state code) := by
  unfold callbackBody
  dsimp only
  split
  · exact .pure (respOK_plainText _ _ _)
  refine (handleOIDCCallback_guarded ext _ (fun _ _ => trivial) idp code _ κ).bind
    fun κ' r _ => ?_
  rcases r with e | info
  · exact .pure (respOK_plainText _ _ _)
  refine .call trivial fun a _ => ?_
  rcases a with e | p
  · exact .pure (respOK_plainText _ _ _)
  refine .call (.inl rfl) fun a _ => ?_
  rcases a with e | ts
  · exact .pure (respOK_plainText _ _ _)
  dsimp only [Prog.bind]
  split
  · refine (createDefaultTunnel_guarded ext p _ _).bind fun _ r hr => ?_
    rcases r with _ | resp
    · exact .pure (respOK_redirect _ _)
    · exact .pure (hr resp rfl)
  · exact .pure (respOK_redirect _ _)

theorem oidcCallback_guarded (s : Session) (state code : String) (κ : List (Int × Int)) :
    Guarded (serverRules ext none) (fun _ r => RespOK none r.1) κ (oidcCallback cfg ext s state code) := by
  unfold oidcCallback
  split
  · exact .pure (respOK_plainText _ _ _)
  exact (callbackBody_guarded ext _ s state code κ).bind fun _ r hr => .pure hr

theorem withSession_guarded {actor : Option Int} {x : Prog Response} (s : Session)
    (h : Guarded (serverRules ext actor) (fun _ r => RespOK actor r) [] x) :
    Guarded (serverRules ext actor) (fun _ r => RespOK actor r.1) [] ((·, s) <$> x) :=
  h.bind fun _ _ hr => .pure hr

/-- Every handler keeps the rules of the principal its request acts for. -/
theorem serve_guarded (s : Session) (route : Route) :
    Guarded (serverRules ext (actorOf route s)) (fun _ r => RespOK (actorOf route s) r.1) []
      (serve cfg ext s route) := by
  cases route with
  | userInfo => exact withSession_guarded ext s (apiAuth_guarded ext (userInfo_guarded ext) s [])
  | getTunnels =>
    exact withSession_guarded ext s (apiAuth_guarded ext (getTunnels_guarded cfg ext) s [])
  | postTunnels =>
    exact withSession_guarded ext s (apiAuth_guarded ext (postTunnels_guarded ext) s [])
  | deleteTunnel id =>
    exact withSession_guarded ext s (apiAuth_guarded ext (deleteTunnel_guarded ext id) s [])
  | patchTunnel id body =>
    exact withSession_guarded ext s (apiAuth_guarded ext (patchTunnel_guarded cfg ext id body) s [])
  | identityProvider =>
    refine .pure ?_
    unfold identityProviderInfo
    split <;> exact respOK_fields _ _ _
  | healthcheck => exact .pure (respOK_plainText _ _ _)
  | oidcAuth => exact oidcAuth_guarded cfg ext s []
  | oidcCallback state code => exact oidcCallback_guarded cfg ext s state code []
  | signOut => exact .pure (respOK_redirect _ _)

end Handlers

/-! ### The invariant of reachable states -/

/-- The store answers as `Sound` says. -/
theorem Call.Step.sound {c : Call} {db db' : DB} {a : c.Ret} (h : Call.Step c db a db') :
    Sound c a := by
  cases h with
  | run q db =>
    cases q with
    | getPrincipalByID id =>
      simp only [Query.run, DB.getPrincipalByID]
      split
      · rename_i p hp
        simpa using List.find?_some hp
      · trivial
    | getTunnelsByPrincipalID pid =>
      intro t ht
      simpa using (List.mem_filter.1 ht).2
    | createTunnel opts =>
      simp only [Query.run, DB.createTunnel]
      split <;> simp [Sound]
    | _ => trivial
  | fault q db e | lost q db e => cases q <;> trivial
  | _ => trivial

/-- What a request learns about owners from the store is true when it learns it. -/
theorem Call.Step.learned {c : Call} {db db' : DB} {a : c.Ret} (h : Call.Step c db a db')
    (hw : Wf db) : ∀ x ∈ learnOwner c a, OwnedBy db' x.1 x.2 := by
  cases h with
  | run q db =>
    cases q with
    | getTunnelByID id =>
      simp only [Query.run, DB.getTunnelByID]
      split
      · rename_i t ht
        have hid : t.id = id := by simpa using List.find?_some ht
        simpa [learnOwner, ← hid] using ownedBy_of_mem hw (List.mem_of_find?_eq_some ht)
      · simp [learnOwner]
    | _ => simp [learnOwner]
  | fault q db e | lost q db e => cases q <;> simp [learnOwner]
  | _ => simp [learnOwner]

section

variable (ext : Externals)

/-- A request in flight keeps the rules of its principal from what it has read on, and
what it has read about owners is still true of the store. -/
def ReqInv (db : DB) (r : Request) : Prop :=
  ∃ κ, Guarded (serverRules ext (actorOf r.route r.session))
      (fun _ rs => RespOK (actorOf r.route r.session) rs.1) κ r.prog ∧
    ∀ x ∈ κ, OwnedBy db x.1 x.2

theorem ReqInv.call {db db' : DB} {r : Request} {c : Call} {k : c.Ret → Prog (Response × Session)}
    {a : c.Ret} (hw : Wf db) (hr : ReqInv ext db r) (hprog : r.prog = .call c k)
    (hc : Call.Step c db a db') : ReqInv ext db' { r with prog := k a } := by
  obtain ⟨κ, hg, hκ⟩ := hr
  rw [hprog] at hg
  cases hg with
  | call _ hk =>
    refine ⟨_, hk a hc.sound, fun x hx => ?_⟩
    rcases List.mem_append.1 hx with hx | hx
    · exact hc.learned hw x hx
    · exact (hκ x hx).mono hc.keepsOwners

variable (cfg : Config)

/-- In every reachable state the ids of the store are unique and below their sequence, and
every request in flight keeps its rules. -/
theorem reachable_inv {σ : Server} (h : Reachable cfg ext σ) :
    Wf σ.db ∧ ∀ r ∈ σ.reqs, ReqInv ext σ.db r :=
  Reachable.inv cfg ext wf_empty
    (fun _ route s _ => ⟨[], serve_guarded cfg ext s route, by simp⟩)
    (fun hw hr hprog hc => ⟨hc.wf hw, hr.call ext hw hprog hc⟩)
    (fun hk ⟨κ, hg, hκ⟩ => ⟨κ, hg, fun x hx => (hκ x hx).mono hk⟩)
    (fun db id port hw => (Query.updateTunnelLastTCPPort id port).run_wf hw) h

end

end Pgrok.Web
