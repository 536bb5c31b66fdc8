import Pgrok.WebServer

/-!
# The server as a transition system

Requests from any number of sessions run concurrently. The state of the server is the
store and the requests in flight, each with what is left of its handler. A step is one
of: a request arrives, on any route and with any session; a request in flight makes its
next call, which is answered as `Call.Step` allows; a request returns its response; or the
tunnel daemon records a tunnel's last TCP port (`UpdateTunnelLastTCPPort`, which it calls
while serving a tunnel). Any request may take the next step, so every interleaving of the
calls of all requests is a run.

Each step is labelled with what an observer sees: the call made and its answer, or the
response, together with the principal the request acts for (`actorOf`): the session's
positive `userID` for a route of the `/api` group, the only value the middleware lets
through.

`Reachable.inv` packages the induction over runs: a property of the store and a property
of each request in flight, given what each kind of step does to them. `Run` is a run with its
events, for runs on fixed inputs.
-/

namespace Pgrok.Web

open Database

/-- A request in flight. -/
structure Request where
  /-- The route it came on. -/
  route : Route
  /-- The session it came with. -/
  session : Session
  /-- What is left of its handler. -/
  prog : Prog (Response × Session)

/-- The principal a request on `route` with session `s` acts for. -/
def actorOf (route : Route) (s : Session) : Option Int :=
  if route.isApi then s.userIDOf.filter (0 < ·) else none

/-- The server: the store and the requests in flight. -/
structure Server where
  /-- The store. -/
  db : DB
  /-- The requests in flight. -/
  reqs : List Request

/-- The server before any request: an empty store. -/
def Server.init : Server := ⟨DB.empty, []⟩

/-- What a step shows. -/
inductive Event where
  /-- A request arrives. -/
  | arrive (route : Route) (s : Session)
  /-- A request acting for `actor` makes call `c` and gets `a`. -/
  | call (actor : Option Int) (c : Call) (a : c.Ret)
  /-- A request acting for `actor` responds. -/
  | respond (actor : Option Int) (resp : Response) (s : Session)
  /-- The tunnel daemon records a port. -/
  | lastTCPPort (id port : Int)

section

variable (cfg : Config) (ext : Externals)

/-- One step of the server. -/
inductive Step : Server → Event → Server → Prop where
  /-- A request arrives on `route` with session `s`. -/
  | arrive (σ : Server) (route : Route) (s : Session) :
      Step σ (.arrive route s) ⟨σ.db, ⟨route, s, serve cfg ext s route⟩ :: σ.reqs⟩
  /-- Request `r` makes its next call. -/
  | call {σ : Server} {pre post : List Request} {r : Request} {c : Call}
      {k : c.Ret → Prog (Response × Session)} {a : c.Ret} {db' : DB} :
      σ.reqs = pre ++ r :: post → r.prog = .call c k → Call.Step c σ.db a db' →
      Step σ (.call (actorOf r.route r.session) c a) ⟨db', pre ++ { r with prog := k a } :: post⟩
  /-- Request `r` responds and leaves. -/
  | respond {σ : Server} {pre post : List Request} {r : Request} {resp : Response}
      {s : Session} :
      σ.reqs = pre ++ r :: post → r.prog = .pure (resp, s) →
      Step σ (.respond (actorOf r.route r.session) resp s) ⟨σ.db, pre ++ post⟩
  /-- The tunnel daemon records the last TCP port of tunnel `id`. -/
  | lastTCPPort (σ : Server) (id port : Int) :
      Step σ (.lastTCPPort id port) ⟨(σ.db.updateTunnelLastTCPPort id port).2, σ.reqs⟩

/-- The states of the server from `Server.init`, by any steps. -/
inductive Reachable : Server → Prop where
  | init : Reachable Server.init
  | step {σ σ' : Server} {e : Event} : Reachable σ → Step cfg ext σ e σ' → Reachable σ'

/-- Every step keeps the owners of the store. -/
theorem Step.keepsOwners {σ σ' : Server} {e : Event} (h : Step cfg ext σ e σ') :
    KeepsOwners σ.db σ'.db := by
  cases h with
  | call _ _ hc => exact hc.keepsOwners
  | lastTCPPort id port => exact (Query.updateTunnelLastTCPPort id port).run_keepsOwners _
  | _ => exact keepsOwners_of_tunnels_eq le_rfl rfl

theorem mem_update {pre post : List Request} {r r' x : Request}
    (hx : x ∈ pre ++ r' :: post) : x = r' ∨ x ∈ pre ++ r :: post := by
  simp only [List.mem_append, List.mem_cons] at hx ⊢
  tauto

/-- Induction over runs: a property `I` of the store and `P` of each request in flight
hold in every reachable state if they hold initially, hold of an arriving request, are kept
by a request's own call, survive every change to the store that keeps its owners, and `I`
survives the tunnel daemon. -/
theorem Reachable.inv {I : DB → Prop} {P : DB → Request → Prop} (hinit : I DB.empty)
    (harrive : ∀ db route s, I db → P db ⟨route, s, serve cfg ext s route⟩)
    (hcall : ∀ {db db' : DB} {r : Request} {c : Call} {k : c.Ret → Prog (Response × Session)}
      {a : c.Ret}, I db → P db r → r.prog = .call c k → Call.Step c db a db' →
        I db' ∧ P db' { r with prog := k a })
    (hframe : ∀ {db db' : DB} {r : Request}, KeepsOwners db db' → P db r → P db' r)
    (hport : ∀ db id port, I db → I (db.updateTunnelLastTCPPort id port).2)
    {σ : Server} (h : Reachable cfg ext σ) : I σ.db ∧ ∀ r ∈ σ.reqs, P σ.db r := by
  induction h with
  | init => exact ⟨hinit, by simp [Server.init]⟩
  | step _ hs ih =>
    obtain ⟨hI, hP⟩ := ih
    have hk := hs.keepsOwners
    cases hs with
    | arrive route s =>
      refine ⟨hI, fun r hr => ?_⟩
      rcases List.mem_cons.1 hr with rfl | hr
      · exact harrive _ _ _ hI
      · exact hP r hr
    | call hreq hprog hc =>
      have hr := hP _ (hreq ▸ List.mem_append_right _ (List.mem_cons_self _ _))
      obtain ⟨hI', hr'⟩ := hcall hI hr hprog hc
      refine ⟨hI', fun x hx => ?_⟩
      rcases mem_update hx with rfl | hx
      · exact hr'
      · exact hframe hk (hP x (hreq ▸ hx))
    | respond hreq _ =>
      refine ⟨hI, fun x hx => hP x (hreq ▸ ?_)⟩
      simp only [List.mem_append, List.mem_cons] at hx ⊢
      tauto
    | lastTCPPort id port => exact ⟨hport _ _ _ hI, fun r hr => hframe hk (hP r hr)⟩

/-- Every request in flight is what is left of its handler after the calls it has made, each
answered as `Call.Step` allows on some store. -/
theorem Reachable.reaches {σ : Server} (h : Reachable cfg ext σ) :
    ∀ r ∈ σ.reqs, ∃ log, Prog.Reaches (serve cfg ext r.session r.route) log r.prog :=
  (@Reachable.inv cfg ext (fun _ => True)
    (fun _ r => ∃ log, Prog.Reaches (serve cfg ext r.session r.route) log r.prog) trivial
    (fun _ _ _ _ => ⟨[], .refl _⟩) (fun _ ⟨_, hlog⟩ hprog hc => ⟨trivial, _, (hprog ▸ hlog).snoc hc⟩)
    (fun _ hr => hr) (fun _ _ _ _ => trivial) _ h).2

/-- A run of the server from `σ`, with the events of its steps in order. -/
inductive Run : Server → List Event → Server → Prop where
  | nil (σ : Server) : Run σ [] σ
  | snoc {σ σ₁ σ₂ : Server} {evs : List Event} {e : Event} :
      Run σ evs σ₁ → Step cfg ext σ₁ e σ₂ → Run σ (evs ++ [e]) σ₂

theorem Run.reachable {σ σ' : Server} {evs : List Event} (hσ : Reachable cfg ext σ)
    (h : Run cfg ext σ evs σ') : Reachable cfg ext σ' := by
  induction h with
  | nil => exact hσ
  | snoc _ hs ih => exact .step ih hs

/-- The first request in flight makes its next call. -/
theorem Step.call_head {db db' : DB} {r : Request} {rs : List Request} {c : Call}
    {k : c.Ret → Prog (Response × Session)} {a : c.Ret} (hprog : r.prog = .call c k)
    (hc : Call.Step c db a db') :
    Step cfg ext ⟨db, r :: rs⟩ (.call (actorOf r.route r.session) c a)
      ⟨db', { r with prog := k a } :: rs⟩ :=
  @Step.call cfg ext ⟨db, r :: rs⟩ [] rs r c k a db' rfl hprog hc

end

end Pgrok.Web
