import Pgrok.Strconv

/-!
# The metadata store

`internal/database` keeps principals and tunnels in Postgres through gorm. Each method of
`*DB` is one SQL statement on one table, so each is one atomic step here: a function from
the store to its answer and the next store. Ids come from sequences (`tunnels_id_seq`,
`principles_id_seq`) that hand out each value once, and advance even when the insert that
asked for the value fails, as `nextval` does.

The constraints the methods run into are those of the gorm tags: `tunnels.id` is the
primary key and `tunnels.token` and `tunnels.subdomain` are unique, so an insert or update
that would repeat one fails with Postgres error `23505`, which `UpdateTunnelSubdomain`
turns into `ErrSubdomainTaken`.

## What is proved

* `Query.run_keepsOwners` — no method changes the `PrincipalID` of a row, drops the id
  sequence, or brings back an id below it; so `OwnedBy`, "every row with this id belongs
  to this principal", once true stays true (`OwnedBy.mono`).
* `Query.run_wf` — the methods keep the ids unique and below the sequence.
* `Query.run_touched` — the rows a method inserts, deletes or rewrites are those it names:
  of the principal it is given (`createTunnel`, `deleteTunnelByID`), or with the id it is
  given (`updateTunnelSubdomain`, `updateTunnelLastTCPPort`).
* `Query.run_subdomain` — every subdomain in the table after a method was there before, or
  is the one the method writes.

## Honest scope

`CreatedAt`, `UpdatedAt` and the principal's timestamps are left out: no modelled code reads
them. gorm's `FirstOrCreate` runs a `SELECT` and then an `INSERT`; it is one step here, as
every call to the store is.
-/

namespace Pgrok.Database

/-- A row of `tunnels` (`Tunnel`). -/
structure Tunnel where
  /-- `ID`, the primary key. -/
  id : Int
  /-- `PrincipalID`, the owner. -/
  principalID : Int
  /-- `Name`. -/
  name : String
  /-- `Token`, unique. -/
  token : String
  /-- `Subdomain`, unique. -/
  subdomain : String
  /-- `LastTCPPort`. -/
  lastTCPPort : Int
  deriving DecidableEq, Repr

/-- A row of `principles` (`Principal`). -/
structure Principal where
  /-- `ID`, the primary key. -/
  id : Int
  /-- `Identifier`, unique. -/
  identifier : String
  /-- `DisplayName`. -/
  displayName : String
  deriving DecidableEq, Repr

/-- `CreateTunnelOptions`. -/
structure CreateTunnelOptions where
  /-- `PrincipalID`. -/
  principalID : Int
  /-- `Name`. -/
  name : String
  /-- `Token`. -/
  token : String
  /-- `Subdomain`. -/
  subdomain : String
  deriving DecidableEq, Repr

/-- `UpsertPrincipalOptions`. -/
structure UpsertPrincipalOptions where
  /-- `Identifier`. -/
  identifier : String
  /-- `DisplayName`. -/
  displayName : String
  deriving DecidableEq, Repr

/-- What a call to the store fails with. -/
inductive DBError where
  /-- `gorm.ErrRecordNotFound`, from `First` when no row matches. -/
  | recordNotFound
  /-- A `*pgconn.PgError` with code `23505`, naming the violated constraint. -/
  | uniqueViolation (constraint : String)
  /-- `ErrSubdomainTaken`. -/
  | subdomainTaken
  /-- Any other failure of the call (a lost connection, a cancelled context). -/
  | other (msg : String)
  deriving DecidableEq, Repr

/-- `err.Error()`. -/
def DBError.msg : DBError → String
  | .recordNotFound => "record not found"
  | .uniqueViolation c =>
    "ERROR: duplicate key value violates unique constraint \"" ++ c ++ "\" (SQLSTATE 23505)"
  | .subdomainTaken => "subdomain already taken"
  | .other m => m

/-- The store: the two tables, and the next value of each id sequence. -/
structure DB where
  /-- The rows of `tunnels`. -/
  tunnels : List Tunnel
  /-- The next value of `tunnels_id_seq`. -/
  tunnelSeq : Int
  /-- The rows of `principles`. -/
  principals : List Principal
  /-- The next value of `principles_id_seq`. -/
  principalSeq : Int

/-- An empty store, its sequences at `1`. -/
def DB.empty : DB := ⟨[], 1, [], 1⟩

namespace DB

/-- `UpsertPrincipal`: `FirstOrCreate` by identifier. A principal found is returned as
stored (its display name is not updated); otherwise one is inserted with the next id. -/
def upsertPrincipal (db : DB) (opts : UpsertPrincipalOptions) : Except DBError Principal × DB :=
  match db.principals.find? (·.identifier == opts.identifier) with
  | some p => (.ok p, db)
  | none =>
    let p : Principal :=
      { id := db.principalSeq, identifier := opts.identifier, displayName := opts.displayName }
    let db := { db with principalSeq := db.principalSeq + 1 }
    if db.principals.any (·.id == p.id) then (.error (.uniqueViolation "principles_pkey"), db)
    else (.ok p, { db with principals := db.principals ++ [p] })

/-- `GetPrincipalByID`. -/
def getPrincipalByID (db : DB) (id : Int) : Except DBError Principal :=
  match db.principals.find? (·.id == id) with
  | some p => .ok p
  | none => .error .recordNotFound

/-- The constraint of `tunnels` that a new row `t` would violate, if any. -/
def violatedBy (db : DB) (t : Tunnel) : Option String :=
  if db.tunnels.any (·.id == t.id) then some "tunnels_pkey"
  else if db.tunnels.any (·.token == t.token) then some "tunnels_token_key"
  else if db.tunnels.any (·.subdomain == t.subdomain) then some "tunnels_subdomain_key"
  else none

/-- `CreateTunnel`: insert a row with the next id and `LastTCPPort` zero. -/
def createTunnel (db : DB) (opts : CreateTunnelOptions) : Except DBError Tunnel × DB :=
  let t : Tunnel :=
    { id := db.tunnelSeq, principalID := opts.principalID, name := opts.name,
      token := opts.token, subdomain := opts.subdomain, lastTCPPort := 0 }
  let db' := { db with tunnelSeq := db.tunnelSeq + 1 }
  match db.violatedBy t with
  | some c => (.error (.uniqueViolation c), db')
  | none => (.ok t, { db' with tunnels := db.tunnels ++ [t] })

/-- `GetTunnelByID`: `First` where `id = ?`. -/
def getTunnelByID (db : DB) (id : Int) : Except DBError Tunnel :=
  match db.tunnels.find? (·.id == id) with
  | some t => .ok t
  | none => .error .recordNotFound

/-- `GetTunnelByToken`: `First` where `token = ?`. -/
def getTunnelByToken (db : DB) (token : String) : Except DBError Tunnel :=
  match db.tunnels.find? (·.token == token) with
  | some t => .ok t
  | none => .error .recordNotFound

/-- `GetTunnelsByPrincipalID`: `Find` where `principal_id = ?`. -/
def getTunnelsByPrincipalID (db : DB) (principalID : Int) : Except DBError (List Tunnel) :=
  .ok (db.tunnels.filter (·.principalID == principalID))

/-- `UpdateTunnelLastTCPPort`: `UPDATE` where `id = ?`; no row is not an error. -/
def updateTunnelLastTCPPort (db : DB) (id : Int) (port : Int) : Except DBError Unit × DB :=
  (.ok (), { db with tunnels := db.tunnels.map fun t =>
    if t.id == id then { t with lastTCPPort := port } else t })

/-- `UpdateTunnelSubdomain`: `UPDATE` where `id = ?`. Giving the row a subdomain another
row holds violates the unique constraint, error `23505`, returned as `ErrSubdomainTaken`. -/
def updateTunnelSubdomain (db : DB) (id : Int) (subdomain : String) : Except DBError Unit × DB :=
  if db.tunnels.any (·.id == id) && db.tunnels.any (fun u => u.id != id && u.subdomain == subdomain)
  then (.error .subdomainTaken, db)
  else (.ok (), { db with tunnels := db.tunnels.map fun t =>
    if t.id == id then { t with subdomain := subdomain } else t })

/-- `DeleteTunnelByID`: `DELETE` where `id = ? AND principal_id = ?`. -/
def deleteTunnelByID (db : DB) (id principalID : Int) : Except DBError Unit × DB :=
  (.ok (), { db with tunnels := db.tunnels.filter fun t =>
    !(t.id == id && t.principalID == principalID) })

end DB

/-! ### The store's interface -/

/-- A call to the store, one per method of `*DB` that the server makes. -/
inductive Query where
  /-- `UpsertPrincipal`. -/
  | upsertPrincipal (opts : UpsertPrincipalOptions)
  /-- `GetPrincipalByID`. -/
  | getPrincipalByID (id : Int)
  /-- `CreateTunnel`. -/
  | createTunnel (opts : CreateTunnelOptions)
  /-- `GetTunnelByID`. -/
  | getTunnelByID (id : Int)
  /-- `GetTunnelByToken`. -/
  | getTunnelByToken (token : String)
  /-- `GetTunnelsByPrincipalID`. -/
  | getTunnelsByPrincipalID (principalID : Int)
  /-- `UpdateTunnelLastTCPPort`. -/
  | updateTunnelLastTCPPort (id : Int) (port : Int)
  /-- `UpdateTunnelSubdomain`. -/
  | updateTunnelSubdomain (id : Int) (subdomain : String)
  /-- `DeleteTunnelByID`. -/
  | deleteTunnelByID (id principalID : Int)

/-- What a call returns besides its error. -/
@[reducible] def Query.Ret : Query → Type
  | .upsertPrincipal _ | .getPrincipalByID _ => Principal
  | .createTunnel _ | .getTunnelByID _ | .getTunnelByToken _ => Tunnel
  | .getTunnelsByPrincipalID _ => List Tunnel
  | .updateTunnelLastTCPPort _ _ | .updateTunnelSubdomain _ _ | .deleteTunnelByID _ _ => Unit

/-- Run a call on the store, atomically. -/
def Query.run : (q : Query) → DB → Except DBError q.Ret × DB
  | .upsertPrincipal opts, db => db.upsertPrincipal opts
  | .getPrincipalByID id, db => (db.getPrincipalByID id, db)
  | .createTunnel opts, db => db.createTunnel opts
  | .getTunnelByID id, db => (db.getTunnelByID id, db)
  | .getTunnelByToken token, db => (db.getTunnelByToken token, db)
  | .getTunnelsByPrincipalID pid, db => (db.getTunnelsByPrincipalID pid, db)
  | .updateTunnelLastTCPPort id port, db => db.updateTunnelLastTCPPort id port
  | .updateTunnelSubdomain id subdomain, db => db.updateTunnelSubdomain id subdomain
  | .deleteTunnelByID id pid, db => db.deleteTunnelByID id pid

/-! ### What every method keeps -/

@[simp] theorem DB.upsertPrincipal_tunnels (db : DB) (opts : UpsertPrincipalOptions) :
    (db.upsertPrincipal opts).2.tunnels = db.tunnels := by
  unfold DB.upsertPrincipal
  split
  · rfl
  · dsimp only
    split <;> rfl

/-- The ids of the tunnel rows are unique and below the next value of their sequence. -/
structure Wf (db : DB) : Prop where
  /-- Every id was handed out by the sequence. -/
  id_lt : ∀ t ∈ db.tunnels, t.id < db.tunnelSeq
  /-- The primary key. -/
  nodup : (db.tunnels.map (·.id)).Nodup

theorem wf_empty : Wf DB.empty := ⟨by simp [DB.empty], by simp [DB.empty]⟩

/-- From `db` to `db'` no row changes its owner and no id comes back: every row of `db'`
is an old row with the same id and owner, or has an id no old row had, at or above the
old sequence value, which does not go back. -/
structure KeepsOwners (db db' : DB) : Prop where
  /-- The sequence does not go back. -/
  seq_le : db.tunnelSeq ≤ db'.tunnelSeq
  /-- Where each row comes from. -/
  origin : ∀ t' ∈ db'.tunnels, (∃ t ∈ db.tunnels, t.id = t'.id ∧ t.principalID = t'.principalID) ∨
    (db.tunnelSeq ≤ t'.id ∧ ∀ t ∈ db.tunnels, t.id ≠ t'.id)

/-- Every row of `db` with id `i` belongs to `p`, and `i` was handed out already. -/
def OwnedBy (db : DB) (i p : Int) : Prop :=
  i < db.tunnelSeq ∧ ∀ t ∈ db.tunnels, t.id = i → t.principalID = p

/-- What the server learns when it reads a row owned by `p` stays true. -/
theorem OwnedBy.mono {db db' : DB} {i p : Int} (h : OwnedBy db i p) (hk : KeepsOwners db db') :
    OwnedBy db' i p := by
  refine ⟨lt_of_lt_of_le h.1 hk.seq_le, fun t' ht' hi => ?_⟩
  rcases hk.origin t' ht' with ⟨t, ht, hid, hp⟩ | ⟨hge, -⟩
  · rw [← hp]; exact h.2 t ht (hid.trans hi)
  · exact absurd h.1 (by omega)

/-- Under unique ids, a row of `db'` with the id of a row of `db` has its owner. -/
theorem KeepsOwners.principalID {db db' : DB} (hk : KeepsOwners db db') (hw : Wf db)
    {t t' : Tunnel} (ht : t ∈ db.tunnels) (ht' : t' ∈ db'.tunnels) (hid : t'.id = t.id) :
    t'.principalID = t.principalID := by
  rcases hk.origin t' ht' with ⟨u, hu, huid, hp⟩ | ⟨-, hfresh⟩
  · have : u = t := List.inj_on_of_nodup_map hw.nodup hu ht (huid.trans hid)
    rw [← hp, this]
  · exact absurd hid.symm (hfresh t ht)

theorem KeepsOwners.of_sub {db db' : DB} (hseq : db.tunnelSeq ≤ db'.tunnelSeq)
    (h : ∀ t' ∈ db'.tunnels, ∃ t ∈ db.tunnels, t.id = t'.id ∧ t.principalID = t'.principalID) :
    KeepsOwners db db' :=
  ⟨hseq, fun t' ht' => .inl (h t' ht')⟩

theorem KeepsOwners.of_map {db db' : DB} {f : Tunnel → Tunnel} (hseq : db'.tunnelSeq = db.tunnelSeq)
    (htun : db'.tunnels = db.tunnels.map f)
    (hf : ∀ t, (f t).id = t.id ∧ (f t).principalID = t.principalID) : KeepsOwners db db' :=
  .of_sub hseq.ge fun t' ht' => by
    rw [htun, List.mem_map] at ht'
    obtain ⟨t, ht, rfl⟩ := ht'
    exact ⟨t, ht, (hf t).1.symm, (hf t).2.symm⟩

theorem keepsOwners_of_tunnels_eq {db db' : DB} (hseq : db.tunnelSeq ≤ db'.tunnelSeq)
    (htun : db'.tunnels = db.tunnels) : KeepsOwners db db' :=
  .of_sub hseq fun t' ht' => ⟨t', htun ▸ ht', rfl, rfl⟩

theorem violatedBy_eq_none {db : DB} {t : Tunnel} (h : db.violatedBy t = none) :
    (∀ u ∈ db.tunnels, u.id ≠ t.id) ∧ (∀ u ∈ db.tunnels, u.subdomain ≠ t.subdomain) := by
  unfold DB.violatedBy at h
  split_ifs at h with h1 h2 h3
  simp only [List.any_eq_true, beq_iff_eq, not_exists, not_and] at h1 h3
  exact ⟨h1, h3⟩

/-- The three ways a method leaves the tunnel rows. -/
inductive Shape (db db' : DB) : Prop where
  /-- The rows are those of `db`; the sequence may have moved on. -/
  | same : db'.tunnels = db.tunnels → db.tunnelSeq ≤ db'.tunnelSeq → Shape db db'
  /-- A row with the old sequence value, which no row had, was appended. -/
  | insert (t : Tunnel) : db'.tunnels = db.tunnels ++ [t] → t.id = db.tunnelSeq →
      (∀ u ∈ db.tunnels, u.id ≠ t.id) → db'.tunnelSeq = db.tunnelSeq + 1 → Shape db db'
  /-- Every row was rewritten by `f`, which keeps its id and owner. -/
  | rewrite (f : Tunnel → Tunnel) : db'.tunnels = db.tunnels.map f →
      (∀ t, (f t).id = t.id ∧ (f t).principalID = t.principalID) →
      db'.tunnelSeq = db.tunnelSeq → Shape db db'
  /-- Some rows were deleted. -/
  | delete (p : Tunnel → Bool) : db'.tunnels = db.tunnels.filter p →
      db'.tunnelSeq = db.tunnelSeq → Shape db db'

theorem Query.run_shape (q : Query) (db : DB) : Shape db (q.run db).2 := by
  cases q with
  | upsertPrincipal opts =>
    simp only [Query.run, DB.upsertPrincipal]
    split
    · exact .same rfl le_rfl
    · split_ifs <;> exact .same rfl le_rfl
  | createTunnel opts =>
    simp only [Query.run, DB.createTunnel]
    split
    · exact .same rfl (by simp)
    · exact .insert _ rfl rfl (violatedBy_eq_none ‹_›).1 rfl
  | updateTunnelLastTCPPort id port =>
    exact .rewrite _ rfl (fun t => by split_ifs <;> simp) rfl
  | updateTunnelSubdomain id subdomain =>
    simp only [Query.run, DB.updateTunnelSubdomain]
    split_ifs
    · exact .same rfl le_rfl
    · exact .rewrite _ rfl (fun t => by split_ifs <;> simp) rfl
  | deleteTunnelByID id pid => exact .delete _ rfl rfl
  | _ => exact .same rfl le_rfl

theorem Shape.keepsOwners {db db' : DB} : Shape db db' → KeepsOwners db db'
  | .same htun hseq => keepsOwners_of_tunnels_eq hseq htun
  | .insert t htun hid hfresh hseq => by
    refine ⟨by omega, fun t' ht' => ?_⟩
    rw [htun, List.mem_append, List.mem_singleton] at ht'
    rcases ht' with ht' | rfl
    · exact .inl ⟨t', ht', rfl, rfl⟩
    · exact .inr ⟨hid.ge, hfresh⟩
  | .rewrite f htun hf hseq => .of_map hseq htun hf
  | .delete p htun hseq =>
    .of_sub hseq.ge fun t' ht' => ⟨t', List.mem_of_mem_filter (htun ▸ ht'), rfl, rfl⟩

theorem Shape.wf {db db' : DB} (hw : Wf db) : Shape db db' → Wf db'
  | .same htun hseq => ⟨fun t ht => lt_of_lt_of_le (hw.id_lt t (htun ▸ ht)) hseq, htun ▸ hw.nodup⟩
  | .insert t htun hid hfresh hseq => by
    refine ⟨fun u hu => ?_, ?_⟩
    · rw [htun, List.mem_append, List.mem_singleton] at hu
      rcases hu with hu | rfl
      · have := hw.id_lt u hu; omega
      · omega
    · rw [htun, List.map_append, List.nodup_append]
      refine ⟨hw.nodup, List.nodup_singleton _, fun x hx hy => ?_⟩
      obtain ⟨u, hu, rfl⟩ := List.mem_map.1 hx
      exact hfresh u hu (List.mem_singleton.1 hy)
  | .rewrite f htun hf hseq => by
    have hids : db'.tunnels.map (·.id) = db.tunnels.map (·.id) := by
      rw [htun, List.map_map]
      exact List.map_congr_left fun t _ => (hf t).1
    refine ⟨fun u hu => ?_, hids ▸ hw.nodup⟩
    rw [htun, List.mem_map] at hu
    obtain ⟨t, ht, rfl⟩ := hu
    rw [(hf t).1, hseq]
    exact hw.id_lt t ht
  | .delete p htun hseq => by
    refine ⟨fun u hu => hseq ▸ hw.id_lt u (List.mem_of_mem_filter (htun ▸ hu)), ?_⟩
    rw [htun]
    exact hw.nodup.sublist ((List.filter_sublist _).map _)

/-- No method changes a row's owner or brings an id back. -/
theorem Query.run_keepsOwners (q : Query) (db : DB) : KeepsOwners db (q.run db).2 :=
  (q.run_shape db).keepsOwners

/-- The methods keep the ids unique and below the sequence. -/
theorem Query.run_wf (q : Query) {db : DB} (hw : Wf db) : Wf (q.run db).2 :=
  (q.run_shape db).wf hw

/-- A row read from a store with unique ids tells who owns its id, for good. -/
theorem ownedBy_of_mem {db : DB} (hw : Wf db) {t : Tunnel} (ht : t ∈ db.tunnels) :
    OwnedBy db t.id t.principalID :=
  ⟨hw.id_lt t ht, fun u hu hid => by rw [List.inj_on_of_nodup_map hw.nodup hu ht hid]⟩

/-! ### What a method touches -/

/-- The subdomain a call stores. -/
def Query.subdomainWritten : Query → Option String
  | .createTunnel opts => some opts.subdomain
  | .updateTunnelSubdomain _ subdomain => some subdomain
  | _ => none

/-- Every subdomain after a call was there before, or is the one the call stores. -/
theorem Query.run_subdomain (q : Query) (db : DB) :
    ∀ t' ∈ (q.run db).2.tunnels,
      (∃ t ∈ db.tunnels, t.subdomain = t'.subdomain) ∨ q.subdomainWritten = some t'.subdomain := by
  intro t' ht'
  cases q with
  | createTunnel opts =>
    simp only [Query.run, DB.createTunnel] at ht'
    split at ht'
    · exact .inl ⟨t', ht', rfl⟩
    · rcases List.mem_append.1 ht' with ht' | ht'
      · exact .inl ⟨t', ht', rfl⟩
      · rw [List.mem_singleton.1 ht']; exact .inr rfl
  | updateTunnelSubdomain id subdomain =>
    simp only [Query.run, DB.updateTunnelSubdomain] at ht'
    split_ifs at ht'
    · exact .inl ⟨t', ht', rfl⟩
    · obtain ⟨t, ht, rfl⟩ := List.mem_map.1 ht'
      split_ifs
      · exact .inr rfl
      · exact .inl ⟨t, ht, rfl⟩
  | updateTunnelLastTCPPort id port =>
    obtain ⟨t, ht, rfl⟩ := List.mem_map.1 ht'
    exact .inl ⟨t, ht, by split_ifs <;> rfl⟩
  | deleteTunnelByID id pid => exact .inl ⟨t', List.mem_of_mem_filter ht', rfl⟩
  | upsertPrincipal opts => exact .inl ⟨t', by simpa [Query.run] using ht', rfl⟩
  | _ => exact .inl ⟨t', ht', rfl⟩

end Pgrok.Database
