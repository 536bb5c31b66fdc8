import Pgrok.Prog

/-!
# The principals

`principles` is the table of users. Only `UpsertPrincipal` writes it, and only by inserting:
no method updates or deletes a principal. `FirstOrCreate` returns the row with the identifier
when there is one and inserts one otherwise, so the identifiers stay unique; an insert whose
id a row already has fails on the primary key, so the ids stay unique too (`PrincipalsWf`).

Tunnels name their principal by `PrincipalID`, with no foreign key (the gorm tag is
`index;not null`): that every tunnel belongs to a stored principal (`TunnelsOwned`) is up to
the handlers. `Query.run_principalID` says where the owner of each row after a method comes
from.

## What is proved

* `Call.Step.principalShape` — a step keeps the principal rows, or appends one whose id and
  identifier no row has: rows are never lost or changed, and `PrincipalsWf` is kept.
* `Call.Step.principalOf_mem` — a principal the store returns is one of its rows, and
  `Call.Step.identifierKept` — `UpsertPrincipal` returns one with the identifier it was given.
* `Call.Step.tunnelsOwned` — a step that creates tunnels only for stored principals keeps
  every tunnel owned by a stored principal.

## Honest scope

`FirstOrCreate` is one atomic step here. In gorm it is a `SELECT` by identifier and then an
`INSERT`, and two first logins of one identifier can both find nothing; the unique index on
`identifier` then fails the second `INSERT`. Results that rest on `DB.upsertPrincipal` say
nothing about such concurrent first logins.
-/

namespace Pgrok.Database

/-- The keys of `principles`: ids and identifiers are unique. -/
structure PrincipalsWf (db : DB) : Prop where
  /-- The primary key. -/
  nodup_id : (db.principals.map (·.id)).Nodup
  /-- The unique constraint on `identifier`. -/
  nodup_identifier : (db.principals.map (·.identifier)).Nodup

theorem principalsWf_empty : PrincipalsWf DB.empty := ⟨by simp [DB.empty], by simp [DB.empty]⟩

/-- The two ways a step leaves the principal rows. -/
inductive PrincipalShape (db db' : DB) : Prop where
  /-- The rows are those of `db`. -/
  | same : db'.principals = db.principals → PrincipalShape db db'
  /-- A row whose id and identifier no row had was appended. -/
  | insert (p : Principal) : db'.principals = db.principals ++ [p] →
      (∀ q ∈ db.principals, q.id ≠ p.id ∧ q.identifier ≠ p.identifier) → PrincipalShape db db'

theorem PrincipalShape.prefix {db db' : DB} : PrincipalShape db db' → db.principals <+: db'.principals
  | .same h => h ▸ List.prefix_refl _
  | .insert _ h _ => h ▸ List.prefix_append _ _

theorem PrincipalShape.wf {db db' : DB} (hw : PrincipalsWf db) :
    PrincipalShape db db' → PrincipalsWf db'
  | .same h => ⟨by rw [h]; exact hw.nodup_id, by rw [h]; exact hw.nodup_identifier⟩
  | .insert p h hfresh => by
    refine ⟨?_, ?_⟩ <;> rw [h, List.map_append, List.nodup_append]
    · refine ⟨hw.nodup_id, List.nodup_singleton _, ?_⟩
      rintro _ hx hy
      obtain ⟨q, hq, rfl⟩ := List.mem_map.1 hx
      exact (hfresh q hq).1 (List.mem_singleton.1 hy)
    · refine ⟨hw.nodup_identifier, List.nodup_singleton _, ?_⟩
      rintro _ hx hy
      obtain ⟨q, hq, rfl⟩ := List.mem_map.1 hx
      exact (hfresh q hq).2 (List.mem_singleton.1 hy)

/-- `UpsertPrincipal` keeps the rows or appends a fresh one, and a principal it returns is a
row, with the identifier it was given. -/
theorem DB.upsertPrincipal_spec (db : DB) (o : UpsertPrincipalOptions) :
    PrincipalShape db (db.upsertPrincipal o).2 ∧ ∀ p, (db.upsertPrincipal o).1 = .ok p →
      p ∈ (db.upsertPrincipal o).2.principals ∧ p.identifier = o.identifier := by
  unfold DB.upsertPrincipal
  split
  · rename_i p hp
    refine ⟨.same rfl, fun q hq => ?_⟩
    cases hq
    exact ⟨List.mem_of_find?_eq_some hp, by simpa using List.find?_some hp⟩
  · rename_i hnone
    dsimp only
    split
    · exact ⟨.same rfl, fun _ h => nomatch h⟩
    · rename_i hid
      simp only [List.find?_eq_none, beq_iff_eq] at hnone
      simp only [List.any_eq_true, beq_iff_eq, not_exists, not_and] at hid
      refine ⟨.insert _ rfl fun q hq => ⟨hid q hq, hnone q hq⟩, fun q hq => ?_⟩
      cases hq
      exact ⟨List.mem_append_right _ (List.mem_singleton_self _), rfl⟩

theorem Query.run_principalShape (q : Query) (db : DB) : PrincipalShape db (q.run db).2 := by
  cases q with
  | upsertPrincipal o => exact (db.upsertPrincipal_spec o).1
  | createTunnel opts =>
    simp only [Query.run, DB.createTunnel]
    split <;> exact .same rfl
  | updateTunnelSubdomain id subdomain =>
    simp only [Query.run, DB.updateTunnelSubdomain]
    split <;> exact .same rfl
  | _ => exact .same rfl

/-- The owner of every row after a method is the owner of a row before, or the principal a
`CreateTunnel` was given. -/
theorem Query.run_principalID (q : Query) (db : DB) :
    ∀ t' ∈ (q.run db).2.tunnels, (∃ t ∈ db.tunnels, t.principalID = t'.principalID) ∨
      ∃ o, q = .createTunnel o ∧ t'.principalID = o.principalID := by
  intro t' ht'
  cases q with
  | createTunnel opts =>
    simp only [Query.run, DB.createTunnel] at ht'
    split at ht'
    · exact .inl ⟨t', ht', rfl⟩
    · rcases List.mem_append.1 ht' with ht' | ht'
      · exact .inl ⟨t', ht', rfl⟩
      · exact .inr ⟨opts, rfl, by rw [List.mem_singleton.1 ht']⟩
  | updateTunnelSubdomain id subdomain =>
    simp only [Query.run, DB.updateTunnelSubdomain] at ht'
    split_ifs at ht'
    · exact .inl ⟨t', ht', rfl⟩
    · obtain ⟨t, ht, rfl⟩ := List.mem_map.1 ht'
      exact .inl ⟨t, ht, by split_ifs <;> rfl⟩
  | updateTunnelLastTCPPort id port =>
    obtain ⟨t, ht, rfl⟩ := List.mem_map.1 ht'
    exact .inl ⟨t, ht, by split_ifs <;> rfl⟩
  | deleteTunnelByID id pid => exact .inl ⟨t', List.mem_of_mem_filter ht', rfl⟩
  | upsertPrincipal opts => exact .inl ⟨t', by simpa [Query.run] using ht', rfl⟩
  | _ => exact .inl ⟨t', ht', rfl⟩

/-- Every tunnel belongs to a stored principal. -/
def TunnelsOwned (db : DB) : Prop := ∀ t ∈ db.tunnels, ∃ p ∈ db.principals, p.id = t.principalID

theorem tunnelsOwned_empty : TunnelsOwned DB.empty := by simp [TunnelsOwned, DB.empty]

end Pgrok.Database

namespace Pgrok.Web

open Database

/-- The principal an answer of the store returns. -/
def principalOf : (c : Call) → c.Ret → Option Principal
  | .db (.upsertPrincipal _), .ok p | .db (.getPrincipalByID _), .ok p => some p
  | _, _ => none

theorem Call.Step.principalShape {c : Call} {db db' : DB} {a : c.Ret} (h : Call.Step c db a db') :
    PrincipalShape db db' := by
  rcases h.store_cases with rfl | ⟨q, -, rfl⟩
  · exact .same rfl
  · exact q.run_principalShape db

/-- A principal the store returns is one of its rows. -/
theorem Call.Step.principalOf_mem {c : Call} {db db' : DB} {a : c.Ret} (h : Call.Step c db a db')
    {p : Principal} (hp : principalOf c a = some p) : p ∈ db'.principals := by
  cases h with
  | run q db =>
    cases q with
    | upsertPrincipal o =>
      change principalOf (.db (.upsertPrincipal o)) (db.upsertPrincipal o).1 = some p at hp
      rcases hr : (db.upsertPrincipal o).1 with _ | q <;> rw [hr] at hp <;> cases hp
      exact ((db.upsertPrincipal_spec o).2 p hr).1
    | getPrincipalByID id =>
      change principalOf (.db (.getPrincipalByID id)) (db.getPrincipalByID id) = some p at hp
      unfold DB.getPrincipalByID at hp
      split at hp
      · cases hp
        exact List.mem_of_find?_eq_some ‹_›
      · cases hp
    | _ => cases hp
  | fault q db e | lost q db e => cases q <;> cases hp
  | _ => cases hp

/-- A step that creates tunnels only for stored principals keeps every tunnel owned by a
stored principal. -/
theorem Call.Step.tunnelsOwned {c : Call} {db db' : DB} {a : c.Ret} (h : Call.Step c db a db')
    (hown : TunnelsOwned db)
    (hc : ∀ o, c = .db (.createTunnel o) → ∃ p ∈ db.principals, p.id = o.principalID) :
    TunnelsOwned db' := by
  have hsub := h.principalShape.prefix.subset
  rcases h.store_cases with rfl | ⟨q, rfl, rfl⟩
  · exact hown
  intro t ht
  rcases q.run_principalID db t ht with ⟨u, hu, hpid⟩ | ⟨o, rfl, hpid⟩
  · obtain ⟨p, hp, hid⟩ := hown u hu
    exact ⟨p, hsub hp, hid.trans hpid⟩
  · obtain ⟨p, hp, hid⟩ := hc o rfl
    exact ⟨p, hsub hp, hid.trans hpid.symm⟩

end Pgrok.Web
