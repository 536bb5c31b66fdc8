import Pgrok.Database

/-!
# Handlers as programs over their calls

A handler of the web server runs Go code between calls that leave the process: to the
store (`*database.DB`), to the identity provider, and to the random source behind
`strutil.MustRandomChars`. Between two such calls it touches nothing shared, so the calls
are the points at which requests interleave. A handler is therefore modelled as a `Prog`:
a tree whose inner nodes are the calls it makes, with a branch for every answer, and whose
leaves are its results. `Prog` is a monad, so the handlers are written in `do` notation in
the order of the Go code.

`Call.Step` says how a call is answered: a call to the store runs atomically on it; or
fails with an error of the connection before it runs; or runs, commits, and loses its answer
to an error of the connection, so that the handler sees an error although the write is made.
The identity provider and the random source may answer anything. `Prog.Exec` runs a whole
program so.

`Guarded` is what a program may do from some point on: every call it can still make is
allowed by a set of `Rules`, given what the answers it has had taught it, and every result
it can end with satisfies a postcondition. `Guarded.bind` composes it along `>>=`.
-/

namespace Pgrok.Web

open Database

/-- The provider's discovery document, as far as the server reads it. -/
structure Provider where
  /-- `p.Endpoint().AuthURL`. -/
  authURL : String
  deriving DecidableEq, Repr

/-- The answer of the code exchange (`*oauth2.Token`). -/
structure Token where
  /-- The access token, which `UserInfo` presents. -/
  accessToken : String
  /-- `token.Extra("id_token")`, when it is a string. -/
  idToken : Option String
  deriving DecidableEq, Repr

/-- A verified ID token (`*oidc.IDToken`): its `Nonce`, empty when it carries none. -/
structure IDToken where
  /-- `Nonce`. -/
  nonce : String
  deriving DecidableEq, Repr

/-- A value of the user-info claims, as `claims[k].(string)` sees it. -/
inductive ClaimValue where
  /-- A JSON string. -/
  | string (s : String)
  /-- Any other JSON value. -/
  | other
  deriving DecidableEq, Repr

/-- The user-info response (`*oidc.UserInfo`): its claims as `Claims(&claims)` decodes
them into a `map[string]any`, or the decoding error. -/
structure UserInfo where
  /-- The decoded claims, or the text of the error. -/
  claims : Except String (List (String × ClaimValue))

/-- A call to the identity provider. -/
inductive IdPCall where
  /-- `oidc.NewProvider(ctx, issuer)`: discovery. -/
  | newProvider (issuer : String)
  /-- `oauth2Config.Exchange(ctx, code)`. -/
  | exchange (code : String)
  /-- `verifier.Verify(ctx, rawIDToken)`. -/
  | verify (rawIDToken : String)
  /-- `p.UserInfo(ctx, oauth2.StaticTokenSource(token))`. -/
  | userInfo (token : Token)
  deriving DecidableEq, Repr

/-- What the provider answers besides an error. -/
@[reducible] def IdPCall.Ret : IdPCall → Type
  | .newProvider _ => Provider
  | .exchange _ => Token
  | .verify _ => IDToken
  | .userInfo _ => UserInfo

/-- A call a handler makes. -/
inductive Call where
  /-- A method of `*database.DB`. -/
  | db (q : Query)
  /-- A call to the identity provider; its error is the error's text. -/
  | idp (c : IdPCall)
  /-- `strutil.MustRandomChars(n)`. -/
  | randomChars (n : Nat)

/-- The answer of a call. -/
@[reducible] def Call.Ret : Call → Type
  | .db q => Except DBError q.Ret
  | .idp c => Except String c.Ret
  | .randomChars _ => String

/-- A handler: its calls, each continued by what the handler does with the answer. -/
inductive Prog (α : Type) where
  /-- The handler returns. -/
  | pure (a : α)
  /-- The handler makes call `c` and continues with `k` of the answer. -/
  | call (c : Call) (k : c.Ret → Prog α)

namespace Prog

/-- Continue every result of `x` by `f`. -/
protected def bind {α β : Type} : Prog α → (α → Prog β) → Prog β
  | .pure a, f => f a
  | .call c k, f => .call c fun r => (k r).bind f

instance : Monad Prog where
  pure := .pure
  bind := Prog.bind

@[simp] theorem pure_bind {α β : Type} (a : α) (f : α → Prog β) :
    (Prog.pure a >>= f) = f a := rfl

@[simp] theorem pure_eq {α : Type} (a : α) : (Pure.pure a : Prog α) = .pure a := rfl

/-- One call to the store. -/
def query (q : Query) : Prog (Except DBError q.Ret) := .call (.db q) .pure

/-- One call to the identity provider. -/
def idp (c : IdPCall) : Prog (Except String c.Ret) := .call (.idp c) .pure

/-- `strutil.MustRandomChars(n)`. -/
def mustRandomChars (n : Nat) : Prog String := .call (.randomChars n) .pure

end Prog

/-! ### Answers -/

/-- How call `c` on store `db` may be answered with `a`, leaving store `db'`: a call to the
store runs atomically, fails before running, or runs and has its answer replaced by an error
of the connection; the provider and the random source answer anything. -/
inductive Call.Step : (c : Call) → DB → c.Ret → DB → Prop where
  /-- The method runs on the store. -/
  | run (q : Query) (db : DB) : Call.Step (.db q) db (q.run db).1 (q.run db).2
  /-- The call fails before reaching the store. -/
  | fault (q : Query) (db : DB) (e : String) : Call.Step (.db q) db (.error (.other e)) db
  /-- The method runs on the store and commits; then the connection fails, and the caller
  gets an error. -/
  | lost (q : Query) (db : DB) (e : String) : Call.Step (.db q) db (.error (.other e)) (q.run db).2
  /-- The provider answers. -/
  | idp (c : IdPCall) (db : DB) (a : Except String c.Ret) : Call.Step (.idp c) db a db
  /-- The random source answers. -/
  | random (n : Nat) (db : DB) (s : String) : Call.Step (.randomChars n) db s db

/-- A whole run of a program from store `db`: it returns `a` and leaves `db'`. -/
inductive Prog.Exec {α : Type} : Prog α → DB → α → DB → Prop where
  /-- A returned program. -/
  | pure (a : α) (db : DB) : Prog.Exec (.pure a) db a db
  /-- One call, then the rest. -/
  | call {c : Call} {k : c.Ret → Prog α} {db db₁ db₂ : DB} {r : c.Ret} {a : α} :
      Call.Step c db r db₁ → Prog.Exec (k r) db₁ a db₂ → Prog.Exec (.call c k) db a db₂

/-- A call leaves the store it found, or the one its method leaves, whatever it answers. -/
theorem Call.Step.store_cases {c : Call} {db db' : DB} {a : c.Ret} (h : Call.Step c db a db') :
    db' = db ∨ ∃ q, c = .db q ∧ db' = (q.run db).2 := by
  cases h with
  | run q db | lost q db _ => exact .inr ⟨q, rfl, rfl⟩
  | _ => exact .inl rfl

/-- Every store a call leaves keeps the owners of the one it found. -/
theorem Call.Step.keepsOwners {c : Call} {db db' : DB} {a : c.Ret} (h : Call.Step c db a db') :
    KeepsOwners db db' := by
  rcases h.store_cases with rfl | ⟨q, -, rfl⟩
  · exact keepsOwners_of_tunnels_eq le_rfl rfl
  · exact q.run_keepsOwners db

theorem Call.Step.wf {c : Call} {db db' : DB} {a : c.Ret} (h : Call.Step c db a db') (hw : Wf db) :
    Wf db' := by
  rcases h.store_cases with rfl | ⟨q, -, rfl⟩
  · exact hw
  · exact q.run_wf hw

/-! ### Running with fixed answers -/

/-- A fixed behaviour of the identity provider and of the random source. -/
structure Oracle where
  /-- The provider's answer to each call. -/
  idp : (c : IdPCall) → Except String c.Ret
  /-- What `MustRandomChars(n)` returns. -/
  random : Nat → String

/-- The answer to call `c` on store `db`: the store runs the method, the oracle answers the
rest. -/
def Call.answer (o : Oracle) : (c : Call) → DB → c.Ret × DB
  | .db q, d => q.run d
  | .idp c, d => (o.idp c, d)
  | .randomChars n, d => (o.random n, d)

theorem Call.answer_step (o : Oracle) (c : Call) (db : DB) :
    Call.Step c db (c.answer o db).1 (c.answer o db).2 := by
  cases c with
  | db q => exact .run q db
  | idp c => exact .idp c db _
  | randomChars n => exact .random n db _

/-- Run `p` from store `db`, with the answers of `o`. -/
def Prog.run {α : Type} (o : Oracle) : Prog α → DB → α × DB
  | .pure a, db => (a, db)
  | .call c k, db => (k (c.answer o db).1).run o (c.answer o db).2

/-- A run with fixed answers is a run. -/
theorem Prog.run_exec {α : Type} (o : Oracle) (p : Prog α) (db : DB) :
    Prog.Exec p db (p.run o db).1 (p.run o db).2 := by
  induction p generalizing db with
  | pure a => exact .pure a db
  | call c k ih => exact .call (c.answer_step o db) (ih _ _)

/-! ### Guarded programs -/

/-- What calls are allowed, what answers can come, and what an answer teaches, over a kind
`K` of knowledge. -/
structure Rules (K : Type) where
  /-- The calls allowed, knowing `κ`. -/
  allowed : K → Call → Prop
  /-- The answers a call can get. -/
  answers : (c : Call) → c.Ret → Prop
  /-- What an answer adds to what is known. -/
  learn : K → (c : Call) → c.Ret → K

/-- From knowledge `κ` on, `prog` makes only allowed calls and ends only with results that
`post` admits, over every sequence of answers the rules admit. -/
inductive Guarded {K α : Type} (R : Rules K) (post : K → α → Prop) : K → Prog α → Prop where
  /-- A returned program. -/
  | pure {κ : K} {a : α} : post κ a → Guarded R post κ (.pure a)
  /-- An allowed call, whose every admitted answer leads to a guarded program. -/
  | call {κ : K} {c : Call} {k : c.Ret → Prog α} : R.allowed κ c →
      (∀ a, R.answers c a → Guarded R post (R.learn κ c a) (k a)) →
      Guarded R post κ (.call c k)

namespace Guarded

variable {K α β : Type} {R : Rules K}

theorem bind {post₁ : K → α → Prop} {post₂ : K → β → Prop} {κ : K} {x : Prog α}
    {f : α → Prog β} (hx : Guarded R post₁ κ x) (hf : ∀ κ' a, post₁ κ' a → Guarded R post₂ κ' (f a)) :
    Guarded R post₂ κ (x >>= f) := by
  induction hx with
  | pure h => exact hf _ _ h
  | call hc _ ih => exact .call hc ih

theorem mono {post post' : K → α → Prop} {κ : K} {x : Prog α} (hx : Guarded R post κ x)
    (h : ∀ κ' a, post κ' a → post' κ' a) : Guarded R post' κ x := by
  induction hx with
  | pure hp => exact .pure (h _ _ hp)
  | call hc _ ih => exact .call hc ih

/-- A branch, each arm guarded under its condition. -/
theorem ite {post : K → α → Prop} {κ : K} {c : Prop} [Decidable c] {a b : Prog α}
    (ha : c → Guarded R post κ a) (hb : ¬c → Guarded R post κ b) :
    Guarded R post κ (if c then a else b) := by
  by_cases h : c
  · simpa only [if_pos h] using ha h
  · simpa only [if_neg h] using hb h

/-- A run of a guarded program ends with a result the postcondition admits, when the rules
admit every answer a call can get. -/
theorem exec {post : K → α → Prop} {κ : K} {p : Prog α} {db db' : DB} {a : α}
    (hg : Guarded R post κ p)
    (hR : ∀ {c : Call} {db db' : DB} {r : c.Ret}, Call.Step c db r db' → R.answers c r)
    (h : Prog.Exec p db a db') : ∃ κ', post κ' a := by
  induction h generalizing κ with
  | pure => cases hg with
    | pure hp => exact ⟨_, hp⟩
  | call hc _ ih => cases hg with
    | call _ hk => exact ih (hk _ (hR hc))

end Guarded

/-- The rules that allow every call and admit every answer. -/
def Rules.any : Rules Unit := ⟨fun _ _ => True, fun _ _ => True, fun _ _ _ => ()⟩

/-- Under `Rules.any`, every program is guarded for the trivial postcondition. -/
theorem Guarded.any {α : Type} (p : Prog α) : Guarded Rules.any (fun _ _ => True) () p := by
  induction p with
  | pure a => exact .pure trivial
  | call c k ih => exact .call trivial fun a _ => ih a

/-! ### What a request has seen -/

/-- A call with its answer. -/
@[reducible] def Entry : Type := Σ c : Call, c.Ret

/-- `p` becomes `p'` after the calls of `log`, each answered as `Call.Step` allows on some
store: what is left of a handler after some of its calls, whatever other requests did to the
store between them. -/
inductive Prog.Reaches {α : Type} : Prog α → List Entry → Prog α → Prop where
  /-- No call yet. -/
  | refl (p : Prog α) : Prog.Reaches p [] p
  /-- The first call, answered, then the rest. -/
  | call {c : Call} {k : c.Ret → Prog α} {r : c.Ret} {log : List Entry} {p' : Prog α}
      {db db' : DB} : Call.Step c db r db' → Prog.Reaches (k r) log p' →
      Prog.Reaches (.call c k) (⟨c, r⟩ :: log) p'

/-- One more call, answered. -/
theorem Prog.Reaches.snoc {α : Type} {p : Prog α} {log : List Entry} {c : Call}
    {k : c.Ret → Prog α} {r : c.Ret} {db db' : DB} (h : Prog.Reaches p log (.call c k))
    (hc : Call.Step c db r db') : Prog.Reaches p (log ++ [⟨c, r⟩]) (k r) := by
  generalize hq : Prog.call c k = q at h
  induction h with
  | refl => subst hq; exact .call hc (.refl _)
  | call hc' _ ih => exact .call hc' (ih hq)

/-- Rules that know what the request has seen: its calls with their answers, in order; and
that admit every answer. -/
def Rules.ofLog (allowed : List Entry → Call → Prop) : Rules (List Entry) :=
  ⟨allowed, fun _ _ => True, fun log c a => log ++ [⟨c, a⟩]⟩

namespace Guarded

variable {α : Type} {A : List Entry → Call → Prop} {post : List Entry → α → Prop}

/-- What is left of a guarded program after some calls is guarded, knowing their answers. -/
theorem reaches {κ log : List Entry} {p p' : Prog α} (hg : Guarded (Rules.ofLog A) post κ p)
    (h : Prog.Reaches p log p') : Guarded (Rules.ofLog A) post (κ ++ log) p' := by
  induction h generalizing κ with
  | refl => simpa using hg
  | call _ _ ih =>
    cases hg with
    | call _ hk =>
      simpa only [Rules.ofLog, List.append_assoc, List.singleton_append] using ih (hk _ trivial)

/-- The log a program ends with extends the one it started with. -/
theorem grows {κ : List Entry} {p : Prog α} (hg : Guarded (Rules.ofLog A) post κ p) :
    Guarded (Rules.ofLog A) (fun κ' a => κ <+: κ' ∧ post κ' a) κ p := by
  induction hg with
  | pure h => exact .pure ⟨List.prefix_refl _, h⟩
  | call hc _ ih =>
    exact .call hc fun a ha =>
      (ih a ha).mono fun _ _ h => ⟨(List.prefix_append _ _).trans h.1, h.2⟩

end Guarded

end Pgrok.Web
