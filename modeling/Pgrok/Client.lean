import Pgrok.Config

/-!
# The client's `init` command

`pgrok init` (`pgrok/cli/init.go`) writes the client's config file. Its `forward-addr`
flag is rewritten on parse by `deriveHTTPForwardAddress`, which "tries to be smart about
deriving the full HTTP address from incomplete forward host and port information":

    if addr == "" { return "" }
    port, err := strconv.Atoi(addr)        // "Check if it's just a port number"
    if err == nil { return fmt.Sprintf("http://localhost:%d", port) }
    port, err = strconv.Atoi(addr[1:])     // "Check if it's omitting the hostname"
    if err == nil { return fmt.Sprintf("http://localhost:%d", port) }
    if !strings.Contains(addr, "://") { return "http://" + addr }   // "omitting the scheme"
    return addr

`actionInit` then loads the config (a fresh one if loading fails) and stores the three
flags either at the top level or in the named profile, creating the profile when its entry
is missing or nil.

## What is proved

* `deriveHTTPForwardAddress_idempotent` — the function is idempotent; its fixed points are
  exactly the empty string and the strings containing `"://"`, and every output is one.
* `deriveHTTPForwardAddress_port` — a port written in decimal digits, with or without a
  leading `':'`, becomes `http://localhost:` and its value.
* `deriveHTTPForwardAddress_x80` — the second `Atoi` does not look at the byte it drops, so
  the host name `x80` becomes `http://localhost:80`.

## Honest scope

Loading and saving the YAML file, creating its directory and logging are not modelled;
`loaded` is what `loadConfig` returns, `none` when it fails.
-/

namespace Pgrok.Client

open Strconv

/-- `deriveHTTPForwardAddress` (`pgrok/cli/init.go`). `addr[1:]` is the tail of the
non-empty `addr`. -/
def deriveHTTPForwardAddress (addr : Bytes) : Bytes :=
  if addr = [] then []
  else
    match atoi addr with
    | (port, none) => ascii "http://localhost:" ++ formatInt port
    | _ =>
      match atoi addr.tail with
      | (port, none) => ascii "http://localhost:" ++ formatInt port
      | _ => if !contains addr (ascii "://") then ascii "http://" ++ addr else addr

/-- `Atoi` rejects `s`, whatever value it returns with its error. -/
def Rejects (s : Bytes) : Prop := ∀ v, atoi s ≠ (v, none)

/-- A byte that is neither a digit nor a sign makes `Atoi` reject the string. -/
theorem rejects_of_mem {s : Bytes} {x : UInt8} (hx : x ∈ s)
    (h : ¬(isDigit x = true ∨ x = 43 ∨ x = 45)) : Rejects s :=
  fun _ hv => h (parseInt_ok_mem hv x hx)

/-- When `Atoi` rejects the string and its tail, the host is kept. -/
theorem deriveHTTPForwardAddress_of_rejects {addr : Bytes} (hne : addr ≠ [])
    (h₁ : Rejects addr) (h₂ : Rejects addr.tail) :
    deriveHTTPForwardAddress addr =
      if contains addr (ascii "://") then addr else ascii "http://" ++ addr := by
  unfold deriveHTTPForwardAddress
  split
  · contradiction
  · split
    · exact absurd ‹_› (h₁ _)
    · split
      · exact absurd ‹_› (h₂ _)
      · cases contains addr (ascii "://") <;> rfl

theorem ascii_scheme_sep : ascii "://" = [58, 47, 47] := rfl

/-- A string holding `"://"` is a fixed point. -/
theorem deriveHTTPForwardAddress_of_contains {addr : Bytes}
    (h : contains addr (ascii "://") = true) : deriveHTTPForwardAddress addr = addr := by
  obtain ⟨a, b, hab⟩ := (contains_iff _ _).1 h
  rw [ascii_scheme_sep] at hab
  subst hab
  have hcolon : Rejects (a ++ [58, 47, 47] ++ b) := rejects_of_mem (x := 58) (by simp) (by decide)
  have hslash : Rejects (a ++ [58, 47, 47] ++ b).tail := by
    refine rejects_of_mem (x := 47) ?_ (by decide)
    cases a <;> simp
  rw [deriveHTTPForwardAddress_of_rejects (by simp) hcolon hslash, if_pos h]

theorem contains_localhost (x : Bytes) :
    contains (ascii "http://localhost:" ++ x) (ascii "://") = true :=
  contains_append_right x (by decide)

theorem contains_http (x : Bytes) : contains (ascii "http://" ++ x) (ascii "://") = true :=
  contains_append_right x (by decide)

/-- Every output is empty or holds `"://"`. -/
theorem deriveHTTPForwardAddress_output (addr : Bytes) :
    deriveHTTPForwardAddress addr = [] ∨
      contains (deriveHTTPForwardAddress addr) (ascii "://") = true := by
  unfold deriveHTTPForwardAddress
  split
  · exact .inl rfl
  · split
    · exact .inr (contains_localhost _)
    · split
      · exact .inr (contains_localhost _)
      · split
        · exact .inr (contains_http _)
        · rename_i hc
          exact .inr (by simpa using hc)

theorem deriveHTTPForwardAddress_idempotent (s : Bytes) :
    deriveHTTPForwardAddress (deriveHTTPForwardAddress s) = deriveHTTPForwardAddress s ∧
      (deriveHTTPForwardAddress s = s ↔ s = [] ∨ contains s (ascii "://") = true) ∧
      (deriveHTTPForwardAddress s = [] ∨
        contains (deriveHTTPForwardAddress s) (ascii "://") = true) := by
  have hfix : ∀ t, t = [] ∨ contains t (ascii "://") = true → deriveHTTPForwardAddress t = t
    | _, .inl rfl => rfl
    | _, .inr h => deriveHTTPForwardAddress_of_contains h
  refine ⟨hfix _ (deriveHTTPForwardAddress_output s), ⟨fun h => ?_, hfix s⟩,
    deriveHTTPForwardAddress_output s⟩
  rw [← h]
  exact deriveHTTPForwardAddress_output s

/-- A port written in decimal digits, alone or after `':'`, is forwarded to `localhost`. -/
theorem deriveHTTPForwardAddress_port {ds : Bytes} (hne : ds ≠ [])
    (hd : ∀ c ∈ ds, isDigit c = true) (hv : decimalValue ds < 2 ^ 63) :
    deriveHTTPForwardAddress ds = ascii "http://localhost:" ++ formatInt (decimalValue ds) ∧
      deriveHTTPForwardAddress (58 :: ds) =
        ascii "http://localhost:" ++ formatInt (decimalValue ds) := by
  have hds : atoi ds = ((decimalValue ds : Int), none) := parseInt_digits hne hd hv
  constructor
  · simp only [deriveHTTPForwardAddress, hne, if_false, hds]
  · have hcolon : Rejects (58 :: ds) := rejects_of_mem (List.mem_cons_self 58 ds) (by decide)
    unfold deriveHTTPForwardAddress
    split
    · simp at *
    · split
      · exact absurd ‹_› (hcolon _)
      · simp only [List.tail_cons, hds]

theorem deriveHTTPForwardAddress_port_8080 :
    ascii "8080" ≠ [] ∧ (∀ c ∈ ascii "8080", isDigit c = true) ∧
      decimalValue (ascii "8080") < 2 ^ 63 ∧
      (deriveHTTPForwardAddress (ascii "8080") =
          ascii "http://localhost:" ++ formatInt (decimalValue (ascii "8080")) ∧
        deriveHTTPForwardAddress (58 :: ascii "8080") =
          ascii "http://localhost:" ++ formatInt (decimalValue (ascii "8080"))) :=
  ⟨by decide, by decide, by decide, deriveHTTPForwardAddress_port (by decide) (by decide) (by decide)⟩

/-- `addr[1:]` drops the first byte whatever it is, so a host name made of one letter and a
number is read as a port. -/
theorem deriveHTTPForwardAddress_x80 :
    deriveHTTPForwardAddress (ascii "x80") = ascii "http://localhost:80" := by decide

/-! ### `actionInit` -/

/-- The config `actionInit` saves, from the loaded one (`none` when `loadConfig` fails) and
the flags `profile`, `remote-addr`, `forward-addr` and `token`. -/
def actionInit (loaded : Option Config) (profileName remoteAddr forwardAddr token : Bytes) :
    Config :=
  let config := loaded.getD freshConfig
  if profileName = [] then
    { config with remoteAddr := remoteAddr, forwardAddr := forwardAddr, token := token }
  else
    let profiles := config.profiles.getD fun _ => none
    let p : Profile := (config.profile profileName).getD ⟨[], [], [], []⟩
    let p := { p with remoteAddr := remoteAddr, forwardAddr := forwardAddr, token := token }
    { config with profiles := some (Function.update profiles profileName (some (some p))) }

/-- `pgrok init`: the `forward-addr` flag's `Action` rewrites the flag, then `actionInit`. -/
def runInit (loaded : Option Config) (profileName remoteAddr forwardAddr token : Bytes) :
    Config :=
  actionInit loaded profileName remoteAddr (deriveHTTPForwardAddress forwardAddr) token

end Pgrok.Client
