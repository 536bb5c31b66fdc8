import Pgrok.Strconv

/-!
# The client's config file

The client keeps its settings in a YAML file, decoded into a `Config`: the fields of the
default profile at the top level (the embedded `Profile`) and a map of named profiles.
`loadConfig` makes the map when the file has none; an entry `name:` with no value decodes to
a nil `*Profile` in it.

`ApplyProfile(name)` lays a named profile over the top-level fields:

    if name == "" { return nil }
    profile, ok := c.Profiles[name]
    if !ok { return fmt.Errorf("profile %q not found", name) }
    if profile.RemoteAddr != "" { c.RemoteAddr = profile.RemoteAddr }
    ...

It asks whether the name is a key of the map, not whether its entry is nil, so on a key bound
to nil the first field it reads dereferences a nil pointer.

## What is proved

* `applyProfile_nil_entry` — on the config `profiles: {work: }`, `ApplyProfile("work")`
  dereferences the nil entry and panics.

## Honest scope

Reading, decoding, encoding and writing the file are not modelled. A call that panics is
`.error` with the text of Go's runtime error; `%q` is a parameter.
-/

namespace Pgrok.Client

/-- `Profile`. -/
structure Profile where
  /-- `RemoteAddr`. -/
  remoteAddr : Bytes
  /-- `ForwardAddr`. -/
  forwardAddr : Bytes
  /-- `Token`. -/
  token : Bytes
  /-- `DynamicForwards`. -/
  dynamicForwards : Bytes
  deriving DecidableEq, Repr

/-- `Config`: the embedded default `Profile`, and `Profiles`, the Go map
`map[string]*Profile`. `none` is a nil map; a name maps to `none` when it is not a key and to
`some none` when it is bound to a nil `*Profile`. -/
structure Config extends Profile where
  /-- `Profiles`. -/
  profiles : Option (Bytes → Option (Option Profile))

/-- `profile, ok := c.Profiles[name]`: `none` when `ok` is false. -/
def Config.lookup (c : Config) (name : Bytes) : Option (Option Profile) :=
  c.profiles.bind fun m => m name

/-- `c.Profiles[name]` as a pointer: a nil map, a missing key and a nil entry all read as
nil. -/
def Config.profile (c : Config) (name : Bytes) : Option Profile :=
  (c.lookup name).join

/-- `&Config{Profiles: make(map[string]*Profile)}`. -/
def freshConfig : Config :=
  { remoteAddr := [], forwardAddr := [], token := [], dynamicForwards := [],
    profiles := some fun _ => none }

/-- `if v != "" { field = v }`. -/
def setIfNonEmpty (field v : Bytes) : Bytes := if v = [] then field else v

/-- The text of the runtime error of a nil pointer dereference. -/
def nilPointerDereference : Bytes :=
  ascii "runtime error: invalid memory address or nil pointer dereference"

/-- `c.ApplyProfile(name)`: `.ok (c', err)` when it returns, with the config it leaves and
its `error`, and `.error msg` when it panics. `quote` is `%q`. -/
def Config.applyProfile (quote : Bytes → Bytes) (c : Config) (name : Bytes) :
    Except Bytes (Config × Option Bytes) :=
  if name = [] then .ok (c, none)
  else
    match c.lookup name with
    | none => .ok (c, some (ascii "profile " ++ quote name ++ ascii " not found"))
    | some none => .error nilPointerDereference
    | some (some profile) =>
      .ok ({ c with
        remoteAddr := setIfNonEmpty c.remoteAddr profile.remoteAddr
        forwardAddr := setIfNonEmpty c.forwardAddr profile.forwardAddr
        token := setIfNonEmpty c.token profile.token
        dynamicForwards := setIfNonEmpty c.dynamicForwards profile.dynamicForwards }, none)

theorem applyProfile_nil_entry (quote : Bytes → Bytes) :
    Config.applyProfile quote
      { remoteAddr := [], forwardAddr := [], token := [], dynamicForwards := [],
        profiles := some fun n => if n = ascii "work" then some none else none }
      (ascii "work") = .error nilPointerDereference := by
  rfl

end Pgrok.Client
