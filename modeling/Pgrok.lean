import Pgrok.Strconv
import Pgrok.Config
import Pgrok.Client
import Pgrok.Database
import Pgrok.Prog
import Pgrok.Principals
import Pgrok.WebServer
import Pgrok.Server
import Pgrok.Discipline
import Pgrok.Tunnels
import Pgrok.Login
import Pgrok.SignIn
import Pgrok.Accounts
import Pgrok.FirstLogin
