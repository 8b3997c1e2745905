import SearchClient.Number.Decimal
import SearchClient.Session.Basic

/-!
# Settings

Where the daemon is and how long to wait for it, as environment variables say. A number that is
missing, blank or malformed has its default, and so has an empty host.
-/

namespace SearchClient

/-- The settings of a client. -/
structure Settings where
  host : Text := "localhost".toList
  port : Int := 1234
  username : Option Text := none
  password : Option Text := none
  connectTimeout : Option Binary64 := some (.ofInt 2)
  readTimeout : Option Binary64 := some (.ofInt 30)
  deriving DecidableEq

/-- Environment variables and their values. -/
abbrev Environment := List (Text × Text)

namespace Settings

def valueOf? (environment : Environment) (name : String) : Option Text :=
  environment.lookup name.toList

def ofEnvironment (environment : Environment) : Settings :=
  let value? := valueOf? environment
  let number? := fun name => value? name |>.bind Binary64.read?
  let defaults : Settings := {}
  { host := ((value? "INDEX_CLIENT_HOST").filter fun s => !s.isEmpty).getD defaults.host
    port := ((value? "INDEX_CLIENT_PORT").bind Numeral.read?).getD defaults.port
    username := value? "INDEX_CLIENT_USER"
    password := value? "INDEX_CLIENT_PASSWORD"
    connectTimeout := number? "INDEX_CLIENT_CONNECT_TIMEOUT" <|> defaults.connectTimeout
    readTimeout := number? "INDEX_CLIENT_READ_TIMEOUT" <|> defaults.readTimeout }

/-- The account for these settings; a name or password given here wins over them. -/
def account (s : Settings) (username password : Option Text) : Account :=
  { host := s.host
    port := s.port
    username := (username <|> s.username).getD []
    password := (password <|> s.password).getD []
    connectTimeout := s.connectTimeout
    readTimeout := s.readTimeout }

end Settings
end SearchClient
