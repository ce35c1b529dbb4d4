import Sailplane.Json.Record

/-!
# Settings

The settings of HTTP transfers and of a SkySight account, and how they are stored.
-/
namespace Sailplane.Config

open Json (Format Record)

/-- How the program names itself to servers. -/
def userAgent : String := "soar/0.1.0"

/-- Settings of HTTP transfers. -/
structure TransportSettings where
  /-- The name sent with every request. -/
  userAgent : String
  /-- How many seconds a connection may take; no limit if absent. -/
  connectTimeout : Option UInt64
  deriving Repr, DecidableEq

/-- The settings used where nothing else is given. -/
def TransportSettings.standard : TransportSettings := ⟨Config.userAgent, none⟩

/-- Transport settings; any of them may be left out. -/
def transportSettings : Format TransportSettings :=
  ((Record.field "user_agent" .text (some userAgent)).pair
      (.field "connect_timeout_secs" (.option .word) (some none))
    |>.map (fun (userAgent, connectTimeout) => ⟨userAgent, connectTimeout⟩)
      (fun settings => (settings.userAgent, settings.connectTimeout))).format "TransportConfig"

/-- A name and a password. -/
structure Login where
  /-- The name. -/
  username : String
  /-- The password. -/
  password : String
  deriving Repr, DecidableEq

/-- A login. -/
def login : Format Login :=
  ((Record.field "username" .text).pair (.field "password" .text)
    |>.map (fun (username, password) => ⟨username, password⟩)
      (fun login => (login.username, login.password))).format "AuthenticationInfo"

/-- An account of the weather service, and where the service is. -/
structure Account where
  /-- The account's name. -/
  username : String
  /-- The account's password. -/
  password : String
  /-- The address all requests start with. -/
  baseUrl : String
  /-- The key sent while no key of the account is valid. -/
  appKey : String
  /-- The name sent with every request. -/
  userAgent : String
  deriving Repr, DecidableEq

/-- The address of the service. -/
def serviceUrl : String := "https://skysight.io/api"

/-- The key of the program. -/
def applicationKey : String := "OpenSoar"

/-- An account; the address and the keys of the program may be left out. -/
def account : Format Account :=
  ((Record.field "username" .text).pair (.pair (.field "password" .text)
      (.pair (.field "base_url" .text (some serviceUrl))
        (.pair (.field "app_key" .text (some applicationKey))
          (.field "user_agent" .text (some userAgent)))))
    |>.map (fun (username, password, baseUrl, appKey, userAgent) =>
        ⟨username, password, baseUrl, appKey, userAgent⟩)
      (fun account => (account.username, account.password, account.baseUrl, account.appKey,
        account.userAgent))).format "SkysightConfig"

/-- A text without the given character at its front. -/
def trimStart (c : Char) (text : String) : String :=
  String.ofList (text.toList.dropWhile (· == c))

/-- A text without the given character at its end. -/
def trimEnd (c : Char) (text : String) : String :=
  String.ofList (text.toList.reverse.dropWhile (· == c)).reverse

namespace Account

/-- The account of a name and a password at the service. -/
def new (username password : String) : Account :=
  ⟨username, password, serviceUrl, applicationKey, Config.userAgent⟩

/-- The address of a part of the service, with one slash between. -/
def url (account : Account) (part : String) : String :=
  let base := trimEnd '/' account.baseUrl
  if part.isEmpty then base else base ++ "/" ++ trimStart '/' part

/-- The address that gives out keys. -/
def authUrl (account : Account) : String := account.url "auth"

/-- The account in words, without its password. -/
def describe (account : Account) : String :=
  "SkysightConfig \x7b username: " ++ Text.quoted account.username ++ ", base_url: " ++
    Text.quoted account.baseUrl ++ ", app_key: " ++ Text.quoted account.appKey ++
    ", user_agent: " ++ Text.quoted account.userAgent ++ ", .. \x7d"

end Account

end Sailplane.Config
