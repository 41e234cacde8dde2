import AppSpec.Setting

/-!
# Integration sections

A section configures one kind of outside service. It is read whole: every setting that is absent has
its default, and the configurations of the providers that the section knows are set apart.
-/

namespace AppSpec

inductive SectionKind where
  | payments
  | sms
  | pushNotifications
  | fileStorage
  | email
  | search
  | analytics
  | adminPanel
  | i18n
  | serverless
  | desktop
  | icons
deriving DecidableEq, Repr, Inhabited

namespace SectionKind

def all : List SectionKind :=
  [.payments, .sms, .pushNotifications, .fileStorage, .email, .search, .analytics, .adminPanel,
    .i18n, .serverless, .desktop, .icons]

def name : SectionKind → String
  | .payments => "payments"
  | .sms => "sms"
  | .pushNotifications => "push_notifications"
  | .fileStorage => "file_storage"
  | .email => "email"
  | .search => "search"
  | .analytics => "analytics"
  | .adminPanel => "admin_panel"
  | .i18n => "i18n"
  | .serverless => "serverless"
  | .desktop => "desktop"
  | .icons => "icons"

def ofName? (s : String) : Option SectionKind :=
  all.find? fun k => k.name == s

end SectionKind

namespace Section

def map (name : String) : Setting :=
  { name := name, reading := .value Setting.emptyMap }

def list (name : String) : Setting :=
  { name := name, reading := .value Setting.emptyList }

def text (name default : String) : Setting :=
  { name := name, reading := .text default }

def texts (name : String) (default : List String) : Setting :=
  { name := name, reading := .value (.list (default.map .string)) }

def flag (name : String) (default : Bool) : Setting :=
  { name := name, reading := .flag default }

end Section

open Section in
/-- The settings of a section, in the order in which they are written. -/
def SectionKind.settings : SectionKind → List Setting
  | .payments =>
    [list "providers", text "default_provider" "stripe", text "currency" "USD", map "settings"]
  | .sms =>
    [list "providers", text "default_provider" "twilio", text "default_country_code" "+1",
      map "settings"]
  | .pushNotifications =>
    [list "providers", text "default_provider" "firebase", map "settings", map "channels"]
  | .fileStorage =>
    [list "providers", text "default_provider" "local", map "settings", map "buckets"]
  | .email => [list "providers", text "default_provider" "smtp", map "settings", map "templates"]
  | .search => [list "providers", text "default_provider" "database", map "settings", map "indexes"]
  | .analytics => [list "providers", text "default_provider" "google", map "settings", map "events"]
  | .adminPanel =>
    [map "theme", map "authentication", map "dashboard", map "navigation", map "permissions",
      map "features", map "customization"]
  | .i18n =>
    [flag "auto_translate" true, texts "providers" ["google_translate"],
      text "fallback_language" "en", list "languages", map "processing", map "security",
      map "performance"]
  | .serverless =>
    [map "providers", map "defaults", map "functions", map "groups", map "api_gateway",
      map "monitoring", map "security", map "deployment", map "ci_cd"]
  | .desktop => [map "window", map "tray", map "menu", map "build"]
  | .icons =>
    [text "default_pack" "material-icons",
      texts "packs" ["material-icons", "font-awesome", "bootstrap-icons"], map "custom_icons"]

/-- The providers whose configurations are set apart, for the sections that have any. -/
def SectionKind.providers : SectionKind → Option (List String)
  | .payments => some ["stripe", "paypal", "square", "razorpay"]
  | .sms => some ["twilio", "aws_sns", "nexmo", "messagebird"]
  | .pushNotifications => some ["firebase", "onesignal", "expo"]
  | .fileStorage => some ["local", "aws_s3", "google_cloud", "azure"]
  | .email => some ["smtp", "sendgrid", "mailgun", "ses"]
  | .search => some ["database", "elasticsearch", "algolia", "meilisearch"]
  | .analytics => some ["google", "mixpanel", "amplitude", "segment"]
  | .adminPanel | .i18n | .serverless | .desktop | .icons => none

structure Section where
  settings : Record
  providers : Option (Entries Value)
deriving DecidableEq, Repr, Inhabited

namespace Section

/-- The configurations of the listed providers that are present, in the list's order. -/
def providerConfigs (allowed : List String) (m : Value.Mapping) : Entries Value :=
  Entries.ofList (allowed.filterMap fun name => (m.get? name).map fun v => (name, v))

def read (kind : SectionKind) (m : Value.Mapping) : Section :=
  ⟨Setting.readAll kind.settings m, kind.providers.map fun allowed => providerConfigs allowed m⟩

def toValue (s : Section) : Value :=
  Record.toValue (s.settings ++
    match s.providers with
    | some configs => [("provider_configs", configs.toValue)]
    | none => [])

end Section

/-- A payment provider that an author defines. -/
structure CustomProvider where
  name : String
  config : Value
deriving DecidableEq, Repr, Inhabited

namespace CustomProvider

/-- The configuration says that its provider is a custom one. -/
def isCustom (config : Value) : Bool :=
  ((config.asMap?.bind fun m => Value.Mapping.get? m "type").bind Value.asString?) == some "custom"

/-- The custom providers of a payments section, in authored order. -/
def ofSection (m : Value.Mapping) : List CustomProvider :=
  m.filterMap fun e =>
    if isCustom e.2 then e.1.scalarText?.map fun name => ⟨name, e.2⟩ else none

def toValue (p : CustomProvider) : Value :=
  .map [(.string "name", .string p.name), (.string "config", p.config)]

end CustomProvider

namespace SocialAuth

/-- The settings of social login. -/
def settings : List Setting :=
  [Section.list "providers", Section.text "redirect_after" "/dashboard",
    Section.flag "create_account_if_missing" true]

def providers : List String := ["google", "facebook", "twitter", "github"]

end SocialAuth

end AppSpec
