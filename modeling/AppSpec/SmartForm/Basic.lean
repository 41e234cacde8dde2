import AppSpec.SmartForm.Profile
import AppSpec.SmartForm.Rule

/-!
# Smart forms

A form with its fields, every feature of it switched on or off. Fields come as a mapping from names
or as a list; features may be spelled in camel case or with underscores.
-/

namespace AppSpec

open Setting (feature emptyMap emptyList)

structure SmartField where
  name : String
  type : String
  required : Bool
  profile : Option Profile
  validations : List Rule
  ux : Record
  security : Record
deriving DecidableEq, Repr, Inhabited

namespace SmartField

def uxSettings : List Setting :=
  [feature "placeholder" "placeholder" (.text ""),
    feature "tooltip" "tooltip" (.text ""),
    feature "hint" "hint" (.text ""),
    feature "autoFocus" "auto_focus" (.flag false),
    feature "progressiveDisclosure" "progressive_disclosure" (.flag false),
    feature "conditionalDisplay" "conditional_display" (.value emptyMap),
    feature "errorPosition" "error_position" (.text "below"),
    feature "showStrengthMeter" "show_strength_meter" (.flag false),
    feature "autofill" "auto_fill" (.flag false),
    feature "saveDraft" "save_draft" (.flag false)]

def securitySettings : List Setting :=
  [feature "blockDisposable" "block_disposable" (.flag false),
    feature "fraudDetection" "fraud_detection" (.flag false),
    feature "deviceRecognition" "device_recognition" (.flag false),
    feature "rateLimiting" "rate_limiting" (.value emptyMap),
    feature "encryption" "encryption" (.flag false)]

/-- A field of which only the type is said. -/
def ofType (name type : String) : SmartField :=
  { name := name, type := type, required := false, profile := Profile.ofType? type,
    validations := [], ux := Setting.readAll uxSettings [],
    security := Setting.readAll securitySettings [] }

/-- The mapping under a key, empty if there is none. -/
def group (config : Value.Mapping) (key : String) : Value.Mapping :=
  ((config.get? key).bind Value.asMap?).getD []

def ofConfig (name : String) (config : Value.Mapping) : SmartField :=
  { ofType name (config.textOr "type" "string") with
    required := config.boolOr "required" false
    validations := Rule.readAll (config.get? "validate")
    ux := Setting.readAll uxSettings (group config "ux")
    security := Setting.readAll securitySettings (group config "security") }

/-- The field under a name: a configuration, or the text of a type. -/
def ofEntry? (e : Value × Value) : Option SmartField := do
  let name ← e.1.scalarText?
  match e.2 with
  | .map config => some (ofConfig name config)
  | .string type => some (ofType name type)
  | _ => none

/-- The field of a list, which holds its own name. -/
def ofItem? (v : Value) : Option SmartField := do
  let config ← v.asMap?
  let name ← (Value.Mapping.get? config "name").bind Value.scalarText?
  return ofConfig name config

def readAll : Option Value → List SmartField
  | some (.map entries) => entries.filterMap ofEntry?
  | some (.list items) => items.filterMap ofItem?
  | _ => []

def toValue (f : SmartField) : Value :=
  Record.toValue
    [("name", .string f.name), ("type", .string f.type), ("required", .bool f.required),
      ("profile", (f.profile.map Profile.toValue).getD .null),
      ("validations", .list (f.validations.map Rule.toValue)), ("ux", Record.toValue f.ux),
      ("security", Record.toValue f.security)]

end SmartField

structure SmartForm where
  name : String
  method : String
  endpoint : String
  fields : List SmartField
  smartFeatures : Record
  uxFeatures : Record
  securityFeatures : Record
deriving DecidableEq, Repr, Inhabited

namespace SmartForm

def smartSettings : List Setting :=
  [feature "autoSaveDraft" "auto_save_draft" (.flag true),
    feature "smartSuggestions" "smart_suggestions" (.flag true),
    feature "conditionalLogic" "conditional_logic" (.flag true),
    feature "prefillKnownData" "prefill_known_data" (.flag true),
    feature "duplicateDetection" "duplicate_detection" (.flag false),
    feature "formAnalytics" "form_analytics" (.flag false)]

def uxSettings : List Setting :=
  [feature "progressIndicator" "progress_indicator" (.flag false),
    feature "stepNavigation" "step_navigation" (.flag false),
    feature "inlineValidation" "inline_validation" (.flag true),
    feature "submitStates" "submit_states" (.flag true),
    feature "keyboardNavigation" "keyboard_navigation" (.flag true),
    feature "mobileOptimized" "mobile_optimized" (.flag true),
    feature "accessibility" "accessibility" (.flag true),
    feature "darkMode" "dark_mode" (.text "auto")]

def securitySettings : List Setting :=
  [feature "csrfProtection" "csrf_protection" (.flag true),
    feature "rateLimiting" "rate_limiting" (.flag true),
    feature "honeypot" "honeypot" (.flag true),
    feature "captcha" "captcha" (.flag false),
    feature "secureTransmission" "secure_transmission" (.flag true),
    feature "fieldEncryption" "field_encryption" (.value emptyList),
    feature "auditLogging" "audit_logging" (.flag false)]

/-- The form that a mapping describes; nothing in it is refused. -/
def read (config : Value.Mapping) : SmartForm :=
  { name := config.textOr "name" "smart_form"
    method := config.textOr "method" "POST"
    endpoint := config.textOr "endpoint" "/api/form/submit"
    fields := SmartField.readAll (config.get? "fields")
    smartFeatures := Setting.readAll smartSettings (SmartField.group config "smart_features")
    uxFeatures := Setting.readAll uxSettings (SmartField.group config "ux_features")
    securityFeatures :=
      Setting.readAll securitySettings (SmartField.group config "security_features") }

def toValue (f : SmartForm) : Value :=
  Record.toValue
    [("name", .string f.name), ("method", .string f.method), ("endpoint", .string f.endpoint),
      ("fields", .list (f.fields.map SmartField.toValue)),
      ("smart_features", Record.toValue f.smartFeatures),
      ("ux_features", Record.toValue f.uxFeatures),
      ("security_features", Record.toValue f.securityFeatures)]

end SmartForm

end AppSpec
