import AppSpec.Setting

/-!
# Field profiles

What comes with a field of a well-known type: its validations, its features and what it fills in by
itself.
-/

namespace AppSpec

structure Profile where
  validation : List String := []
  features : List String := []
  security : List String := []
  autoFormat : Bool := false
  autoComplete : Bool := false
  autoFill : Bool := false
  geoDetect : Bool := false
deriving DecidableEq, Repr, Inhabited

namespace Profile

def table : List (String × Profile) :=
  [("phone",
      { validation := ["phone_format"]
        features := ["country_code_detection", "format_as_you_type"]
        autoFormat := true
        geoDetect := true }),
    ("email",
      { validation := ["email_format", "disposable_check"]
        features := ["typo_correction", "domain_suggestions"]
        autoComplete := true }),
    ("password",
      { validation := ["strength_meter"]
        features := ["strength_indicator", "requirements_display", "show_hide_toggle"]
        security := ["breach_check"] }),
    ("otp",
      { validation := ["numeric", "length"]
        features := ["auto_detect_sms", "auto_focus_next", "resend_timer"]
        autoFill := true }),
    ("credit_card",
      { validation := ["luhn_check", "cvv_format"]
        features := ["brand_detection", "format_as_you_type", "security_icons"]
        autoFormat := true }),
    ("search",
      { features := ["typo_tolerance", "context_aware_suggestions", "recent_searches"]
        autoComplete := true }),
    ("address",
      { validation := ["address_format"]
        features := ["geo_location_fill", "address_validation", "postal_code_lookup"]
        autoComplete := true }),
    ("date",
      { validation := ["date_format", "future_past_check"]
        features := ["smart_date_picker", "relative_dates", "timezone_aware"] }),
    ("number",
      { validation := ["numeric_range"]
        features := ["smart_formatting", "currency_detection", "unit_conversion"] })]

def types : List String :=
  table.map Prod.fst

def ofType? (type : String) : Option Profile :=
  table.lookup type

def texts (l : List String) : Value :=
  .list (l.map .string)

def toValue (p : Profile) : Value :=
  Record.toValue
    [("validation", texts p.validation), ("features", texts p.features),
      ("security", texts p.security), ("auto_format", .bool p.autoFormat),
      ("auto_complete", .bool p.autoComplete), ("auto_fill", .bool p.autoFill),
      ("geo_detect", .bool p.geoDetect)]

end Profile

end AppSpec
