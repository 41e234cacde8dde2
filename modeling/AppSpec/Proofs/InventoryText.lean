import Mathlib.Data.List.Forall2
import AppSpec.Inventory.Basic

/-!
# The text of inventories

JSON text by the values it is of, two blanks to a level (`Json.Writes`): a value has the text that is
written for it, and no other (`Json.text_eq_ok_iff`). An inventory is written for the header of its
contract and what the contract shows of the application, key by key, and ends with a line feed
(`Inventory.text_eq_ok_iff`).
-/

namespace AppSpec

namespace Json

/-! ## Texts and keys -/

/-- The number as a hexadecimal digit. -/
def IsDigit (n : Nat) (digit : Char) : Prop :=
  "0123456789abcdef".toList[n]? = some digit

/-- How a character stands between quotes. -/
inductive Escaped : Char → List Char → Prop
  | plain {c : Char} (hcontrol : 32 ≤ c.toNat) (hquote : c ≠ '"') (hbackslash : c ≠ '\\') :
    Escaped c [c]
  | quote : Escaped '"' ['\\', '"']
  | backslash : Escaped '\\' ['\\', '\\']
  | backspace : Escaped '\x08' ['\\', 'b']
  | tab : Escaped '\t' ['\\', 't']
  | lineFeed : Escaped '\n' ['\\', 'n']
  | formFeed : Escaped '\x0c' ['\\', 'f']
  | carriageReturn : Escaped '\r' ['\\', 'r']
  /-- Any other control character stands by its number. -/
  | control {c high low : Char} (hcontrol : c.toNat < 32)
    (hother : c ∉ ['\x08', '\t', '\n', '\x0c', '\r']) (hhigh : IsDigit (c.toNat / 16) high)
    (hlow : IsDigit (c.toNat % 16) low) : Escaped c ['\\', 'u', '0', '0', high, low]

/-- A text in quotes. -/
inductive Quoted : String → String → Prop
  | text {s : String} {pieces : List (List Char)} (h : List.Forall₂ Escaped s.toList pieces) :
    Quoted s ("\"" ++ String.ofList pieces.flatten ++ "\"")

/-- The text that stands for a key: only scalars have one. -/
inductive KeyText : Value → String → Prop
  | string {s : String} : KeyText (.string s) s
  | int {n : Int} : KeyText (.int n) (toString n)
  | true : KeyText (.bool true) "true"
  | false : KeyText (.bool false) "false"
  | float {x : Double} (h : x.isFinite = .true) : KeyText (.float x) (Double.Layout.inventory.text x)

theorem isDigit_iff {n : Nat} (hn : n < 16) {digit : Char} :
    IsDigit n digit ↔ digit = hexDigit n := by
  have htable : ∀ n < 16, "0123456789abcdef".toList[n]? = some (hexDigit n) := by decide
  rw [IsDigit, htable n hn, Option.some.injEq, eq_comm]

theorem escaped_iff {c : Char} {cs : List Char} : Escaped c cs ↔ cs = escape c := by
  constructor
  · rintro h
    cases h with
    | plain hcontrol hquote hbackslash =>
      unfold escape
      split <;> simp_all
    | control hcontrol hother hhigh hlow =>
      rw [isDigit_iff (by omega)] at hhigh
      rw [isDigit_iff (Nat.mod_lt _ (by decide))] at hlow
      subst hhigh hlow
      unfold escape
      split <;> simp_all
    | _ => rfl
  · rintro rfl
    unfold escape
    split
    · exact .quote
    · exact .backslash
    · exact .lineFeed
    · exact .carriageReturn
    · exact .tab
    · exact .backspace
    · exact .formFeed
    · rename_i hquote hbackslash hlineFeed hreturn htab hbackspace hformFeed
      split
      · rename_i hcontrol
        refine .control hcontrol (by simp_all) ?_ ?_
        · exact (isDigit_iff (by omega)).mpr rfl
        · exact (isDigit_iff (Nat.mod_lt _ (by decide))).mpr rfl
      · rename_i hcontrol
        exact .plain (by omega) hquote hbackslash

theorem forall₂_escaped_iff {cs : List Char} {pieces : List (List Char)} :
    List.Forall₂ Escaped cs pieces ↔ cs.map escape = pieces := by
  have hescaped : Escaped = fun c piece => escape c = piece := by
    ext c piece
    rw [escaped_iff, eq_comm]
  rw [hescaped, ← List.forall₂_map_left_iff (R := Eq), List.forall₂_eq_eq_eq]

theorem quoted_iff {s t : String} : Quoted s t ↔ t = quote s := by
  rw [quote, List.flatMap_def]
  constructor
  · rintro ⟨h⟩
    rw [forall₂_escaped_iff.mp h]
  · rintro rfl
    exact .text (forall₂_escaped_iff.mpr rfl)

theorem keyText_iff {k : Value} {s : String} : KeyText k s ↔ keyText? k = .ok s := by
  constructor
  · rintro (_ | _ | _ | _ | h)
    all_goals simp [keyText?, *]
  · intro h
    unfold keyText? at h
    split at h
    · cases h
      exact .string
    · cases h
      exact .int
    · rename_i b
      cases b with
      | true =>
        cases h
        exact .true
      | false =>
        cases h
        exact .false
    · split at h
      · rename_i hfinite
        cases h
        exact .float hfinite
      · cases h
    all_goals cases h

/-! ## Values -/

/-- A text on a line of its own at a depth. -/
def onLine (depth : Nat) (s : String) : String :=
  "\n" ++ String.ofList (List.replicate (2 * depth) ' ') ++ s

/-- The parts of a list or mapping between brackets, each on a line of its own. -/
def block (opening closing : String) (depth : Nat) (parts : List String) : String :=
  if parts = [] then opening ++ closing
  else opening ++ ",".intercalate (parts.map (onLine (depth + 1))) ++ onLine depth closing

mutual

/-- The JSON text of a value at a depth. -/
inductive Writes : Nat → Value → String → Prop
  | null {depth : Nat} : Writes depth .null "null"
  | true {depth : Nat} : Writes depth (.bool true) "true"
  | false {depth : Nat} : Writes depth (.bool false) "false"
  | int {depth : Nat} {n : Int} : Writes depth (.int n) (toString n)
  | float {depth : Nat} {x : Double} (h : x.isFinite = .true) :
    Writes depth (.float x) (Double.Layout.inventory.text x)
  | noDigits {depth : Nat} {x : Double} (h : x.isFinite = .false) : Writes depth (.float x) "null"
  | string {depth : Nat} {s t : String} (h : Quoted s t) : Writes depth (.string s) t
  | list {depth : Nat} {items : List Value} {parts : List String}
    (h : WritesItems (depth + 1) items parts) : Writes depth (.list items) (block "[" "]" depth parts)
  | map {depth : Nat} {entries : List (Value × Value)} {parts : List String}
    (h : WritesEntries (depth + 1) entries parts) :
    Writes depth (.map entries) (block "\x7b" "\x7d" depth parts)
  /-- A tag is the one key of a mapping. -/
  | tagged {depth : Nat} {tag t : String} {v : Value}
    (h : Writes depth (.map [(.string ("!" ++ tag), v)]) t) : Writes depth (.tagged tag v) t

inductive WritesItems : Nat → List Value → List String → Prop
  | nil {depth : Nat} : WritesItems depth [] []
  | cons {depth : Nat} {v : Value} {t : String} {items : List Value} {parts : List String}
    (h : Writes depth v t) (hrest : WritesItems depth items parts) :
    WritesItems depth (v :: items) (t :: parts)

inductive WritesEntries : Nat → List (Value × Value) → List String → Prop
  | nil {depth : Nat} : WritesEntries depth [] []
  | cons {depth : Nat} {k v : Value} {key quoted t : String} {entries : List (Value × Value)}
    {parts : List String} (hkey : KeyText k key) (hquoted : Quoted key quoted)
    (h : Writes depth v t) (hrest : WritesEntries depth entries parts) :
    WritesEntries depth ((k, v) :: entries) ((quoted ++ ": " ++ t) :: parts)

end

/-- What a mapping has of an entry. -/
def renderEntry (depth : Nat) (e : Value × Value) : String :=
  quote (keyText e.1) ++ ": " ++ render depth e.2

section Rendering

variable (depth : Nat)

theorem renderItems_eq : ∀ items : List Value, renderItems depth items =
    ",".intercalate ((items.map (render depth)).map (onLine depth))
  | [] => by simp [renderItems]
  | [v] => by simp [renderItems, newline, onLine]
  | v :: w :: rest => by
    have ih := renderItems_eq (w :: rest)
    simp only [List.map_cons] at ih ⊢
    rw [String.intercalate_cons_cons, renderItems, ih]
    · simp only [newline, onLine]
    · exact nofun

theorem renderEntries_eq : ∀ entries : List (Value × Value), renderEntries depth entries =
    ",".intercalate ((entries.map (renderEntry depth)).map (onLine depth))
  | [] => by simp [renderEntries]
  | [(k, v)] => by simp [renderEntries, renderEntry, newline, onLine, String.append_assoc]
  | (k, v) :: e :: rest => by
    have ih := renderEntries_eq (e :: rest)
    simp only [List.map_cons] at ih ⊢
    rw [String.intercalate_cons_cons, renderEntries, ih]
    · simp only [newline, onLine, renderEntry, String.append_assoc]
    · exact nofun

theorem render_list (items : List Value) :
    render depth (.list items) = block "[" "]" depth (items.map (render (depth + 1))) := by
  cases items with
  | nil => rfl
  | cons v rest =>
    rw [render, renderItems_eq]
    · simp only [block, newline, onLine, String.append_assoc, List.map_cons, reduceCtorEq, if_false]
    · exact nofun

theorem render_map (entries : List (Value × Value)) : render depth (.map entries) =
    block "\x7b" "\x7d" depth (entries.map (renderEntry (depth + 1))) := by
  cases entries with
  | nil => rfl
  | cons e rest =>
    rw [render, renderEntries_eq]
    · simp only [block, newline, onLine, String.append_assoc, List.map_cons, reduceCtorEq, if_false]
    · exact nofun

theorem render_tagged (tag : String) (v : Value) :
    render depth (.tagged tag v) = render depth (.map [(.string ("!" ++ tag), v)]) := by
  simp [render, renderEntries, keyText, keyText?, Except.toOption, String.append_assoc]

end Rendering

/-! ## A value has the text that is written -/

theorem text_of_not_isFinite {x : Double} (h : x.isFinite = false) :
    Double.Layout.inventory.text x = "null" := by
  simp [Double.Layout.text, Double.Layout.inventory, h]

theorem keyText_of_keyText? {k : Value} {key : String} (h : keyText? k = .ok key) :
    keyText k = key := by
  rw [keyText, h]
  rfl

theorem faultInItems?_cons {v : Value} {rest : List Value} :
    faultInItems? (v :: rest) = none ↔ fault? v = none ∧ faultInItems? rest = none := by
  rw [faultInItems?]
  split <;> simp_all

theorem faultInEntries?_cons {k v : Value} {rest : List (Value × Value)} :
    faultInEntries? ((k, v) :: rest) = none ↔
      (∃ key, keyText? k = .ok key) ∧ fault? v = none ∧ faultInEntries? rest = none := by
  rw [faultInEntries?]
  split
  · simp_all
  · split <;> simp_all

mutual

/-- A text is written for a value if and only if all its keys have one and it is the rendered text. -/
theorem writes_iff (depth : Nat) : ∀ {v : Value} {t : String},
    Writes depth v t ↔ fault? v = none ∧ t = render depth v
  | .null, t => ⟨fun h => by cases h; exact ⟨rfl, rfl⟩, fun ⟨_, h⟩ => h ▸ .null⟩
  | .bool b, t => by
    cases b with
    | true => exact ⟨fun h => by cases h; exact ⟨rfl, rfl⟩, fun ⟨_, h⟩ => h ▸ .true⟩
    | false => exact ⟨fun h => by cases h; exact ⟨rfl, rfl⟩, fun ⟨_, h⟩ => h ▸ .false⟩
  | .int n, t => ⟨fun h => by cases h; exact ⟨rfl, rfl⟩, fun ⟨_, h⟩ => h ▸ .int⟩
  | .float x, t => by
    constructor
    · intro h
      cases h with
      | float => exact ⟨rfl, rfl⟩
      | noDigits hfinite => exact ⟨rfl, (text_of_not_isFinite hfinite).symm⟩
    · rintro ⟨-, rfl⟩
      rcases hfinite : x.isFinite with _ | _
      · rw [render, text_of_not_isFinite hfinite]
        exact .noDigits hfinite
      · exact .float hfinite
  | .string s, t => by
    constructor
    · intro h
      cases h with
      | string h => exact ⟨rfl, quoted_iff.mp h⟩
    · rintro ⟨-, h⟩
      exact .string (quoted_iff.mpr h)
  | .list items, t => by
    rw [render_list, fault?]
    constructor
    · intro h
      cases h with
      | list h =>
        obtain ⟨hfault, rfl⟩ := (writesItems_iff (depth + 1)).mp h
        exact ⟨hfault, rfl⟩
    · rintro ⟨hfault, rfl⟩
      exact .list ((writesItems_iff (depth + 1)).mpr ⟨hfault, rfl⟩)
  | .map entries, t => by
    rw [render_map, fault?]
    constructor
    · intro h
      cases h with
      | map h =>
        obtain ⟨hfault, rfl⟩ := (writesEntries_iff (depth + 1)).mp h
        exact ⟨hfault, rfl⟩
    · rintro ⟨hfault, rfl⟩
      exact .map ((writesEntries_iff (depth + 1)).mpr ⟨hfault, rfl⟩)
  | .tagged tag v, t => by
    rw [render_tagged, render_map, fault?]
    constructor
    · intro h
      cases h with
      | tagged h =>
        cases h with
        | map h =>
          obtain _ | ⟨hkey, hquoted, h, hrest⟩ := h
          cases hkey
          cases hrest
          obtain ⟨hfault, rfl⟩ := (writes_iff (depth + 1)).mp h
          rw [quoted_iff.mp hquoted]
          exact ⟨hfault, rfl⟩
    · rintro ⟨hfault, rfl⟩
      have hv := (writes_iff (depth + 1)).mpr ⟨hfault, rfl⟩
      exact .tagged (.map (.cons .string (quoted_iff.mpr rfl) hv .nil))

theorem writesItems_iff (depth : Nat) : ∀ {items : List Value} {parts : List String},
    WritesItems depth items parts ↔ faultInItems? items = none ∧ parts = items.map (render depth)
  | [], parts => ⟨fun h => by cases h; exact ⟨rfl, rfl⟩, fun ⟨_, h⟩ => h ▸ .nil⟩
  | v :: items, parts => by
    rw [faultInItems?_cons]
    constructor
    · rintro (_ | ⟨h, hrest⟩)
      obtain ⟨hv, rfl⟩ := (writes_iff depth).mp h
      obtain ⟨hitems, rfl⟩ := (writesItems_iff depth).mp hrest
      exact ⟨⟨hv, hitems⟩, rfl⟩
    · rintro ⟨⟨hv, hitems⟩, rfl⟩
      exact .cons ((writes_iff depth).mpr ⟨hv, rfl⟩) ((writesItems_iff depth).mpr ⟨hitems, rfl⟩)

theorem writesEntries_iff (depth : Nat) :
    ∀ {entries : List (Value × Value)} {parts : List String}, WritesEntries depth entries parts ↔
      faultInEntries? entries = none ∧ parts = entries.map (renderEntry depth)
  | [], parts => ⟨fun h => by cases h; exact ⟨rfl, rfl⟩, fun ⟨_, h⟩ => h ▸ .nil⟩
  | (k, v) :: entries, parts => by
    rw [faultInEntries?_cons]
    constructor
    · rintro (_ | ⟨hkey, hquoted, h, hrest⟩)
      rw [keyText_iff] at hkey
      obtain ⟨hv, rfl⟩ := (writes_iff depth).mp h
      obtain ⟨hentries, rfl⟩ := (writesEntries_iff depth).mp hrest
      rw [quoted_iff.mp hquoted, ← keyText_of_keyText? hkey]
      exact ⟨⟨⟨_, hkey⟩, hv, hentries⟩, rfl⟩
    · rintro ⟨⟨⟨key, hkey⟩, hv, hentries⟩, rfl⟩
      have hrest := (writesEntries_iff depth).mpr ⟨hentries, rfl⟩
      rw [List.map_cons, renderEntry, keyText_of_keyText? hkey]
      exact .cons (keyText_iff.mpr hkey) (quoted_iff.mpr rfl) ((writes_iff depth).mpr ⟨hv, rfl⟩) hrest

end

/-- A value has a text if and only if that text is written for it. -/
theorem text_eq_ok_iff {v : Value} {t : String} : text v = .ok t ↔ Writes 0 v t := by
  rw [writes_iff, text]
  rcases fault? v with _ | f
  · simp [eq_comm]
  · simp

end Json

namespace Inventory

/-! ## What an inventory shows -/

/-- A key with what stands under it for an application; a key without a value is left out. -/
abbrev Field := String × (Application → Option Value)

/-- The entries of a mapping with these keys. -/
def shown (fields : List Field) (a : Application) : Value.Mapping :=
  fields.filterMap fun f => (f.2 a).map fun v => (.string f.1, v)

namespace Field

def of (name : String) (f : Application → Value) : Field :=
  (name, fun a => some (f a))

def category (name : String) (c : Category) : Field :=
  of name fun a => (a.entities c).toValue

/-- A section is shown if it is configured. -/
def integration (name : String) (k : SectionKind) : Field :=
  (name, fun a => (a.sections k).map Section.toValue)

def group (name : String) (fields : List Field) : Field :=
  of name fun a => .map (shown fields a)

end Field

open Inventory.Field

def authenticationFields : List Field :=
  [of "config" fun a => .map a.auth, ("social", fun a => a.socialAuth.map Record.toValue),
    of "providers" fun a => a.socialProviders.toValue]

def integrationFields : List Field :=
  [integration "payments" .payments,
    of "custom_payment_providers" fun a => .list (a.customProviders.map CustomProvider.toValue),
    integration "sms" .sms, integration "push_notifications" .pushNotifications,
    integration "file_storage" .fileStorage, integration "email" .email,
    integration "search" .search, integration "analytics" .analytics,
    integration "admin_panel" .adminPanel, integration "serverless" .serverless]

/-- The keys of the inventory of a contract behind its header, in order. -/
def fields : Contract → List Field
  | .backend =>
    [category "models" .models, category "endpoints" .endpoints,
      category "vector_databases" .vectorDatabases, category "ai_models" .aiModels,
      group "auth" authenticationFields, category "jobs" .backgroundJobs,
      category "queues" .jobQueues, category "schedules" .scheduledTasks,
      category "websockets" .websockets, category "events" .realtimeEvents,
      category "streams" .dataStreams, group "integrations" integrationFields]
  | .frontend =>
    [category "pages" .pages, of "theme" fun a => .map a.theme,
      of "smart_forms" fun a => .list (a.smartForms.map SmartForm.toValue),
      category "webrtc_streams" .webrtcStreams, category "lazy_imports" .lazyImports,
      integration "i18n" .i18n, integration "icons" .icons]
  | .mobileIos =>
    [of "platform" fun _ => .string "ios", category "pages" .pages, of "theme" fun a => .map a.theme,
      integration "push_notifications" .pushNotifications]
  | .mobileAndroid =>
    [of "platform" fun _ => .string "android", category "pages" .pages,
      of "theme" fun a => .map a.theme, integration "push_notifications" .pushNotifications]
  | .desktop => [category "pages" .pages, integration "desktop" .desktop]

/-- The keys that all inventories begin with. -/
def heading (p : Project) (c : Contract) (env : Environment) : Value.Mapping :=
  [(.string "project", .string p.config.name), (.string "version", .string p.config.version.text),
    (.string "target", .string c.name), (.string "env", .string env.name)]

variable {p : Project} {c : Contract} {env : Environment} {a : Application}

theorem shown_append (fs gs : List Field) : shown (fs ++ gs) a = shown fs a ++ shown gs a :=
  List.filterMap_append

theorem toValue_append (r r' : Record) : Record.toValue (r ++ r') =
    .map (r.map (fun e => (.string e.1, e.2)) ++ r'.map fun e => (.string e.1, e.2)) := by
  rw [Record.toValue, List.map_append]

theorem map_configured (kinds : List SectionKind) :
    (configured a kinds).map (fun e => (Value.string e.1, e.2)) =
      shown (kinds.map fun k => integration k.name k) a := by
  simp only [configured, shown, List.map_filterMap, List.filterMap_map]
  refine congrArg (List.filterMap · kinds) (funext fun k => ?_)
  simp [integration, Function.comp_def]

theorem authentication_toValue :
    Record.toValue (authentication a) = .map (shown authenticationFields a) := by
  rcases hsocial : a.socialAuth with _ | r <;>
    simp [authentication, authenticationFields, shown, of, hsocial, Record.toValue]

theorem integrations_toValue :
    Record.toValue (integrations a) = .map (shown integrationFields a) := by
  have hfields : integrationFields = integrationFields.take 1 ++
      (integrationFields.drop 1).take 1 ++ integrationFields.drop 2 := rfl
  rw [integrations, toValue_append, List.map_append, map_configured, map_configured, hfields,
    shown_append, shown_append]
  rfl

theorem toValue_eq : toValue p c env a = .map (heading p c env ++ shown (fields c) a) := by
  rw [toValue, toValue_append]
  refine congrArg (fun r => Value.map (heading p c env ++ r)) ?_
  cases c with
  | backend =>
    rw [slice, backend, authentication_toValue, integrations_toValue]
    rfl
  | frontend =>
    rw [slice, frontend, List.map_append, map_configured]
    rfl
  | mobileIos | mobileAndroid =>
    rw [slice, mobile, List.map_append, map_configured]
    rfl
  | desktop =>
    rw [slice, desktop, List.map_append, map_configured]
    rfl

/-- An inventory is what is written for its header and its keys, and a line feed. -/
theorem text_eq_ok_iff {content : String} : text p c env a = .ok content ↔
    ∃ json, Json.Writes 0 (.map (heading p c env ++ shown (fields c) a)) json ∧
      content = json ++ "\n" := by
  simp only [text, ← toValue_eq, ← Json.text_eq_ok_iff]
  rcases Json.text (toValue p c env a) with cause | json
  · simp [Except.map]
  · simp [Except.map, eq_comm]

end Inventory

end AppSpec
