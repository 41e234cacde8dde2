import Mathlib
import AppSpec.Project.Config
import AppSpec.Watch.Scheduler
import AppSpec.Proofs.TextPieces

/-!
# Refused configurations

A configuration that can be read is refused for its name or, if that is a name, for its debounce
window (`Config.refusal?_spec`). The place that a refusal gives is looked for in the text, where the
name stands in quotes (`Config.findText?_eq_some`) or the key is assigned to
(`Config.keySpanFrom?_eq_some`), so it selects that name or that key whatever else is in the text
(`Config.parse_of_decodes`).
-/

namespace AppSpec.Config

/-- The text is a table, and the table holds these settings. -/
def Decodes (text : String) (c : Config) : Prop :=
  ∃ f, Toml.parse text = .ok f ∧ ofTable f = .ok c

/-! ## Names -/

def IsLetter (c : Char) : Prop :=
  'a' ≤ c ∧ c ≤ 'z' ∨ 'A' ≤ c ∧ c ≤ 'Z'

def IsDigit (c : Char) : Prop :=
  '0' ≤ c ∧ c ≤ '9'

/-- A letter, then letters, digits, dashes and underscores. -/
def IsName (name : String) : Prop :=
  ∃ c rest, name.toList = c :: rest ∧ IsLetter c ∧
    ∀ d ∈ rest, IsLetter d ∨ IsDigit d ∨ d = '-' ∨ d = '_'

theorem isAlpha_iff {c : Char} : c.isAlpha = true ↔ IsLetter c := by
  simp only [Char.isAlpha, Char.isUpper, Char.isLower, Bool.or_eq_true, Bool.and_eq_true,
    decide_eq_true_eq, IsLetter]
  exact or_comm

theorem isNameChar_iff {c : Char} :
    isNameChar c = true ↔ IsLetter c ∨ IsDigit c ∨ c = '-' ∨ c = '_' := by
  simp only [isNameChar, Char.isAlphanum, Bool.or_eq_true, isAlpha_iff, Text.isDigit_iff, IsDigit,
    beq_iff_eq, or_assoc]

/-- A name is refused if it is none, with the reason in the message. -/
theorem nameRefusal?_spec (name : String) :
    (IsName name ∧ nameRefusal? name = none) ∨
      (¬ IsName name ∧ ∃ r, nameRefusal? name = some r ∧
        (∀ debounce, r ≠ .shortDebounce debounce) ∧
        ∃ reason, r.text = "invalid project name '" ++ name ++ "': " ++ reason) := by
  unfold nameRefusal? IsName
  rcases hname : name.toList with _ | ⟨c, rest⟩
  · refine .inr ⟨nofun, _, rfl, nofun, "name cannot be empty", ?_⟩
    rw [String.toList_eq_nil_iff.mp hname]
    decide +kernel
  · by_cases hc : c.isAlpha = true
    · by_cases hrest : rest.all isNameChar = true
      · refine .inl ⟨⟨c, rest, rfl, isAlpha_iff.mp hc, fun d hd => ?_⟩, ?_⟩
        · exact isNameChar_iff.mp (List.all_eq_true.mp hrest d hd)
        · simp [hc, hrest]
      · refine .inr ⟨?_, .nameChars name, ?_, nofun, "use only letters, digits, '-' and '_'", ?_⟩
        · rintro ⟨_, _, heq, -, hchars⟩
          obtain ⟨rfl, rfl⟩ := List.cons.inj heq
          exact hrest (List.all_eq_true.mpr fun d hd => isNameChar_iff.mpr (hchars d hd))
        · simp [hc, hrest]
        · have hmessage : "': use only letters, digits, '-' and '_'" =
              "': " ++ "use only letters, digits, '-' and '_'" := by decide +kernel
          have htext : Refusal.text (.nameChars name) =
              "invalid project name '" ++ name ++ "': use only letters, digits, '-' and '_'" := rfl
          rw [htext, hmessage, ← String.append_assoc]
    · refine .inr ⟨?_, .nameStart name, ?_, nofun, "name must start with a letter", ?_⟩
      · rintro ⟨_, _, heq, hletter, -⟩
        obtain ⟨rfl, rfl⟩ := List.cons.inj heq
        exact hc (isAlpha_iff.mpr hletter)
      · simp [hc]
      · have hmessage : "': name must start with a letter" =
            "': " ++ "name must start with a letter" := by decide +kernel
        have htext : Refusal.text (.nameStart name) =
            "invalid project name '" ++ name ++ "': name must start with a letter" := rfl
        rw [htext, hmessage, ← String.append_assoc]

/-! ## Places -/

theorem findText?_eq_some {needle : List Char} : ∀ {source : List Char} {offset i : Nat},
    findText? needle offset source = some i → ∃ before after,
      source = before ++ (needle ++ after) ∧ i = offset + Text.byteLength before
  | [], offset, i, h => by
    unfold findText? at h
    split at h
    · rename_i hempty
      cases h
      exact ⟨[], [], by simpa using hempty.symm, rfl⟩
    · cases h
  | c :: rest, offset, i, h => by
    unfold findText? at h
    split at h
    · rename_i hstarts
      obtain ⟨after, hafter⟩ := List.isPrefixOf_iff_prefix.mp hstarts
      cases h
      exact ⟨[], after, hafter.symm, rfl⟩
    · obtain ⟨before, after, hsource, hi⟩ := findText?_eq_some h
      refine ⟨c :: before, after, by rw [hsource]; rfl, ?_⟩
      rw [hi, Text.byteLength_cons, Nat.add_assoc]

theorem isSome_findText?_iff {needle : List Char} : ∀ {source : List Char} {offset : Nat},
    (findText? needle offset source).isSome = true ↔ needle <:+: source
  | [], offset => by
    simp only [findText?, List.infix_nil, ← List.isEmpty_iff]
    rcases needle.isEmpty with _ | _ <;> simp
  | c :: rest, offset => by
    rw [findText?, List.infix_cons_iff, ← List.isPrefixOf_iff_prefix]
    split
    · rename_i hstarts
      simp [hstarts]
    · rename_i hstarts
      rw [isSome_findText?_iff]
      simp [hstarts]

/-- A line that assigns to the key: blanks, the key, blanks and the sign. -/
def Assigns (key line : List Char) : Prop :=
  ∃ blanks gap rest, line = blanks ++ (key ++ (gap ++ '=' :: rest)) ∧
    (∀ c ∈ blanks, Text.isBlank c = true) ∧ ∀ c ∈ gap, Text.isBlank c = true

theorem assigns_iff {c : Char} {key line : List Char} (hc : Text.isBlank c = false) :
    Assigns (c :: key) line ↔ (c :: key).isPrefixOf (Text.trimStart line) = true ∧
      (Text.trimStart ((Text.trimStart line).drop (c :: key).length)).head? = some '=' := by
  unfold Text.trimStart
  constructor
  · rintro ⟨blanks, gap, rest, rfl, hblanks, hgap⟩
    have hstart : (blanks ++ (c :: key ++ (gap ++ '=' :: rest))).dropWhile Text.isBlank =
        c :: key ++ (gap ++ '=' :: rest) := by
      rw [List.dropWhile_append_of_pos hblanks, List.cons_append,
        List.dropWhile_cons_of_neg (by simp [hc])]
    rw [hstart, List.drop_left, List.dropWhile_append_of_pos hgap, List.isPrefixOf_iff_prefix]
    exact ⟨List.prefix_append _ _, rfl⟩
  · rintro ⟨hstarts, hsign⟩
    obtain ⟨after, hafter⟩ := List.isPrefixOf_iff_prefix.mp hstarts
    rw [← hafter, List.drop_left] at hsign
    obtain ⟨rest, hrest⟩ := List.head?_eq_some_iff.mp hsign
    refine ⟨line.takeWhile Text.isBlank, after.takeWhile Text.isBlank, rest, ?_,
      fun d hd => List.mem_takeWhile_imp hd, fun d hd => List.mem_takeWhile_imp hd⟩
    rw [← hrest, List.takeWhile_append_dropWhile, hafter, List.takeWhile_append_dropWhile]

/-- The place of a key is in a line that assigns to it, behind the blanks. -/
theorem keySpanFrom?_eq_some {key : List Char} : ∀ {ls : List (List Char)} {offset : Nat}
    {span : Span}, keySpanFrom? key offset ls = some span → ∃ before after,
      ls.flatten = before ++ (key ++ after) ∧
        span = ⟨offset + Text.byteLength before, Text.byteLength key⟩
  | [], _, _, h => by cases h
  | line :: rest, offset, span, h => by
    unfold keySpanFrom? at h
    simp only at h
    split at h
    · rename_i htest
      obtain ⟨after, hafter⟩ := List.isPrefixOf_iff_prefix.mp (Bool.and_eq_true_iff.mp htest).1
      have hline : line = line.takeWhile Text.isBlank ++ Text.trimStart line :=
        (List.takeWhile_append_dropWhile).symm
      -- the line is longer than its content by the blanks in front
      have hlength := congrArg Text.byteLength hline
      rw [Text.byteLength_append] at hlength
      cases h
      refine ⟨line.takeWhile Text.isBlank, after ++ rest.flatten, ?_, ?_⟩
      · rw [List.flatten_cons, ← List.append_assoc key, hafter, ← List.append_assoc, ← hline]
      · rw [hlength, Nat.add_sub_cancel]
    · obtain ⟨before, after, hrest, hspan⟩ := keySpanFrom?_eq_some h
      refine ⟨line ++ before, after, ?_, ?_⟩
      · rw [List.flatten_cons, hrest, List.append_assoc]
      · rw [hspan, Text.byteLength_append, Nat.add_assoc]

theorem isSome_keySpanFrom?_iff {c : Char} {key : List Char} (hc : Text.isBlank c = false) :
    ∀ {ls : List (List Char)} {offset : Nat},
      (keySpanFrom? (c :: key) offset ls).isSome = true ↔ ∃ line ∈ ls, Assigns (c :: key) line
  | [], _ => by simp [keySpanFrom?]
  | line :: rest, offset => by
    have ih : (keySpanFrom? (c :: key) (offset + Text.byteLength line) rest).isSome = true ↔
        ∃ line ∈ rest, Assigns (c :: key) line := isSome_keySpanFrom?_iff hc
    have hline : Assigns (c :: key) line ↔ _ := assigns_iff hc
    rw [← beq_iff_eq (b := some '='), ← Bool.and_eq_true_iff] at hline
    simp only [keySpanFrom?, List.mem_cons, exists_eq_or_imp, hline]
    split
    · rename_i htest
      exact iff_of_true rfl (.inl htest)
    · rename_i htest
      rw [ih, or_iff_right htest]

/-! ## Refusals -/

/-- The name is looked at first. -/
theorem refusal?_spec (c : Config) :
    (IsName c.name ∧ minDebounce ≤ c.debounce ∧ refusal? c = none) ∨
      (¬ IsName c.name ∧ ∃ r, refusal? c = some r ∧ (∀ debounce, r ≠ .shortDebounce debounce) ∧
        ∃ reason, r.text = "invalid project name '" ++ c.name ++ "': " ++ reason) ∨
      (IsName c.name ∧ c.debounce < minDebounce ∧
        refusal? c = some (.shortDebounce c.debounce)) := by
  unfold refusal?
  rcases nameRefusal?_spec c.name with ⟨hname, hrefusal⟩ | ⟨hname, r, hrefusal, hr⟩
  · simp only [hrefusal]
    by_cases hlt : c.debounce < minDebounce
    · exact .inr (.inr ⟨hname, hlt, if_pos hlt⟩)
    · exact .inl ⟨hname, Nat.le_of_not_lt hlt, if_neg hlt⟩
  · simp only [hrefusal]
    exact .inr (.inl ⟨hname, r, rfl, hr⟩)

theorem selects_valueSpan? {text value : String} {span : Span}
    (h : valueSpan? text.toList value = some span) : Text.Selects text span value := by
  obtain ⟨i, hi, rfl⟩ := Option.map_eq_some_iff.mp h
  obtain ⟨before, after, htext, rfl⟩ := findText?_eq_some hi
  have hquoted : text.toList = (before ++ ['"']) ++ (value.toList ++ ('"' :: after)) := by
    rw [htext]
    simp
  have hselects := Text.selects_of_split hquoted
  rw [String.ofList_toList, Text.byteLength_append] at hselects
  rwa [Nat.zero_add]

theorem selects_keySpan? {text key : String} {span : Span}
    (h : keySpan? text.toList key = some span) : Text.Selects text span key := by
  obtain ⟨before, after, htext, rfl⟩ := keySpanFrom?_eq_some h
  rw [Text.flatten_lines] at htext
  have hselects := Text.selects_of_split htext
  rwa [String.ofList_toList, ← Nat.zero_add (Text.byteLength before)] at hselects

section Decoded

variable {text : String} {c : Config} (h : Decodes text c)
include h

theorem parse_of_accepted (haccepted : refusal? c = none) : parse text = .ok c := by
  obtain ⟨f, hparse, htable⟩ := h
  simp only [parse, hparse, htable, haccepted]

theorem parse_of_refusal {r : Refusal} (hr : refusal? c = some r) :
    parse text = .error (.refused r (refusalSpan? text.toList c r)) := by
  obtain ⟨f, hparse, htable⟩ := h
  simp only [parse, hparse, htable, hr]

end Decoded

/-- A text that holds a configuration is accepted if and only if the configuration has a proper name and
a window of a second or more, which is then the window of the watch. Otherwise it is refused, for the
name whenever that is improper. A refusal gives a place if the name stands in quotes in the text or a
line assigns to the key of the window, and that place selects the name or the key. -/
theorem parse_of_decodes {text : String} {c : Config} (h : Decodes text c) :
    ((∃ config, parse text = .ok config) ↔ IsName c.name ∧ 1000 ≤ c.debounce) ∧
      (∀ config, parse text = .ok config → config = c ∧ ∀ clock : Watch.Clock,
        (Watch.Scheduler.ofDebounce (config.debounce * clock.ticks) clock).debounce =
          config.debounce * clock.ticks) ∧
      (¬ IsName c.name → ∃ r span?, parse text = .error (.refused r span?) ∧
        (∃ reason, r.text = "invalid project name '" ++ c.name ++ "': " ++ reason) ∧
        (span?.isSome = true ↔ '"' :: c.name.toList ++ ['"'] <:+: text.toList) ∧
        ∀ span, span? = some span → Text.Selects text span c.name) ∧
      (IsName c.name → c.debounce < 1000 → ∃ span?,
        parse text = .error (.refused (.shortDebounce c.debounce) span?) ∧
        (span?.isSome = true ↔
          ∃ line ∈ Text.lines text.toList, Assigns "debounce_ms".toList line) ∧
        ∀ span, span? = some span → Text.Selects text span "debounce_ms") := by
  rcases refusal?_spec c with ⟨hname, hle, haccepted⟩ | ⟨hname, r, hr, hne, hreason⟩ |
    ⟨hname, hlt, hr⟩
  · have hparse := parse_of_accepted h haccepted
    refine ⟨iff_of_true ⟨c, hparse⟩ ⟨hname, hle⟩, fun config hconfig => ?_, absurd hname,
      fun _ hlt => absurd hle (Nat.not_le_of_lt hlt)⟩
    cases hparse.symm.trans hconfig
    exact ⟨rfl, fun clock => Nat.max_eq_left (Nat.mul_le_mul_right clock.ticks hle)⟩
  · have hparse := parse_of_refusal h hr
    -- whatever is wrong with the name, it is the name that is looked for
    have hspan : refusalSpan? text.toList c r = valueSpan? text.toList c.name := by
      cases r with
      | shortDebounce debounce => exact absurd rfl (hne debounce)
      | emptyName | nameStart | nameChars => rfl
    rw [hspan] at hparse
    have hno : ∀ config, parse text ≠ .ok config := fun config => hparse ▸ nofun
    refine ⟨iff_of_false (fun ⟨config, hok⟩ => hno config hok) fun hok => hname hok.1,
      fun config hok => absurd hok (hno config),
      fun _ => ⟨r, _, hparse, hreason, ?_, fun _ => selects_valueSpan?⟩,
      fun hproper => absurd hproper hname⟩
    rw [valueSpan?, Option.isSome_map, isSome_findText?_iff]
  · have hparse := parse_of_refusal h hr
    have hno : ∀ config, parse text ≠ .ok config := fun config => hparse ▸ nofun
    refine ⟨iff_of_false (fun ⟨config, hok⟩ => hno config hok) fun hok => ?_,
      fun config hok => absurd hok (hno config), absurd hname,
      fun _ _ => ⟨_, hparse, ?_, fun _ => selects_keySpan?⟩⟩
    · exact absurd hok.2 (Nat.not_le_of_lt hlt)
    · exact isSome_keySpanFrom?_iff (by decide)

/-- A name with a blank in it is refused, and the refusal says where it stands. -/
theorem parse_of_name_with_blank :
    let text := "[project]\nname = \"my app\"\n"
    Decodes text { name := "my app" } ∧ ¬ IsName "my app" ∧
      ∃ r span?, parse text = .error (.refused r span?) ∧ span?.isSome = true ∧
        ∀ span, span? = some span → Text.Selects text span "my app" := by
  intro text
  have hdecodes : Decodes text { name := "my app" } := by
    refine ⟨[("project", .table [("name", .scalar (.string "my app") ⟨17, 8⟩)] .written ⟨0, 9⟩)],
      ?_, ?_⟩
    · cbv
    · cbv
  have hname : ¬ IsName "my app" := by
    rintro ⟨c, rest, heq, -, hchars⟩
    have hmem : ' ' ∈ rest := by
      obtain ⟨-, rfl⟩ := List.cons.inj (show 'm' :: "y app".toList = c :: rest from heq)
      decide
    have hblank := hchars ' ' hmem
    unfold IsLetter IsDigit at hblank
    exact absurd hblank (by decide)
  obtain ⟨-, -, hrefused, -⟩ := parse_of_decodes hdecodes
  obtain ⟨r, span?, hparse, -, hspan, hselects⟩ := hrefused hname
  refine ⟨hdecodes, hname, r, span?, hparse, hspan.mpr ?_, hselects⟩
  exact ⟨"[project]\nname = ".toList, "\n".toList, by decide +kernel⟩

end AppSpec.Config
