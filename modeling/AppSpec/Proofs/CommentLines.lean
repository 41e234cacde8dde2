import Mathlib.Data.List.TakeWhile
import AppSpec.Document.Comments

/-!
# Places in a file with comments

A text falls into lines in one way (`Text.lines_eq_iff`), and lines of which some are left out are
still lines (`Text.AreLines.filter`), so a text without comment lines has none to take out. Each line
that is read stands behind the lines before it, comments or not (`Document.survivingLines_of_split`).
So a line and a column of what is read are the place of that character in the file, and whatever else
is asked for is a place of the file too (`Document.fileOffset_of_strip`).
-/

namespace AppSpec

namespace Text

@[simp]
theorem byteLength_nil : byteLength [] = 0 := rfl

theorem byteLength_cons (c : Char) (cs : List Char) :
    byteLength (c :: cs) = c.utf8Size + byteLength cs := rfl

theorem byteLength_append (cs ds : List Char) :
    byteLength (cs ++ ds) = byteLength cs + byteLength ds := by
  induction cs with
  | nil => simp
  | cons c cs ih => rw [List.cons_append, byteLength_cons, byteLength_cons, ih, Nat.add_assoc]

theorem byteLength_eq (cs : List Char) : byteLength cs = (String.ofList cs).utf8ByteSize := by
  induction cs with
  | nil => rfl
  | cons c cs ih =>
    rw [byteLength_cons, ih, String.ofList_cons, String.utf8ByteSize_append,
      String.utf8ByteSize_singleton]

/-- What a text begins with ends at a place of the text. -/
theorem isValid_of_prefix {s : String} {before : List Char} (h : before <+: s.toList) :
    byteLength before ≤ s.utf8ByteSize ∧ (⟨byteLength before⟩ : String.Pos.Raw).IsValid s := by
  obtain ⟨after, h⟩ := h
  have hs : s = String.ofList before ++ String.ofList after := by
    rw [← String.ofList_append, h, String.ofList_toList]
  rw [byteLength_eq]
  refine ⟨?_, String.Pos.Raw.isValid_iff_exists_append.mpr ⟨_, _, hs, rfl⟩⟩
  rw [hs, String.utf8ByteSize_append]
  exact Nat.le_add_right _ _

/-- The lines are cut behind line feeds and nowhere else: each has one, at its end, but for the last
one, which may lack it and is not empty. -/
inductive AreLines : List (List Char) → Prop
  | nil : AreLines []
  | last {line : List Char} (hfeed : '\n' ∉ line) (hne : line ≠ []) : AreLines [line]
  | cons {content : List Char} (hfeed : '\n' ∉ content) {rest : List (List Char)}
    (hrest : AreLines rest) : AreLines ((content ++ ['\n']) :: rest)

theorem lines_feed (rest : List Char) : lines ('\n' :: rest) = ['\n'] :: lines rest := by
  rw [lines, if_pos rfl]

theorem lines_cons {c : Char} (hc : c ≠ '\n') {rest line : List Char} {more : List (List Char)}
    (h : lines rest = line :: more) : lines (c :: rest) = (c :: line) :: more := by
  rw [lines, if_neg hc, h]

theorem lines_append_feed {content : List Char} (hfeed : '\n' ∉ content) (rest : List Char) :
    lines (content ++ '\n' :: rest) = (content ++ ['\n']) :: lines rest := by
  induction content with
  | nil => exact lines_feed rest
  | cons c content ih =>
    rw [List.mem_cons, not_or] at hfeed
    exact lines_cons (Ne.symm hfeed.1) (ih hfeed.2)

theorem lines_of_not_mem {line : List Char} (hfeed : '\n' ∉ line) (hne : line ≠ []) :
    lines line = [line] := by
  induction line with
  | nil => exact absurd rfl hne
  | cons c rest ih =>
    rw [List.mem_cons, not_or] at hfeed
    by_cases hrest : rest = []
    · subst hrest
      rw [lines, if_neg (Ne.symm hfeed.1)]
      rfl
    · exact lines_cons (Ne.symm hfeed.1) (ih hfeed.2 hrest)

theorem flatten_lines (cs : List Char) : (lines cs).flatten = cs := by
  induction cs with
  | nil => rfl
  | cons c rest ih =>
    by_cases hc : c = '\n'
    · subst hc
      rw [lines_feed, List.flatten_cons, ih]
      rfl
    · rcases hl : lines rest with _ | ⟨line, more⟩
      · rw [hl] at ih
        rw [lines, if_neg hc, hl, ← ih]
        rfl
      · rw [hl] at ih
        rw [lines_cons hc hl, ← ih]
        rfl

theorem areLines_lines (cs : List Char) : AreLines (lines cs) := by
  induction cs with
  | nil => exact .nil
  | cons c rest ih =>
    by_cases hc : c = '\n'
    · subst hc
      rw [lines_feed]
      have hempty : '\n' ∉ ([] : List Char) := List.not_mem_nil
      exact .cons hempty ih
    · have hfeed : ∀ {cs : List Char}, '\n' ∉ cs → '\n' ∉ c :: cs := fun h =>
        List.not_mem_cons_of_ne_of_not_mem (Ne.symm hc) h
      rcases hl : lines rest with _ | ⟨line, more⟩
      · rw [lines, if_neg hc, hl]
        exact .last (hfeed List.not_mem_nil) (List.cons_ne_nil _ _)
      · rw [lines_cons hc hl]
        rw [hl] at ih
        cases ih with
        | last h _ => exact .last (hfeed h) (List.cons_ne_nil _ _)
        | cons h hmore => exact .cons (hfeed h) hmore

theorem AreLines.lines_flatten {ls : List (List Char)} (h : AreLines ls) :
    lines ls.flatten = ls := by
  induction h with
  | nil => rfl
  | last hfeed hne =>
    rw [List.flatten_singleton]
    exact lines_of_not_mem hfeed hne
  | cons hfeed _ ih =>
    rw [List.flatten_cons, List.append_assoc, List.singleton_append, lines_append_feed hfeed, ih]

/-- A text has one way to be cut behind its line feeds. -/
theorem lines_eq_iff {cs : List Char} {ls : List (List Char)} :
    lines cs = ls ↔ AreLines ls ∧ ls.flatten = cs := by
  constructor
  · rintro rfl
    exact ⟨areLines_lines cs, flatten_lines cs⟩
  · rintro ⟨h, rfl⟩
    exact h.lines_flatten

/-- Lines of which some are left out are lines. -/
theorem AreLines.filter {ls : List (List Char)} (h : AreLines ls) (p : List Char → Bool) :
    AreLines (ls.filter p) := by
  induction h with
  | nil => exact .nil
  | @last line hfeed hne =>
    by_cases hp : p line = true
    · rw [List.filter_cons_of_pos hp]
      exact .last hfeed hne
    · rw [List.filter_cons_of_neg hp]
      exact .nil
  | @cons content hfeed _ _ ih =>
    by_cases hp : p (content ++ ['\n']) = true
    · rw [List.filter_cons_of_pos hp]
      exact .cons hfeed ih
    · rw [List.filter_cons_of_neg hp]
      exact ih

end Text

/-- Where a kept element of a list stands in the whole list. -/
theorem exists_split_of_getElem?_filter {α : Type} {p : α → Bool} {x : α} :
    ∀ {l : List α} {k : Nat}, (l.filter p)[k]? = some x →
      ∃ before after, l = before ++ x :: after ∧ (before.filter p).length = k ∧ p x = true
  | [], k, h => by simp at h
  | y :: l, k, h => by
    by_cases hy : p y = true
    · rw [List.filter_cons_of_pos hy] at h
      cases k with
      | zero =>
        rw [List.getElem?_cons_zero, Option.some.injEq] at h
        subst h
        exact ⟨[], l, rfl, rfl, hy⟩
      | succ k =>
        obtain ⟨before, after, rfl, hk, hx⟩ := exists_split_of_getElem?_filter h
        refine ⟨y :: before, after, rfl, ?_, hx⟩
        rw [List.filter_cons_of_pos hy, List.length_cons, hk]
    · rw [List.filter_cons_of_neg hy] at h
      obtain ⟨before, after, rfl, hk, hx⟩ := exists_split_of_getElem?_filter h
      exact ⟨y :: before, after, rfl, by rw [List.filter_cons_of_neg hy, hk], hx⟩

namespace Document

/-- A comment line has blanks and then the sign. -/
theorem isComment_iff (line : List Char) : isComment line = true ↔
    ∃ blanks rest, line = blanks ++ '#' :: rest ∧ ∀ c ∈ blanks, Text.isBlank c = true := by
  rw [isComment, Text.trimStart, beq_iff_eq, List.head?_eq_some_iff]
  constructor
  · rintro ⟨rest, hrest⟩
    refine ⟨line.takeWhile Text.isBlank, rest, ?_, fun c hc => List.mem_takeWhile_imp hc⟩
    rw [← hrest, List.takeWhile_append_dropWhile]
  · rintro ⟨blanks, rest, rfl, hblank⟩
    refine ⟨rest, ?_⟩
    rw [List.dropWhile_append_of_pos hblank]
    rfl

/-- The lines of a text that are no comments. -/
def keptLines (cs : List Char) : List (List Char) :=
  (Text.lines cs).filter fun line => !isComment line

theorem placeLines_append (offset : Nat) (ls ms : List (List Char)) :
    placeLines offset (ls ++ ms) =
      placeLines offset ls ++ placeLines (offset + Text.byteLength ls.flatten) ms := by
  induction ls generalizing offset with
  | nil => rfl
  | cons line ls ih =>
    simp only [List.cons_append, placeLines, ih, List.flatten_cons, Text.byteLength_append,
      Nat.add_assoc]

theorem map_snd_placeLines (offset : Nat) (ls : List (List Char)) :
    (placeLines offset ls).map Prod.snd = ls := by
  induction ls generalizing offset with
  | nil => rfl
  | cons line ls ih => rw [placeLines, List.map_cons, ih]

theorem map_snd_filter_placeLines (offset : Nat) (ls : List (List Char)) :
    ((placeLines offset ls).filter fun l => !isComment l.2).map Prod.snd =
      ls.filter fun line => !isComment line := by
  calc
    ((placeLines offset ls).filter fun l => !isComment l.2).map Prod.snd =
        ((placeLines offset ls).map Prod.snd).filter fun line => !isComment line := by
      rw [List.filter_map]
      rfl
    _ = ls.filter fun line => !isComment line := by rw [map_snd_placeLines]

theorem map_snd_survivingLines (cs : List Char) :
    (survivingLines cs).map Prod.snd = keptLines cs :=
  map_snd_filter_placeLines 0 (Text.lines cs)

theorem stripChars_eq (cs : List Char) : stripChars cs = (keptLines cs).flatten := by
  rw [stripChars, ← map_snd_survivingLines, List.flatMap_def]

theorem stripChars_stripChars (cs : List Char) : stripChars (stripChars cs) = stripChars cs := by
  have hlines : Text.lines (keptLines cs).flatten = keptLines cs :=
    ((Text.areLines_lines cs).filter _).lines_flatten
  have hkept : keptLines (keptLines cs).flatten = keptLines cs := by
    rw [keptLines, hlines, keptLines, List.filter_filter]
    simp only [Bool.and_self]
  rw [stripChars_eq, stripChars_eq, hkept]

/-- A line that is read begins behind all lines before it, and only the ones that are read count. -/
theorem survivingLines_of_split {cs line : List Char} {before after : List (List Char)}
    (h : Text.lines cs = before ++ line :: after) (hline : isComment line = false) :
    (survivingLines cs)[(before.filter fun line => !isComment line).length]? =
      some (Text.byteLength before.flatten, line) := by
  have hlength : ((placeLines 0 before).filter fun l => !isComment l.2).length =
      (before.filter fun line => !isComment line).length := by
    rw [← map_snd_filter_placeLines 0 before, List.length_map]
  rw [survivingLines, h, placeLines_append, List.filter_append, placeLines,
    List.filter_cons_of_pos (by simp [hline]), ← hlength, Nat.zero_add]
  simp only [List.getElem?_append_right (Nat.le_refl _), Nat.sub_self, List.getElem?_cons_zero]

theorem fileOffset_of_getElem? {cs text : List Char} {k start : Nat}
    (h : (survivingLines cs)[k]? = some (start, text)) (column : Nat) :
    fileOffset cs (k + 1) column =
      some (start + Text.byteLength ((lineContent text).take (column - 1))) := by
  simp only [fileOffset, Nat.add_one_ne_zero, if_false, Nat.add_sub_cancel, h]

theorem fileOffset_of_length_lt {cs : List Char} {number : Nat}
    (h : (keptLines cs).length < number) (column : Nat) :
    fileOffset cs number column = some (Text.byteLength cs) := by
  have hnone : (survivingLines cs)[number - 1]? = none := by
    rw [List.getElem?_eq_none_iff, ← List.length_map Prod.snd, map_snd_survivingLines]
    omega
  have hnumber : number ≠ 0 := by omega
  simp only [fileOffset, hnumber, if_false, hnone]

/-- A line is its content, with or without a line feed. -/
theorem eq_lineContent_or_feed {ls : List (List Char)} (h : Text.AreLines ls) :
    ∀ line ∈ ls, line = lineContent line ∨ line = lineContent line ++ ['\n'] := by
  have hcontent : ∀ {content : List Char}, '\n' ∉ content →
      ∀ rest, lineContent (content ++ rest) = content ++ lineContent rest := by
    intro content hfeed rest
    refine List.takeWhile_append_of_pos fun c hc => ?_
    rw [bne_iff_ne]
    exact fun h => hfeed (h ▸ hc)
  induction h with
  | nil => exact fun line hline => nomatch hline
  | @last line hfeed _ =>
    intro l hl
    obtain rfl := List.mem_singleton.mp hl
    have := hcontent hfeed []
    rw [List.append_nil] at this
    exact .inl (this.trans (List.append_nil l)).symm
  | @cons content hfeed rest _ ih =>
    intro l hl
    rcases List.mem_cons.mp hl with rfl | hl
    · refine .inr ?_
      rw [hcontent hfeed]
      exact congrArg (· ++ ['\n']) (List.append_nil content).symm
    · exact ih l hl

/-- Up to its line feed a line is its content. -/
theorem take_lineContent {line init rest : List Char} {c : Char} (hline : line = init ++ c :: rest)
    (h : line = lineContent line ∨ line = lineContent line ++ ['\n']) :
    (lineContent line).take init.length = init := by
  have hprefix : lineContent line <+: line := List.takeWhile_prefix _
  have hlength : init.length ≤ (lineContent line).length := by
    have hlt : init.length < line.length := by
      rw [hline, List.length_append, List.length_cons]
      omega
    rcases h with h | h
    · exact h ▸ hlt.le
    · rw [h, List.length_append, List.length_singleton] at hlt
      exact Nat.le_of_lt_succ hlt
  obtain ⟨feed, hfeed⟩ := hprefix
  calc
    (lineContent line).take init.length = (lineContent line ++ feed).take init.length :=
      (List.take_append_of_le_length hlength).symm
    _ = init := by rw [hfeed, hline, List.take_left]

/-- A line that is read begins where it begins in the file, and as far as it goes its characters are
found where they stand. -/
theorem fileOffset_of_split {cs line : List Char} {before after : List (List Char)}
    (h : Text.lines cs = before ++ line :: after) (hline : isComment line = false) (column : Nat) :
    fileOffset cs ((before.filter fun line => !isComment line).length + 1) column =
      some (Text.byteLength (before.flatten ++ (lineContent line).take (column - 1))) := by
  rw [fileOffset_of_getElem? (survivingLines_of_split h hline), Text.byteLength_append]

/-- What is read of a file are its lines, cut behind line feeds, but for those that begin with blanks
and the sign of comments, and nothing more is taken out of it a second time. The character at a column
of a line that is read, its line feed included, is found where it stands in the file. A column past
that is the end of the line's content, a line past the last one the end of the file, and there is no
line before the first. Whatever is found is a place in the file between two characters. -/
theorem fileOffset_of_strip (s : String) :
    (∀ ls, Text.lines s.toList = ls ↔ Text.AreLines ls ∧ ls.flatten = s.toList) ∧
      (∀ line, isComment line = true ↔
        ∃ blanks rest, line = blanks ++ '#' :: rest ∧ ∀ c ∈ blanks, Text.isBlank c = true) ∧
      stripComments s = String.ofList (keptLines s.toList).flatten ∧
      stripComments (stripComments s) = stripComments s ∧
      (∀ k line, (keptLines s.toList)[k]? = some line → ∃ before after,
        Text.lines s.toList = before ++ line :: after ∧
        (before.filter fun line => !isComment line).length = k ∧
        (∀ init c rest, line = init ++ c :: rest →
          s.toList = (before.flatten ++ init) ++ c :: (rest ++ after.flatten) ∧
          fileOffset s.toList (k + 1) (init.length + 1) =
            some (Text.byteLength (before.flatten ++ init))) ∧
        ∀ column, line.length < column → fileOffset s.toList (k + 1) column =
          some (Text.byteLength (before.flatten ++ lineContent line))) ∧
      (∀ number column, (keptLines s.toList).length < number →
        fileOffset s.toList number column = some s.utf8ByteSize) ∧
      (∀ column, fileOffset s.toList 0 column = none) ∧
      ∀ number column, 0 < number → ∃ offset, fileOffset s.toList number column = some offset ∧
        offset ≤ s.utf8ByteSize ∧ (⟨offset⟩ : String.Pos.Raw).IsValid s := by
  have hend : Text.byteLength s.toList = s.utf8ByteSize := by
    rw [Text.byteLength_eq, String.ofList_toList]
  have hsplit : ∀ {before after line}, Text.lines s.toList = before ++ line :: after →
      s.toList = before.flatten ++ (line ++ after.flatten) := by
    intro before after line h
    rw [← Text.flatten_lines s.toList, h, List.flatten_append, List.flatten_cons]
  refine ⟨fun _ => Text.lines_eq_iff, isComment_iff, ?_, ?_, ?_, ?_, fun _ => rfl, ?_⟩
  · rw [stripComments, stripChars_eq]
  · rw [stripComments, stripComments, String.toList_ofList, stripChars_stripChars]
  · intro k line hk
    obtain ⟨before, after, h, rfl, hkept⟩ := exists_split_of_getElem?_filter hk
    have hline : isComment line = false := by simpa using hkept
    refine ⟨before, after, h, rfl, ?_, ?_⟩
    · intro init c rest hchars
      have hmem : line ∈ Text.lines s.toList := h ▸ List.mem_append_right _ List.mem_cons_self
      refine ⟨?_, ?_⟩
      · rw [hsplit h, hchars]
        simp only [List.append_assoc, List.cons_append]
      · rw [fileOffset_of_split h hline, Nat.add_sub_cancel,
          take_lineContent hchars (eq_lineContent_or_feed (Text.areLines_lines _) line hmem)]
    · intro column hcolumn
      have hle : (lineContent line).length ≤ line.length :=
        (List.takeWhile_prefix _).length_le
      rw [fileOffset_of_split h hline, List.take_of_length_le (by omega)]
  · intro number column hnumber
    rw [fileOffset_of_length_lt hnumber, hend]
  · intro number column hnumber
    -- what is found is the length of a text with which the file begins
    rcases Nat.lt_or_ge (keptLines s.toList).length number with hlt | hge
    · refine ⟨_, fileOffset_of_length_lt hlt column, ?_⟩
      exact Text.isValid_of_prefix (List.prefix_refl _)
    · have hk : number - 1 < (keptLines s.toList).length := by omega
      obtain ⟨before, after, h, hcount, hkept⟩ :=
        exists_split_of_getElem?_filter (List.getElem?_eq_getElem hk)
      generalize (keptLines s.toList)[number - 1] = line at h hkept
      have hline : isComment line = false := by simpa using hkept
      have hnumber : number =
          (before.filter fun line => !isComment line).length + 1 := by omega
      refine ⟨_, hnumber ▸ fileOffset_of_split h hline column, ?_⟩
      obtain ⟨rest, hrest⟩ : (lineContent line).take (column - 1) <+: line :=
        (List.take_prefix _ _).trans (List.takeWhile_prefix _)
      refine Text.isValid_of_prefix ⟨rest ++ after.flatten, ?_⟩
      calc
        before.flatten ++ (lineContent line).take (column - 1) ++ (rest ++ after.flatten)
        _ = before.flatten ++ (line ++ after.flatten) := by
          rw [List.append_assoc, ← List.append_assoc _ rest, hrest]
        _ = s.toList := (hsplit h).symm

/-- The offset of a character behind a comment and behind one that takes two bytes. -/
example : fileOffset "# note\ntitle: é ]\n".toList 1 10 = some 17 := by decide

end Document

end AppSpec
