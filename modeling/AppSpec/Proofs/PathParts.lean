import Mathlib.Data.List.DropRight
import AppSpec.FilePath

/-!
# The parts of a path

A path is its pieces with slashes between them (`joinPieces_pieces`, `pieces_joinPieces`). A plain name
behind a path is one more component (`components_join`), and the path above it is the one that it was
joined to (`directory?_join_join`). Of any path, the text of the directory above has all components but
the last (`components_directory?`).
-/

namespace AppSpec.FilePath

/-! ## Pieces -/

theorem splitSlash_ne_nil (cs : List Char) : splitSlash cs ≠ [] := by
  cases cs with
  | nil => simp [splitSlash]
  | cons c cs =>
    rw [splitSlash]
    split
    · split <;> simp
    · simp

theorem splitSlash_cons (c : Char) (cs : List Char) : splitSlash (c :: cs) =
    if c = '/' then [] :: splitSlash cs else (splitSlash cs).modifyHead (c :: ·) := by
  rw [splitSlash]
  split
  · rename_i piece rest h
    rw [h]
    rfl
  · rename_i h
    exact absurd h (splitSlash_ne_nil cs)

theorem splitSlash_slash (xs ys : List Char) :
    splitSlash (xs ++ '/' :: ys) = splitSlash xs ++ splitSlash ys := by
  induction xs with
  | nil => rw [List.nil_append, splitSlash_cons, if_pos rfl]; rfl
  | cons c xs ih =>
    rw [List.cons_append, splitSlash_cons, splitSlash_cons, ih]
    obtain ⟨piece, rest, h⟩ := List.exists_cons_of_ne_nil (splitSlash_ne_nil xs)
    rw [h]
    split <;> rfl

theorem splitSlash_of_not_mem {cs : List Char} (h : '/' ∉ cs) : splitSlash cs = [cs] := by
  induction cs with
  | nil => rfl
  | cons c cs ih =>
    rw [List.mem_cons, not_or] at h
    rw [splitSlash_cons, if_neg (Ne.symm h.1), ih h.2]
    rfl

/-- The last piece of a text ends with whatever the text ends with, up to a slash. -/
theorem splitSlash_append_of_not_mem (cs : List Char) {ys : List Char} (h : '/' ∉ ys) :
    ∃ init xs, splitSlash (cs ++ ys) = init ++ [xs ++ ys] := by
  induction cs with
  | nil => exact ⟨[], [], by rw [List.nil_append, splitSlash_of_not_mem h]; rfl⟩
  | cons c cs ih =>
    obtain ⟨init, xs, ih⟩ := ih
    rw [List.cons_append, splitSlash_cons, ih]
    split
    · exact ⟨[] :: init, xs, rfl⟩
    · cases init with
      | nil => exact ⟨[], c :: xs, rfl⟩
      | cons piece init => exact ⟨(c :: piece) :: init, xs, rfl⟩

theorem not_mem_of_mem_splitSlash {cs piece : List Char} (h : piece ∈ splitSlash cs) :
    '/' ∉ piece := by
  induction cs generalizing piece with
  | nil =>
    rw [List.mem_singleton.mp h]
    exact List.not_mem_nil
  | cons c cs ih =>
    rw [splitSlash_cons] at h
    obtain ⟨first, rest, hcs⟩ := List.exists_cons_of_ne_nil (splitSlash_ne_nil cs)
    rw [hcs] at h ih
    split at h
    · rcases List.mem_cons.mp h with rfl | h
      · exact List.not_mem_nil
      · exact ih h
    · rename_i hc
      rcases List.mem_cons.mp h with rfl | h
      · rw [List.mem_cons, not_or]
        exact ⟨Ne.symm hc, ih List.mem_cons_self⟩
      · exact ih (List.mem_cons_of_mem _ h)

theorem intercalate_splitSlash (cs : List Char) : ['/'].intercalate (splitSlash cs) = cs := by
  induction cs with
  | nil => rfl
  | cons c cs ih =>
    rw [splitSlash_cons]
    obtain ⟨first, rest, hcs⟩ := List.exists_cons_of_ne_nil (splitSlash_ne_nil cs)
    rw [hcs] at ih ⊢
    split
    · rename_i hc
      rw [List.intercalate_cons_cons, ih, hc]
      rfl
    · cases rest with
      | nil =>
        rw [List.intercalate_singleton] at ih
        rw [List.modifyHead_cons, List.intercalate_singleton, ih]
      | cons second rest =>
        rw [List.intercalate_cons_cons] at ih
        rw [List.modifyHead_cons, List.intercalate_cons_cons, List.cons_append, List.cons_append, ih]

theorem splitSlash_intercalate {ps : List (List Char)} (hne : ps ≠ []) (h : ∀ p ∈ ps, '/' ∉ p) :
    splitSlash (['/'].intercalate ps) = ps := by
  induction ps with
  | nil => exact absurd rfl hne
  | cons p ps ih =>
    have hp := h p List.mem_cons_self
    cases ps with
    | nil => rw [List.intercalate_singleton, splitSlash_of_not_mem hp]
    | cons q ps =>
      have hrest := ih (List.cons_ne_nil q ps) fun r hr => h r (List.mem_cons_of_mem p hr)
      rw [List.intercalate_cons_cons, List.append_assoc, List.singleton_append, splitSlash_slash,
        splitSlash_of_not_mem hp, hrest]
      rfl

theorem pieces_ne_nil (path : String) : pieces path ≠ [] := by
  rw [pieces, Ne, List.map_eq_nil_iff]
  exact splitSlash_ne_nil _

theorem pieces_slash (a b : String) : pieces (a ++ "/" ++ b) = pieces a ++ pieces b := by
  have htext : (a ++ "/" ++ b).toList = a.toList ++ '/' :: b.toList := by simp
  rw [pieces, htext, splitSlash_slash, List.map_append]
  rfl

theorem pieces_of_not_mem {name : String} (h : '/' ∉ name.toList) : pieces name = [name] := by
  rw [pieces, splitSlash_of_not_mem h, List.map_singleton, String.ofList_toList]

theorem not_mem_of_mem_pieces {path p : String} (h : p ∈ pieces path) : '/' ∉ p.toList := by
  obtain ⟨piece, hpiece, rfl⟩ := List.mem_map.mp h
  rw [String.toList_ofList]
  exact not_mem_of_mem_splitSlash hpiece

theorem toList_joinPieces (ps : List String) :
    (joinPieces ps).toList = ['/'].intercalate (ps.map String.toList) := by
  rw [joinPieces, String.toList_intercalate]
  rfl

theorem isAbsolute_of_not_mem {name : String} (h : '/' ∉ name.toList) : isAbsolute name = false := by
  rcases hcs : name.toList with _ | ⟨c, cs⟩
  · simp [isAbsolute, hcs]
  · have hc : c ≠ '/' := fun hc => h (hcs ▸ hc ▸ List.mem_cons_self)
    simp [isAbsolute, hcs, hc]

theorem joinPieces_pieces (path : String) : joinPieces (pieces path) = path := by
  have hmap : (pieces path).map String.toList = splitSlash path.toList := by
    simp [pieces, Function.comp_def]
  rw [← String.toList_inj, toList_joinPieces, hmap, intercalate_splitSlash]

theorem pieces_joinPieces {ps : List String} (hne : ps ≠ []) (h : ∀ p ∈ ps, '/' ∉ p.toList) :
    pieces (joinPieces ps) = ps := by
  have hmap : ∀ p ∈ ps.map String.toList, '/' ∉ p := by
    intro p hp
    obtain ⟨q, hq, rfl⟩ := List.mem_map.mp hp
    exact h q hq
  rw [pieces, toList_joinPieces, splitSlash_intercalate (by simpa using hne) hmap]
  simp [Function.comp_def]

/-- The characters of a path's pieces, joined again, are the path's own and slashes. -/
theorem mem_of_mem_joinPieces {path : String} {ps : List String} (h : ps ⊆ pieces path) {c : Char}
    (hc : c ≠ '/') (hmem : c ∈ (joinPieces ps).toList) : c ∈ path.toList := by
  have hjoin : ∀ l : List (List Char), c ∈ ['/'].intercalate l ↔ ∃ p ∈ l, c ∈ p := by
    intro l
    induction l with
    | nil => simp
    | cons p l ih =>
      cases l with
      | nil => simp
      | cons q l => simp [List.intercalate_cons_cons, ih, hc]
  rw [toList_joinPieces, hjoin] at hmem
  obtain ⟨p, hp, hcp⟩ := hmem
  obtain ⟨q, hq, rfl⟩ := List.mem_map.mp hp
  have hpath : c ∈ (joinPieces (pieces path)).toList := by
    rw [toList_joinPieces, hjoin]
    exact ⟨q.toList, List.mem_map_of_mem (h hq), hcp⟩
  rwa [joinPieces_pieces] at hpath

/-! ## Components -/

/-- The component of the piece that a path begins with. -/
def leading (piece : String) : Component :=
  if piece = "" then .root else if piece = "." then .current else ofPiece piece

theorem isAbsolute_of_pieces {path : String} (hpath : path ≠ "") {rest : List String}
    (h : pieces path = "" :: rest) : isAbsolute path = true := by
  rcases hcs : path.toList with _ | ⟨c, cs⟩
  · exact absurd (String.toList_eq_nil_iff.mp hcs) hpath
  · obtain ⟨piece, tail, htail⟩ := List.exists_cons_of_ne_nil (splitSlash_ne_nil cs)
    rw [pieces, hcs, splitSlash_cons, htail] at h
    by_cases hc : c = '/'
    · simp [isAbsolute, hcs, hc]
    · simp [hc] at h

theorem components_of_pieces {path lead : String} {rest : List String} (hpath : path ≠ "")
    (h : pieces path = lead :: rest) : components path = leading lead :: innerComponents rest := by
  unfold components
  rw [h]
  split
  · rename_i tail heq
    obtain ⟨rfl, rfl⟩ := List.cons.inj heq
    rw [isAbsolute_of_pieces hpath h]
    rfl
  · rename_i tail heq
    obtain ⟨rfl, rfl⟩ := List.cons.inj heq
    rfl
  · rename_i hempty hpoint
    have hlead : lead ≠ "" := fun h => hempty rest (by rw [h])
    have hlead' : lead ≠ "." := fun h => hpoint rest (by rw [h])
    simp [leading, innerComponents, isIdle, hlead, hlead']

theorem components_empty : components "" = [] := by decide

theorem innerComponents_append (ps qs : List String) :
    innerComponents (ps ++ qs) = innerComponents ps ++ innerComponents qs := by
  simp [innerComponents]

theorem innerComponents_concat (ps : List String) {p : String} (hp : isIdle p = false) :
    innerComponents (ps ++ [p]) = innerComponents ps ++ [ofPiece p] := by
  simp [innerComponents, hp]

theorem trimEnd_concat (ps : List String) (p : String) :
    trimEnd (ps ++ [p]) = if isIdle p then trimEnd ps else ps ++ [p] :=
  List.rdropWhile_concat isIdle ps p

theorem trimEnd_subset (ps : List String) : trimEnd ps ⊆ ps :=
  (List.rdropWhile_prefix isIdle (l := ps)).subset

theorem innerComponents_trimEnd (ps : List String) :
    innerComponents (trimEnd ps) = innerComponents ps := by
  induction ps using List.reverseRecOn with
  | nil => rfl
  | append_singleton ps p ih =>
    rw [trimEnd_concat]
    split
    · rename_i hp
      rw [ih, innerComponents_append]
      simp [innerComponents, hp]
    · rfl

theorem trimEnd_cases (ps : List String) :
    trimEnd ps = [] ∨ ∃ init last, trimEnd ps = init ++ [last] ∧ isIdle last = false := by
  induction ps using List.reverseRecOn with
  | nil => exact .inl rfl
  | append_singleton ps p ih =>
    rw [trimEnd_concat]
    split
    · exact ih
    · rename_i hp
      exact .inr ⟨ps, p, rfl, by simpa using hp⟩

theorem trimEnd_eq_nil_iff {ps : List String} : trimEnd ps = [] ↔ innerComponents ps = [] := by
  rw [← innerComponents_trimEnd]
  rcases trimEnd_cases ps with h | ⟨init, last, h, hlast⟩
  · simp [h, innerComponents]
  · simp [h, innerComponents_concat init hlast]

/-- Without the last piece that is not idle there is one component less. -/
theorem innerComponents_dropLast_trimEnd (ps : List String) :
    innerComponents (trimEnd (trimEnd ps).dropLast) = (innerComponents ps).dropLast := by
  rw [innerComponents_trimEnd, ← innerComponents_trimEnd ps]
  rcases trimEnd_cases ps with h | ⟨init, last, h, hlast⟩
  · rw [h]
    rfl
  · rw [h, List.dropLast_concat, innerComponents_concat init hlast, List.dropLast_concat]

/-! ## The directory above -/

/-- The text of the directory above a path that begins with a piece. -/
def above (lead : String) (rest : List String) : String :=
  let inner := trimEnd (trimEnd rest).dropLast
  if lead = "" then if inner = [] then "/" else joinPieces ("" :: inner)
  else if trimEnd rest = [] then ""
  else joinPieces (lead :: inner)

theorem directory?_of_pieces {path lead : String} {rest : List String}
    (h : pieces path = lead :: rest) (hparent : (parent? path).isSome) :
    directory? path = some (above lead rest) := by
  have hnone : (parent? path).isNone = false := by
    rw [Option.isNone_eq_false_iff]
    exact hparent
  simp only [directory?, hnone, Bool.false_eq_true, if_false, h, beq_iff_eq, List.isEmpty_iff, above]
  split
  · rfl
  · split
    · rename_i hnil
      rw [if_pos hnil]
    · rename_i hne
      rw [if_neg fun hnil => hne hnil]

theorem isSome_parent? {path above : String} (h : directory? path = some above) :
    (parent? path).isSome := by
  unfold directory? at h
  split at h
  · cases h
  · rename_i hsome
    simpa [Option.isSome_iff_ne_none] using hsome

theorem components_joinPieces {path lead : String} {inner : List String}
    (h : (lead :: inner) ⊆ pieces path) (hne : lead ≠ "" ∨ inner ≠ []) :
    components (joinPieces (lead :: inner)) = leading lead :: innerComponents inner := by
  have hpieces : pieces (joinPieces (lead :: inner)) = lead :: inner :=
    pieces_joinPieces (List.cons_ne_nil _ _) fun p hp => not_mem_of_mem_pieces (h hp)
  refine components_of_pieces (fun hempty => ?_) hpieces
  rw [hempty, pieces_of_not_mem (by decide)] at hpieces
  obtain ⟨rfl, rfl⟩ := List.cons.inj hpieces
  exact hne.elim (fun h => h rfl) fun h => h rfl

theorem trimEnd_dropLast_subset (ps : List String) : trimEnd (trimEnd ps).dropLast ⊆ ps :=
  fun _ hp => trimEnd_subset ps (List.dropLast_subset _ (trimEnd_subset _ hp))

/-- The directory above a path has all its components but the last. -/
theorem components_directory? {path dir : String} (h : directory? path = some dir) :
    components dir = (components path).dropLast := by
  have hparent := isSome_parent? h
  have hpath : path ≠ "" := by
    rintro rfl
    revert hparent
    decide
  obtain ⟨lead, rest, hpieces⟩ := List.exists_cons_of_ne_nil (pieces_ne_nil path)
  have hcomponents := components_of_pieces hpath hpieces
  rw [directory?_of_pieces hpieces hparent, Option.some.injEq] at h
  subst h
  have hinner := innerComponents_dropLast_trimEnd rest
  have hsub : (lead :: trimEnd (trimEnd rest).dropLast) ⊆ pieces path := by
    rw [hpieces]
    exact List.cons_subset_cons lead (trimEnd_dropLast_subset rest)
  unfold above
  generalize trimEnd (trimEnd rest).dropLast = inner at hinner hsub
  have hdrop : innerComponents rest ≠ [] →
      (components path).dropLast = leading lead :: innerComponents inner := by
    intro hne
    rw [hcomponents, List.dropLast_cons_of_ne_nil hne, hinner]
  by_cases hlead : lead = ""
  · subst hlead
    have hrest : innerComponents rest ≠ [] := by
      intro hnil
      rw [parent?, hcomponents, hnil] at hparent
      cases hparent
    rw [hdrop hrest]
    simp only [if_true]
    split
    · rename_i hnil
      rw [hnil]
      decide
    · rename_i hne
      exact components_joinPieces hsub (.inr hne)
  · simp only [hlead, if_false]
    split
    · rename_i hnil
      rw [hcomponents, trimEnd_eq_nil_iff.mp hnil]
      exact components_empty
    · rename_i hne
      rw [hdrop (trimEnd_eq_nil_iff.not.mp hne)]
      exact components_joinPieces hsub (.inl hlead)

theorem mem_of_mem_directory? {path dir : String} (h : directory? path = some dir) {c : Char}
    (hc : c ≠ '/') (hmem : c ∈ dir.toList) : c ∈ path.toList := by
  obtain ⟨lead, rest, hpieces⟩ := List.exists_cons_of_ne_nil (pieces_ne_nil path)
  rw [directory?_of_pieces hpieces (isSome_parent? h), Option.some.injEq] at h
  have hjoin : c ∈ (joinPieces (lead :: trimEnd (trimEnd rest).dropLast)).toList →
      c ∈ path.toList := by
    refine mem_of_mem_joinPieces ?_ hc
    rw [hpieces]
    exact List.cons_subset_cons lead (trimEnd_dropLast_subset rest)
  simp only [above] at h
  split at h
  · rename_i hlead
    subst hlead
    split at h
    · rw [← h] at hmem
      exact absurd (List.mem_singleton.mp hmem) hc
    · exact hjoin (h ▸ hmem)
  · split at h
    · rw [← h] at hmem
      exact absurd hmem List.not_mem_nil
    · exact hjoin (h ▸ hmem)

/-! ## Plain names -/

/-- A name that is one piece, and one component wherever it stands. -/
structure Plain (name : String) : Prop where
  slash : '/' ∉ name.toList
  idle : isIdle name = false
  parent : name ≠ ".."

section Joining

variable {name : String} (hname : Plain name)
include hname

theorem Plain.ofPiece_eq : ofPiece name = .name name := by
  rw [ofPiece, beq_eq_false_iff_ne.mpr hname.parent]
  rfl

theorem Plain.trimEnd_concat (ps : List String) : trimEnd (ps ++ [name]) = ps ++ [name] := by
  rw [FilePath.trimEnd_concat, hname.idle]
  rfl

theorem Plain.ne_empty : name ≠ "" := by
  rintro rfl
  exact Bool.noConfusion hname.idle

theorem Plain.isAbsolute_eq : isAbsolute name = false :=
  isAbsolute_of_not_mem hname.slash

theorem Plain.components_eq : components name = [.name name] := by
  have hlead : leading name = .name name := by
    have hidle := hname.idle
    simp only [isIdle, Bool.or_eq_false_iff, beq_eq_false_iff_ne] at hidle
    rw [leading, if_neg hidle.1, if_neg hidle.2, hname.ofPiece_eq]
  rw [components_of_pieces hname.ne_empty (pieces_of_not_mem hname.slash), hlead]
  rfl

end Joining

/-- A path whose last piece is plain ends with that name. -/
theorem components_of_concat {path name : String} {init : List String} (hname : Plain name)
    (h : pieces path = init ++ [name]) : ∃ cs, components path = cs ++ [.name name] := by
  cases init with
  | nil =>
    have hpath : path = name := by
      have hpieces : pieces path = pieces name := h.trans (pieces_of_not_mem hname.slash).symm
      rw [← joinPieces_pieces path, hpieces, joinPieces_pieces]
    exact ⟨[], by rw [hpath, hname.components_eq]; rfl⟩
  | cons lead rest =>
    have hpath : path ≠ "" := by
      rintro rfl
      rw [pieces_of_not_mem (by decide)] at h
      simp at h
    refine ⟨leading lead :: innerComponents rest, ?_⟩
    rw [components_of_pieces hpath h, List.append_eq, innerComponents_concat rest hname.idle,
      hname.ofPiece_eq, List.cons_append]

/-- The last name of a path ends with whatever the path ends with, if that is no mere point. -/
theorem components_of_suffix {path : String} {ending : List Char} (h : ending <:+ path.toList)
    (hslash : '/' ∉ ending) (hlength : 2 < ending.length) :
    ∃ cs name, components path = cs ++ [.name name] ∧ ending <:+ name.toList := by
  obtain ⟨before, hbefore⟩ := h
  obtain ⟨init, xs, hsplit⟩ := splitSlash_append_of_not_mem before hslash
  have hpieces : pieces path = init.map String.ofList ++ [String.ofList (xs ++ ending)] := by
    rw [pieces, ← hbefore, hsplit, List.map_append, List.map_singleton]
  have hlong : ∀ s : String, s.toList.length ≤ 2 → String.ofList (xs ++ ending) ≠ s := by
    rintro s hs rfl
    rw [String.toList_ofList, List.length_append] at hs
    omega
  have hmem : String.ofList (xs ++ ending) ∈ pieces path := by simp [hpieces]
  have hplain : Plain (String.ofList (xs ++ ending)) := by
    refine ⟨not_mem_of_mem_pieces hmem, ?_, hlong ".." (by decide)⟩
    have hempty := hlong "" (by decide)
    have hpoint := hlong "." (by decide)
    simp only [isIdle, beq_eq_false_iff_ne.mpr hempty, beq_eq_false_iff_ne.mpr hpoint, Bool.or_self]
  obtain ⟨cs, hcs⟩ := components_of_concat hplain hpieces
  exact ⟨cs, _, hcs, by rw [String.toList_ofList]; exact List.suffix_append xs ending⟩

/-- A path that ends with a slash is another path with an empty piece behind it. -/
theorem exists_of_slash {base : String} (h : base.toList.getLast? = some '/') :
    ∃ init : String, base = init ++ "/" ∧ pieces base = pieces init ++ [""] := by
  obtain ⟨init, hinit⟩ := List.getLast?_eq_some_iff.mp h
  have htext : base = String.ofList init ++ "/" ++ "" := by
    rw [← String.toList_inj, hinit]
    simp
  refine ⟨String.ofList init, by simpa using htext, ?_⟩
  rw [htext, pieces_slash]
  rfl

theorem pieces_join_of_not_slash {base : String} (hbase : base ≠ "")
    (hslash : base.toList.getLast? ≠ some '/') {name : String} (hname : '/' ∉ name.toList) :
    pieces (join base name) = pieces base ++ [name] := by
  have htext : join base name = base ++ "/" ++ name := by
    simp [join, isAbsolute_of_not_mem hname, hbase, hslash]
  rw [htext, pieces_slash, pieces_of_not_mem hname]

/-- What a piece joined to a path has before it. -/
theorem pieces_join {base : String} (hbase : base ≠ "") : ∃ lead rest,
    components base = leading lead :: innerComponents rest ∧
      ∀ name : String, '/' ∉ name.toList → pieces (join base name) = lead :: (rest ++ [name]) := by
  by_cases hslash : base.toList.getLast? = some '/'
  · obtain ⟨init, rfl, hpieces⟩ := exists_of_slash hslash
    obtain ⟨lead, rest, hlead⟩ := List.exists_cons_of_ne_nil (pieces_ne_nil init)
    rw [hlead, List.cons_append] at hpieces
    refine ⟨lead, rest, ?_, fun name hname => ?_⟩
    · rw [components_of_pieces hbase hpieces, innerComponents_append]
      simp [innerComponents, isIdle]
    · have htext : join (init ++ "/") name = init ++ "/" ++ name := by
        simp [join, isAbsolute_of_not_mem hname]
      rw [htext, pieces_slash, hlead, pieces_of_not_mem hname, List.cons_append]
  · obtain ⟨lead, rest, hlead⟩ := List.exists_cons_of_ne_nil (pieces_ne_nil base)
    refine ⟨lead, rest, components_of_pieces hbase hlead, fun name hname => ?_⟩
    rw [pieces_join_of_not_slash hbase hslash hname, hlead, List.cons_append]

theorem join_empty (name : String) : join "" name = name := by simp [join]

/-- A piece behind a path is one more component, or none if it is idle. -/
theorem components_join_piece {base piece : String} (hbase : base ≠ "") (h : '/' ∉ piece.toList) :
    components (join base piece) = components base ++ innerComponents [piece] := by
  obtain ⟨lead, rest, hcomponents, hjoin⟩ := pieces_join hbase
  have hpieces := hjoin piece h
  have hne : join base piece ≠ "" := by
    intro hempty
    rw [hempty, pieces_of_not_mem (by decide)] at hpieces
    simp at hpieces
  rw [components_of_pieces hne hpieces, hcomponents, innerComponents_append]
  rfl

/-- A name behind a path is one more component. -/
theorem components_join (base : String) {name : String} (hname : Plain name) :
    components (join base name) = components base ++ [.name name] := by
  by_cases hbase : base = ""
  · rw [hbase, join_empty, hname.components_eq]
    rfl
  · have hinner := innerComponents_concat [] hname.idle
    rw [hname.ofPiece_eq] at hinner
    rw [components_join_piece hbase hname.slash]
    exact congrArg _ hinner

theorem isSome_parent?_join (base : String) {name : String} (hname : Plain name) :
    (parent? (join base name)).isSome := by
  simp [parent?, components_join base hname]

/-- The directory above a joined name is the same for all names. -/
theorem directory?_join (base : String) :
    ∃ dir, ∀ name, Plain name → directory? (join base name) = some dir := by
  by_cases hbase : base = ""
  · refine ⟨"", fun name hname => ?_⟩
    have hpieces : pieces (join base name) = name :: [] := by
      rw [hbase, join_empty, pieces_of_not_mem hname.slash]
    rw [directory?_of_pieces hpieces (isSome_parent?_join base hname), above,
      if_neg hname.ne_empty]
    rfl
  · obtain ⟨lead, rest, -, hjoin⟩ := pieces_join hbase
    let inner := trimEnd rest
    refine ⟨if lead = "" then if inner = [] then "/" else joinPieces ("" :: inner)
      else joinPieces (lead :: inner), fun name hname => ?_⟩
    rw [directory?_of_pieces (hjoin name hname.slash) (isSome_parent?_join base hname)]
    simp [above, hname.trimEnd_concat, inner]

theorem exists_pieces_join (base : String) {name : String} (hname : Plain name) :
    ∃ init, pieces (join base name) = init ++ [name] := by
  by_cases hbase : base = ""
  · exact ⟨[], by rw [hbase, join_empty, pieces_of_not_mem hname.slash]; rfl⟩
  · obtain ⟨lead, rest, -, hjoin⟩ := pieces_join hbase
    exact ⟨lead :: rest, hjoin name hname.slash⟩

/-- The directory above a name is the path that the name was joined to, if that ends with a name. -/
theorem directory?_join_join (base : String) {dir name : String} (hdir : Plain dir)
    (hname : Plain name) : directory? (join (join base dir) name) = some (join base dir) := by
  obtain ⟨init, hinit⟩ := exists_pieces_join base hdir
  have hbase : join base dir ≠ "" := by
    intro h
    have hcomponents := components_join base hdir
    rw [h, components_empty] at hcomponents
    simp at hcomponents
  have hslash : (join base dir).toList.getLast? ≠ some '/' := by
    intro h
    obtain ⟨_, -, hpieces⟩ := exists_of_slash h
    rw [hinit] at hpieces
    have hlast := congrArg List.getLast? hpieces
    simp [hdir.ne_empty] at hlast
  have hpieces := pieces_join_of_not_slash hbase hslash hname.slash
  have hparent := isSome_parent?_join (join base dir) hname
  have hjoined : joinPieces (init ++ [dir]) = join base dir := by
    rw [← hinit, joinPieces_pieces]
  rw [hinit] at hpieces
  cases init with
  | nil =>
    have htrim := hname.trimEnd_concat []
    rw [directory?_of_pieces hpieces hparent, ← hjoined]
    simp only [List.append_eq, List.nil_append] at htrim ⊢
    simp only [above, hdir.ne_empty, if_false, htrim, List.cons_ne_nil]
    rfl
  | cons lead rest =>
    have htrim := hname.trimEnd_concat (rest ++ [dir])
    have htrim' := hdir.trimEnd_concat rest
    rw [directory?_of_pieces hpieces hparent, ← hjoined]
    simp only [List.append_eq, above, htrim, List.dropLast_concat, htrim']
    by_cases hlead : lead = ""
    · simp [hlead]
    · simp [hlead]

end AppSpec.FilePath
