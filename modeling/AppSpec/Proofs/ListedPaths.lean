import AppSpec.Compilation.Discovery
import AppSpec.Proofs.Neighbours

/-!
# Listed paths

A listing rebuilds the path of its directory piece by piece and leaves out the points that it begins
with (`Discovery.components_baseOf`). It fails on an empty piece right behind such points and on nothing
else (`Discovery.listedAs?_eq_none_iff`). A listed path leads to what has that name in the directory
(`Discovery.find_pathIn`).
-/

namespace AppSpec

namespace FilePath

variable {path base piece : String}

theorem ne_of_isAbsolute (h : isAbsolute path = true) : path ≠ "" ∧ path ≠ "." := by
  constructor <;> rintro rfl <;> revert h <;> decide

theorem exists_pieces_of_isAbsolute (h : isAbsolute path = true) :
    ∃ rest, pieces path = "" :: rest := by
  obtain ⟨cs, hcs⟩ := List.head?_eq_some_iff.mp (beq_iff_eq.mp h)
  rw [pieces, hcs, splitSlash_cons, if_pos rfl]
  exact ⟨_, rfl⟩

/-- A joined path has a slash, so it is not empty and no mere point. -/
theorem join_piece_ne (hbase : base ≠ "") (h : '/' ∉ piece.toList) :
    join base piece ≠ "" ∧ join base piece ≠ "." := by
  have hslash : '/' ∈ (join base piece).toList := by
    unfold join
    rw [isAbsolute_of_not_mem h, beq_eq_false_iff_ne.mpr hbase]
    split
    · rename_i hor
      cases hor
    · split
      · rename_i hlast
        rw [String.toList_append]
        exact List.mem_append_left _ (List.mem_of_getLast? (beq_iff_eq.mp hlast))
      · simp
  constructor <;> intro heq <;> rw [heq] at hslash <;> revert hslash <;> decide

theorem mem_join {c : Char} (h : c ∈ (join base piece).toList) :
    c = '/' ∨ c ∈ base.toList ∨ c ∈ piece.toList := by
  unfold join at h
  split at h
  · exact .inr (.inr h)
  · split at h
    · rw [String.toList_append, List.mem_append] at h
      exact .inr h
    · simp only [String.toList_append, List.mem_append] at h
      rcases h with (h | h) | h
      · exact .inr (.inl h)
      · exact .inl (List.mem_singleton.mp h)
      · exact .inr (.inr h)

theorem mem_of_mem_piece (h : piece ∈ pieces path) {c : Char} (hc : c ∈ piece.toList) :
    c ∈ path.toList := by
  have hsubset : [piece] ⊆ pieces path := by simpa using h
  refine mem_of_mem_joinPieces hsubset ?_ ?_
  · rintro rfl
    exact not_mem_of_mem_pieces h hc
  · rw [toList_joinPieces]
    simpa using hc

theorem current_not_mem_innerComponents (ps : List String) : .current ∉ innerComponents ps := by
  intro h
  obtain ⟨p, -, hp⟩ := List.mem_map.mp h
  unfold ofPiece at hp
  split at hp <;> cases hp

/-- The components of a path without the point that it begins with. -/
theorem filter_components {lead : String} {rest : List String} (hpath : path ≠ "")
    (h : pieces path = lead :: rest) : (components path).filter (· ≠ .current) =
      if lead = "" then .root :: innerComponents rest else innerComponents (lead :: rest) := by
  have hinner : ∀ ps, (innerComponents ps).filter (· ≠ .current) = innerComponents ps := by
    intro ps
    rw [List.filter_eq_self]
    rintro c hc
    rw [decide_eq_true_iff]
    rintro rfl
    exact current_not_mem_innerComponents ps hc
  have hone := hinner [lead]
  have hcons : innerComponents (lead :: rest) = innerComponents [lead] ++ innerComponents rest :=
    innerComponents_append [lead] rest
  rw [components_of_pieces hpath h, List.filter_cons, hinner, hcons]
  unfold leading
  split
  · simp
  · rename_i hempty
    split
    · rename_i hpoint
      simp [hpoint, innerComponents, isIdle]
    · rename_i hpoint
      have hlead : innerComponents [lead] = [ofPiece lead] :=
        innerComponents_concat [] (by simp [isIdle, hempty, hpoint])
      rw [hlead] at hone ⊢
      simpa using hone

end FilePath

/-- A walk stays where it is at a point. -/
theorem Disk.walk_filter {d : Disk} {q r : Place} : ∀ {cs : List FilePath.Component},
    d.walk q cs = .ok r → d.walk q (cs.filter (· ≠ .current)) = .ok r := by
  intro cs
  induction cs using List.reverseRecOn generalizing r with
  | nil => exact id
  | append_singleton cs c ih =>
    intro h
    obtain ⟨s, hs, hstep⟩ := walk_concat_eq_ok.mp h
    rw [List.filter_append]
    by_cases hc : c = .current
    · subst hc
      obtain ⟨rfl, -⟩ := enter_eq_ok.mp hstep
      simpa using ih hs
    · have hone : [c].filter (· ≠ FilePath.Component.current) = [c] := by simp [hc]
      rw [hone]
      exact walk_concat_eq_ok.mpr ⟨s, ih hs, hstep⟩

namespace Discovery

open FilePath

theorem foldlM_descend : ∀ (ps : List String) {seen : String}, (∀ p ∈ ps, '/' ∉ p.toList) →
    seen ≠ "" → seen ≠ "." → ∃ listed, ps.foldlM descend seen = some listed ∧ listed ≠ "." ∧
      components listed = components seen ++ innerComponents ps ∧
      ∀ c ∈ listed.toList, c = '/' ∨ c ∈ seen.toList ∨ ∃ p ∈ ps, c ∈ p.toList
  | [], seen, _, _, hpoint =>
    ⟨seen, rfl, hpoint, (List.append_nil _).symm, fun _ hc => .inr (.inl hc)⟩
  | p :: ps, seen, hps, hempty, hpoint => by
    have hp := hps p List.mem_cons_self
    obtain ⟨hempty', hpoint'⟩ := join_piece_ne hempty hp
    obtain ⟨listed, hlisted, hne, hcomponents, hchars⟩ := foldlM_descend ps
      (fun q hq => hps q (List.mem_cons_of_mem p hq)) hempty' hpoint'
    refine ⟨listed, ?_, hne, ?_, fun c hc => ?_⟩
    · have hstep : descend seen p = some (join seen p) := by simp [descend, hpoint]
      rw [List.foldlM_cons, hstep]
      exact hlisted
    · rw [hcomponents, components_join_piece hempty hp, List.append_assoc,
        ← innerComponents_append]
      rfl
    · rcases hchars c hc with h | h | ⟨q, hq, h⟩
      · exact .inl h
      · rcases mem_join h with h | h | h
        · exact .inl h
        · exact .inr (.inl h)
        · exact .inr (.inr ⟨p, List.mem_cons_self, h⟩)
      · exact .inr (.inr ⟨q, List.mem_cons_of_mem p hq, h⟩)

/-- The points that a path begins with are passed over. -/
theorem foldlM_descend_points (n : Nat) (ps : List String) :
    (List.replicate n "." ++ ps).foldlM descend "." = ps.foldlM descend "." := by
  induction n with
  | zero => rfl
  | succ n ih => exact ih

theorem exists_points : ∀ ps : List String,
    ∃ n qs, ps = List.replicate n "." ++ qs ∧ qs.head? ≠ some "."
  | [] => ⟨0, [], rfl, nofun⟩
  | p :: ps => by
    by_cases hp : p = "."
    · obtain ⟨n, qs, rfl, hqs⟩ := exists_points ps
      exact ⟨n + 1, qs, by rw [hp]; rfl, hqs⟩
    · exact ⟨0, p :: ps, rfl, by simpa using hp⟩

/-- What the names of a listed directory are joined to. -/
def baseOf (listed : String) : String :=
  if listed = "." then "" else listed

theorem pathIn_eq (listed name : String) : pathIn listed name = join (baseOf listed) name := by
  unfold pathIn baseOf
  by_cases h : listed = "."
  · simp [h, join_empty]
  · simp [h]

theorem listedAs?_of_points {dir : String} {n : Nat} {ps : List String}
    (h : pieces dir = List.replicate n "." ++ ps) (hps : n ≠ 0 ∨ ps.head? ≠ some "") :
    listedAs? dir = ps.foldlM descend "." := by
  unfold listedAs?
  split
  · rename_i rest hrest
    rw [hrest] at h
    cases n with
    | zero =>
      rw [List.replicate_zero, List.nil_append] at h
      rw [← h] at hps
      exact absurd rfl (hps.resolve_left (fun hn => hn rfl))
    | succ n =>
      rw [List.replicate_succ, List.cons_append] at h
      exact absurd (List.cons.inj h).1 (by decide)
  · rw [h, foldlM_descend_points]

theorem foldlM_descend_point : ∀ {ps : List String}, (∀ p ∈ ps, '/' ∉ p.toList) →
    ps.head? ≠ some "" → ps.head? ≠ some "." → ∃ listed, ps.foldlM descend "." = some listed ∧
      components (baseOf listed) = innerComponents ps ∧
      ∀ c ∈ (baseOf listed).toList, c = '/' ∨ ∃ p ∈ ps, c ∈ p.toList
  | [], _, _, _ => ⟨".", rfl, rfl, nofun⟩
  | p :: ps, hps, hempty, hpoint => by
    simp only [List.head?_cons, ne_eq, Option.some.injEq] at hempty hpoint
    obtain ⟨listed, hlisted, hne, hcomponents, hchars⟩ := foldlM_descend ps
      (fun q hq => hps q (List.mem_cons_of_mem p hq)) hempty hpoint
    have hbase : baseOf listed = listed := if_neg hne
    have hfirst : components p = innerComponents [p] := by
      rw [components_of_pieces hempty (pieces_of_not_mem (hps p List.mem_cons_self)), leading,
        if_neg hempty, if_neg hpoint]
      simp [innerComponents, isIdle, hempty, hpoint]
    refine ⟨listed, ?_, ?_, fun c hc => ?_⟩
    · have hstep : descend "." p = some p := by simp [descend, hempty]
      rw [List.foldlM_cons, hstep]
      exact hlisted
    · rw [hbase, hcomponents, hfirst, ← innerComponents_append]
      rfl
    · rcases hchars c (hbase ▸ hc) with h | h | ⟨q, hq, h⟩
      · exact .inl h
      · exact .inr ⟨p, List.mem_cons_self, h⟩
      · exact .inr ⟨q, List.mem_cons_of_mem p hq, h⟩

theorem exists_listed_of_root {dir : String} {rest : List String} (hdir : dir ≠ "")
    (h : pieces dir = "" :: rest) : ∃ listed, listedAs? dir = some listed ∧ listed ≠ "." ∧
      components listed = components dir ∧ ∀ c ∈ listed.toList, c = '/' ∨ c ∈ dir.toList := by
  have hmem : ∀ p ∈ rest, p ∈ pieces dir := fun p hp => h ▸ List.mem_cons_of_mem "" hp
  have htop : "/" ≠ "" ∧ "/" ≠ "." := by decide
  obtain ⟨listed, hlisted, hpoint, hcomponents, hchars⟩ := foldlM_descend rest
    (fun p hp => not_mem_of_mem_pieces (hmem p hp)) htop.1 htop.2
  refine ⟨listed, ?_, hpoint, ?_, fun c hc => ?_⟩
  · simp only [listedAs?, h]
    exact hlisted
  · rw [hcomponents, components_of_pieces hdir h]
    rfl
  · rcases hchars c hc with hc | hc | ⟨p, hp, hc⟩
    · exact .inl hc
    · exact .inl (List.mem_singleton.mp hc)
    · exact .inr (mem_of_mem_piece (hmem p hp) hc)

/-- The empty piece that a listing fails on. -/
def Doubled (dir : String) : Prop :=
  ∃ n rest, pieces dir = List.replicate (n + 1) "." ++ "" :: rest

/-- A listing names the directory by its own components, save a point in front. -/
theorem exists_listed {dir : String} (hdir : dir ≠ "") (h : ¬ Doubled dir) :
    ∃ listed, listedAs? dir = some listed ∧
      components (baseOf listed) = (components dir).filter (· ≠ .current) ∧
      ∀ c ∈ (baseOf listed).toList, c = '/' ∨ c ∈ dir.toList := by
  obtain ⟨lead, rest, hlead⟩ := List.exists_cons_of_ne_nil (pieces_ne_nil dir)
  have hfilter := filter_components hdir hlead
  by_cases hempty : lead = ""
  · rw [hempty] at hlead
    obtain ⟨listed, hlisted, hpoint, hcomponents, hchars⟩ := exists_listed_of_root hdir hlead
    have hbase : baseOf listed = listed := if_neg hpoint
    refine ⟨listed, hlisted, ?_, ?_⟩
    · rw [hbase, hcomponents, hfilter, if_pos hempty, components_of_pieces hdir hlead]
      rfl
    · rwa [hbase]
  · obtain ⟨n, ps, hps, hpoint⟩ := exists_points (pieces dir)
    have hmem : ∀ p ∈ ps, p ∈ pieces dir := fun p hp => hps ▸ List.mem_append_right _ hp
    -- an empty piece would be the root or doubled
    have hhead : ps.head? ≠ some "" := by
      intro hhead
      obtain ⟨tail, rfl⟩ := List.head?_eq_some_iff.mp hhead
      cases n with
      | zero => exact hempty (List.cons.inj (hlead.symm.trans hps)).1
      | succ n => exact h ⟨n, tail, hps⟩
    have hinner : innerComponents (lead :: rest) = innerComponents ps := by
      rw [← hlead, hps, innerComponents_append]
      simp [innerComponents, isIdle]
    obtain ⟨listed, hlisted, hcomponents, hchars⟩ := foldlM_descend_point
      (fun p hp => not_mem_of_mem_pieces (hmem p hp)) hhead hpoint
    refine ⟨listed, (listedAs?_of_points hps (.inr hhead)).trans hlisted, ?_, fun c hc => ?_⟩
    · rw [hcomponents, hfilter, if_neg hempty, hinner]
    · rcases hchars c hc with hc | ⟨p, hp, hc⟩
      · exact .inl hc
      · exact .inr (mem_of_mem_piece (hmem p hp) hc)

/-- An absolute directory can be listed, and a listing names it by the same components. -/
theorem listedAs?_of_isAbsolute {dir : String} (h : isAbsolute dir = true) :
    ∃ listed, listedAs? dir = some listed ∧ listed ≠ "." ∧ components listed = components dir := by
  obtain ⟨rest, hrest⟩ := exists_pieces_of_isAbsolute h
  obtain ⟨listed, hlisted, hpoint, hcomponents, -⟩ :=
    exists_listed_of_root (ne_of_isAbsolute h).1 hrest
  exact ⟨listed, hlisted, hpoint, hcomponents⟩

theorem listedAs?_eq_none_iff {dir : String} (hdir : dir ≠ "") :
    listedAs? dir = none ↔ Doubled dir := by
  constructor
  · intro h
    by_contra hno
    obtain ⟨listed, hlisted, -⟩ := exists_listed hdir hno
    rw [h] at hlisted
    cases hlisted
  · rintro ⟨n, rest, h⟩
    rw [listedAs?_of_points h (.inl (Nat.succ_ne_zero n))]
    rfl

section Listed

variable {d : Disk} {dir listed : String} {place : Place}

theorem components_baseOf (hdir : dir ≠ "") (h : listedAs? dir = some listed) :
    components (baseOf listed) = (components dir).filter (· ≠ .current) ∧
      ∀ c ∈ (baseOf listed).toList, c = '/' ∨ c ∈ dir.toList := by
  have hdoubled : ¬ Doubled dir := by
    rw [← listedAs?_eq_none_iff hdir, h]
    nofun
  obtain ⟨listed', hlisted, hspec⟩ := exists_listed hdir hdoubled
  cases h.symm.trans hlisted
  exact hspec

/-- The names of a listing are joined to a path of the directory. -/
theorem seat_baseOf (hdir : d.find dir = .ok (place, .directory))
    (h : listedAs? dir = some listed) : d.seat (baseOf listed) = .ok place := by
  obtain ⟨hlocate, hplace, -⟩ := Disk.find_eq_ok.mp hdir
  obtain ⟨hempty, hnul, hwalk⟩ := Disk.locate_eq_ok.mp hlocate
  obtain ⟨hcomponents, hchars⟩ := components_baseOf hempty h
  refine Disk.seat_eq_ok.mpr ⟨fun hmem => ?_, ?_, hplace⟩
  · rcases hchars _ hmem with hslash | hmem
    · exact absurd hslash (by decide)
    · exact hnul hmem
  · rw [hcomponents]
    exact Disk.walk_filter hwalk

/-- A listed path leads to what has that name in the directory. -/
theorem find_pathIn (hdir : d.find dir = .ok (place, .directory)) (h : listedAs? dir = some listed)
    {name : String} (hname : Disk.Usable name) {node : Node}
    (hnode : d.node? (place ++ [name]) = some node) :
    d.find (pathIn listed name) = .ok (place ++ [name], node) := by
  rw [pathIn_eq]
  refine Disk.find_eq_ok.mpr ⟨Disk.locate_join_of_seat hname (seat_baseOf hdir h), hnode, .inr ?_⟩
  obtain ⟨init, hinit⟩ := exists_pieces_join (baseOf listed) hname.plain
  rw [endsInDirectory, hinit, List.getLast?_concat]
  simp [hname.plain.idle, hname.plain.parent]

end Listed

end Discovery

end AppSpec
