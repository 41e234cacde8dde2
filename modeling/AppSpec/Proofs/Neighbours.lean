import AppSpec.Proofs.DiskWriting

/-!
# Files in neighbouring directories

Two files of one name stand in two directories of one base. They have different places
(`suffix_of_locate`), whether their directories can be made is the same question while the base is not
there (`makeDirectories_beside`), and so updating one of them leaves the other as settled as it was
(`Settled.beside`).
-/

namespace AppSpec.Disk

open FilePath

/-- A plain name without the character that ends names. -/
structure Usable (name : String) : Prop where
  plain : Plain name
  nul : '\x00' ∉ name.toList

/-- The place of a directory, the empty path being the one that one is in. -/
def seat (d : Disk) (base : String) : Except DiskFault Place :=
  if '\x00' ∈ base.toList then .error .badName else d.walk d.here (components base) >>= d.enter

variable {d e : Disk} {kind : Place → Prop} {base a b f x y : String}

theorem nul_mem_join (ha : Usable a) :
    '\x00' ∈ (join base a).toList ↔ '\x00' ∈ base.toList := by
  have hnul := ha.nul
  unfold join
  simp only [ha.plain.isAbsolute_eq, Bool.false_or, beq_iff_eq]
  split
  · rename_i hbase
    simp [hbase, hnul]
  · split
    · simp [hnul]
    · simp [hnul]

theorem join_ne_empty (base : String) (ha : Plain a) : join base a ≠ "" := by
  intro h
  have hcomponents := components_join base ha
  rw [h, components_empty] at hcomponents
  simp at hcomponents

/-- A name joined to a base stands in the base. -/
theorem locate_join (ha : Usable a) : d.locate (join base a) = (d.seat base).map (· ++ [a]) := by
  have hempty : (join base a == "") = false := beq_eq_false_iff_ne.mpr (join_ne_empty base ha.plain)
  have hwalk : d.walk d.here (components (join base a)) =
      (d.walk d.here (components base) >>= d.enter).map (· ++ [a]) := by
    rw [components_join base ha.plain, walk_concat]
    rcases d.walk d.here (components base) with fault | q
    · rfl
    · rfl
  simp only [locate, seat, hempty, hwalk, List.contains_iff_mem, nul_mem_join ha]
  split
  · rename_i h
    cases h
  · split
    · rfl
    · rfl

theorem seat_join (ha : Usable a) : d.seat (join base a) = d.locate (join base a) >>= d.enter := by
  have hempty : (join base a == "") = false := beq_eq_false_iff_ne.mpr (join_ne_empty base ha.plain)
  simp only [locate, seat, hempty, List.contains_iff_mem]
  split
  · rfl
  · rfl

theorem seat_eq_ok {q : Place} : d.seat base = .ok q ↔ '\x00' ∉ base.toList ∧
    d.walk d.here (components base) = .ok q ∧ d.node? q = some .directory := by
  unfold seat
  split
  · rename_i hnul
    exact iff_of_false nofun fun h => h.1 hnul
  · rename_i hnul
    rcases d.walk d.here (components base) with fault | r
    · exact iff_of_false nofun nofun
    · refine (enter_eq_ok (q := r)).trans ⟨?_, ?_⟩
      · rintro ⟨rfl, hr⟩
        exact ⟨hnul, rfl, hr⟩
      · rintro ⟨-, hr, hq⟩
        cases hr
        exact ⟨rfl, hq⟩

theorem Grows.seat (h : Grows kind d e) {q : Place} (hq : d.seat base = .ok q) :
    e.seat base = .ok q := by
  rw [seat_eq_ok] at hq ⊢
  obtain ⟨hnul, hwalk, hnode⟩ := hq
  exact ⟨hnul, h.here ▸ h.walk hwalk, h.node?_directory hnode⟩

theorem locate_join_of_seat (ha : Usable a) {q : Place} (h : d.seat base = .ok q) :
    d.locate (join base a) = .ok (q ++ [a]) := by
  rw [locate_join ha, h]
  rfl

theorem locate_join_eq_ok (ha : Usable a) {r : Place} :
    d.locate (join base a) = .ok r ↔ ∃ q, d.seat base = .ok q ∧ r = q ++ [a] := by
  rw [locate_join ha]
  rcases d.seat base with fault | q
  · exact iff_of_false nofun nofun
  · refine ⟨fun h => ⟨q, rfl, (Except.ok.inj h).symm⟩, fun ⟨q', hq, hr⟩ => ?_⟩
    cases hq
    rw [hr]
    rfl

/-- The place of a file in a directory of the base ends with the names of both. -/
theorem suffix_of_locate {r : Place} (ha : Usable a) (hf : Usable f)
    (h : d.locate (join (join base a) f) = .ok r) : [a, f] <:+ r := by
  obtain ⟨q, hq, rfl⟩ := (locate_join_eq_ok hf).mp h
  rw [seat_join ha] at hq
  rcases hlocate : d.locate (join base a) with fault | q'
  · rw [hlocate] at hq
    cases hq
  · rw [hlocate] at hq
    obtain ⟨rfl, -⟩ := enter_eq_ok.mp hq
    obtain ⟨p, -, rfl⟩ := (locate_join_eq_ok ha).mp hlocate
    exact ⟨p, by simp⟩

theorem up_join (base : String) (ha : Plain a) (hb : Plain b) :
    up (join base a) = up (join base b) := by
  obtain ⟨dir, hdir⟩ := directory?_join base
  rw [up, up, hdir a ha, hdir b hb]

theorem up_join_join (base : String) (ha : Plain a) (hf : Plain f) :
    up (join (join base a) f) = join base a := by
  rw [up, directory?_join_join base ha hf]
  rfl

/-- While the base is not there, what cannot be made in it under one name cannot be made under
another. -/
theorem makeDirectories_beside (ha : Usable a) (hb : Usable b) (hseat : ∀ q, d.seat base ≠ .ok q)
    {fault : DiskFault} (h : d.makeDirectories (join base a) = (.error fault, d)) :
    ∃ fault', d.makeDirectories (join base b) = (.error fault', d) := by
  rcases hfault : d.seat base with cause | q
  · have hmake : ∀ {c}, Usable c → d.makeDirectory (join base c) = .error cause := by
      intro c hc
      refine makeDirectory_of_locate ?_
      rw [locate_join hc, hfault]
      rfl
    have hno : ∀ {c}, Usable c → ¬ d.isDirectory (join base c) = true := by
      intro c hc hd
      obtain ⟨r, hr, -⟩ := isDirectory_iff.mp hd
      obtain ⟨q, hq, -⟩ := (locate_join_eq_ok hc).mp hr
      exact hseat q hq
    refine makeDirectories_of_error (join_ne_empty base hb.plain) (hmake hb) (hno hb) ?_
    rintro rfl
    rw [makeDirectories_eq (join_ne_empty base ha.plain), hmake ha, up_join base ha.plain hb.plain]
      at h
    simp only at h
    split at h
    · rename_i hup
      cases h
      exact ⟨_, hup⟩
    · rename_i hup
      split at h
      · cases h
      · obtain ⟨-, rfl⟩ := Prod.mk.inj h
        exact ⟨_, hup⟩
  · exact absurd hfault (hseat q)

/-- Where something else is than a directory, none can be made. -/
theorem makeDirectories_of_other {path : String} {q : Place} {n : Node} (hq : d.locate path = .ok q)
    (hn : n ≠ .directory) (hnode : d.node? q = some n) :
    ∃ fault, d.makeDirectories path = (.error fault, d) := by
  refine makeDirectories_of_error (locate_eq_ok.mp hq).1 (makeDirectory_of_node? hq hnode) ?_ nofun
  intro hd
  obtain ⟨q', hq', hnode'⟩ := isDirectory_iff.mp hd
  rw [hq] at hq'
  cases hq'
  rw [hnode] at hnode'
  exact hn (Option.some.inj hnode')

/-- A directory that cannot be made in a base that is there has something else in its place. -/
theorem other_of_makeDirectories (ha : Usable a) {q : Place} (hq : d.seat base = .ok q)
    {fault : DiskFault} (h : d.makeDirectories (join base a) = (.error fault, e)) :
    ∃ n, n ≠ .directory ∧ d.node? (q ++ [a]) = some n := by
  have hlocate := locate_join_of_seat ha hq
  rcases hnode : d.node? (q ++ [a]) with _ | n
  · have hlast : (pieces (join base a)).getLast? ≠ some "." := by
      obtain ⟨init, hinit⟩ := exists_pieces_join base ha.plain
      have hidle := ha.plain.idle
      rw [hinit, List.getLast?_concat, Ne, Option.some.injEq]
      rintro rfl
      cases hidle
    rw [makeDirectories_eq (join_ne_empty base ha.plain), makeDirectory_of_none hlocate hnode hlast]
      at h
    cases h
  · refine ⟨n, ?_, rfl⟩
    rintro rfl
    rw [makeDirectories_of_isDirectory (isDirectory_iff.mpr ⟨_, hlocate, hnode⟩)] at h
    cases h

/-- What cannot be written into a directory cannot be written when the disk has grown elsewhere. -/
theorem writeBytes_of_grows (hf : Usable f) {content : ByteArray} {fault : DiskFault}
    (hd : d.isDirectory base = true) (h : d.writeBytes (join base f) content = .error fault)
    (hgrows : Grows kind d e) (hkind : ∀ q, d.locate (join base f) = .ok q → ¬ kind q) :
    ∃ fault', e.writeBytes (join base f) content = .error fault' := by
  rcases hwrite : e.writeBytes (join base f) content with fault' | e'
  · exact ⟨fault', rfl⟩
  · exfalso
    obtain ⟨q, hq, hnode⟩ := isDirectory_iff.mp hd
    obtain ⟨-, hnul, hwalk⟩ := locate_eq_ok.mp hq
    have hlocate := locate_join_of_seat hf (seat_eq_ok.mpr ⟨hnul, hwalk, hnode⟩)
    obtain ⟨r, hr, hend, executable, hafter, -⟩ := writeBytes_eq_ok.mp hwrite
    rw [hgrows.locate hlocate] at hr
    cases hr
    have hnot : ∀ executable, ¬ (d.node? (q ++ [f]) = none ∧ executable = false ∨
        ∃ old, d.node? (q ++ [f]) = some (.file old executable)) := by
      intro executable hbefore
      rw [writeBytes_eq_ok.mpr ⟨_, hlocate, hend, executable, hbefore, rfl⟩] at h
      cases h
    rcases hbefore : d.node? (q ++ [f]) with _ | _ | ⟨old, x⟩ | u
    · exact hnot false (.inl ⟨hbefore, rfl⟩)
    · simp [hgrows.node?_directory hbefore] at hafter
    · exact hnot x (.inr ⟨old, hbefore⟩)
    · simp [hgrows.node?_of_not_kind (hkind _ hlocate) hbefore] at hafter

/-- Files of one name in directories of different names have different places. -/
theorem not_suffix_of_locate (ha : Usable a) (hf : Usable f) (hab : a ≠ b) {q : Place}
    (h : d.locate (join (join base a) f) = .ok q) : ¬ [b, f] <:+ q := by
  intro hsuffix
  obtain ⟨r, hr⟩ := hsuffix
  obtain ⟨s, rfl⟩ := suffix_of_locate ha hf h
  have hlast := List.append_inj_right' hr rfl
  simp [Ne.symm hab] at hlast

/-- Updating a file leaves its neighbours settled. -/
theorem Settled.beside (ha : Usable a) (hb : Usable b) (hf : Usable f) (hab : a ≠ b)
    (h : Settled d (join (join base a) f) x) :
    Settled (d.update (join (join base b) f) y).2 (join (join base a) f) x := by
  have hgrows : Grows (fun q => [b, f] <:+ q) d (d.update (join (join base b) f) y).2 :=
    grows_update (fun _ _ hq => suffix_of_locate hb hf hq) d y
  cases h with
  | held hread =>
    exact .held (hgrows.readText hread fun q hq => not_suffix_of_locate ha hf hab hq)
  | unplaced hup =>
    rw [up_join_join base ha.plain hf.plain] at hup
    by_cases hseat : ∃ q, d.seat base = .ok q
    · -- something else is where the directory would have to be, and stays there
      obtain ⟨q, hq⟩ := hseat
      obtain ⟨n, hn, hnode⟩ := other_of_makeDirectories ha hq hup
      obtain ⟨n', hn', hnode'⟩ := hgrows.node?_other hn hnode
      have hlocate := locate_join_of_seat ha (hgrows.seat hq)
      obtain ⟨fault', hup'⟩ := makeDirectories_of_other hlocate hn' hnode'
      rw [← up_join_join base ha.plain hf.plain] at hup'
      exact .unplaced hup'
    · -- the base is not there, so the neighbour was not written
      obtain ⟨fault', hbeside⟩ := makeDirectories_beside ha hb (not_exists.mp hseat) hup
      rw [← up_join_join base hb.plain hf.plain] at hbeside
      rw [disk_update_of_error hbeside]
      rw [← up_join_join base ha.plain hf.plain] at hup
      exact .unplaced hup
  | unwritten hup hwrite =>
    rw [up_join_join base ha.plain hf.plain] at hup
    have hd := isDirectory_makeDirectories hup (join_ne_empty base ha.plain)
    obtain ⟨fault', hwrite'⟩ := writeBytes_of_grows hf hd hwrite hgrows fun q hq =>
      not_suffix_of_locate ha hf hab hq
    refine .unwritten ?_ hwrite'
    rw [up_join_join base ha.plain hf.plain]
    exact makeDirectories_of_isDirectory (hgrows.isDirectory hd)

end AppSpec.Disk
