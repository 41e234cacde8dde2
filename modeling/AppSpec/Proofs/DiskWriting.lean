import AppSpec.Disk.Writing
import AppSpec.Proofs.DiskGrowth

/-!
# Making directories and writing files

A directory that is made is there, with all above it (`isDirectory_makeDirectories`), and one that cannot be
made cannot be made afterwards either, with nothing left to change (`makeDirectories_again`). A file that
was written holds its text (`readText_update`).
-/

namespace AppSpec.Disk

open FilePath

variable {kind : Place → Prop} {d e : Disk} {path dir : String}

/-! ## One directory -/

theorem makeDirectory_of_locate {fault : DiskFault} (h : d.locate path = .error fault) :
    d.makeDirectory path = .error fault := by
  rw [makeDirectory, h]
  rfl

theorem makeDirectory_of_node? {q : Place} {n : Node} (h : d.locate path = .ok q)
    (hn : d.node? q = some n) : d.makeDirectory path = .error .exists := by
  simp only [makeDirectory, h, bind, Except.bind, hn]
  rfl

theorem makeDirectory_of_none {q : Place} (h : d.locate path = .ok q) (hn : d.node? q = none)
    (hlast : (pieces path).getLast? ≠ some ".") :
    d.makeDirectory path = .ok (d.put q .directory) := by
  simp only [makeDirectory, h, bind, Except.bind, hn]
  rfl

theorem makeDirectory_of_isDirectory (h : d.isDirectory path = true) :
    d.makeDirectory path = .error .exists := by
  obtain ⟨q, hq, hn⟩ := isDirectory_iff.mp h
  exact makeDirectory_of_node? hq hn

/-- A directory is made where nothing was. -/
theorem of_makeDirectory (h : d.makeDirectory path = .ok e) :
    ∃ q, d.locate path = .ok q ∧ d.node? q = none ∧ e = d.put q .directory := by
  rcases hq : d.locate path with fault | q
  · rw [makeDirectory_of_locate hq] at h
    cases h
  · rcases hn : d.node? q with _ | n
    · simp only [makeDirectory, hq, bind, Except.bind, hn] at h
      split at h
      · cases h
      · cases h
        exact ⟨q, rfl, hn, rfl⟩
    · rw [makeDirectory_of_node? hq hn] at h
      cases h

theorem grows_makeDirectory (h : d.makeDirectory path = .ok e) : Grows kind d e := by
  obtain ⟨q, -, hn, rfl⟩ := of_makeDirectory h
  exact Grows.refl.directory hn

theorem isDirectory_makeDirectory (h : d.makeDirectory path = .ok e) :
    e.isDirectory path = true := by
  have hgrows : Grows (fun _ => False) d e := grows_makeDirectory h
  obtain ⟨q, hq, hn, rfl⟩ := of_makeDirectory h
  refine isDirectory_iff.mpr ⟨q, hgrows.locate hq, ?_⟩
  rw [node?_put d (ne_nil_of_none hn), if_pos rfl]

theorem settle_eq_ok {fault : DiskFault} :
    d.settle path fault = .ok () ↔ d.isDirectory path = true := by
  unfold settle
  split
  · rename_i h
    exact iff_of_true rfl h
  · rename_i h
    exact iff_of_false nofun h

theorem settle_of_not (h : ¬ d.isDirectory path = true) (fault : DiskFault) :
    d.settle path fault = .error fault :=
  if_neg h

/-! ## All directories above -/

/-- The directory above a path; where there is none, the empty path. -/
def up (path : String) : String :=
  (directory? path).getD ""

theorem components_ne_nil (hpath : path ≠ "") : components path ≠ [] := by
  obtain ⟨lead, rest, hpieces⟩ := List.exists_cons_of_ne_nil (pieces_ne_nil path)
  rw [components_of_pieces hpath hpieces]
  exact List.cons_ne_nil _ _

theorem length_components_directory? (h : directory? path = some dir) (hpath : path ≠ "") :
    (components path).length = (components dir).length + 1 := by
  have hpos := List.length_pos_of_ne_nil (components_ne_nil hpath)
  rw [components_directory? h, List.length_dropLast]
  omega

theorem length_components_up (hpath : path ≠ "") :
    (components (up path)).length < (components path).length := by
  unfold up
  rcases h : directory? path with _ | dir
  · exact List.length_pos_of_ne_nil (components_ne_nil hpath)
  · rw [length_components_directory? h hpath]
    exact Nat.lt_succ_self _

theorem lineage_empty : lineage "" = [] := by
  rw [lineage, components_empty]
  rfl

theorem lineage_eq (hpath : path ≠ "") : lineage path = path :: lineage (up path) := by
  unfold up
  rcases h : directory? path with _ | dir
  · obtain ⟨n, hn⟩ := Nat.exists_eq_succ_of_ne_zero
      (List.length_pos_of_ne_nil (components_ne_nil hpath)).ne'
    rw [lineage, hn, lineageOf, h, Option.getD_none, lineage_empty]
  · rw [lineage, length_components_directory? h hpath, lineageOf, h]
    rfl

/-- Making a directory, said of the directory above it. -/
theorem makeDirectories_eq (hpath : path ≠ "") (d : Disk) : d.makeDirectories path =
    match d.makeDirectory path with
    | .ok d => (.ok (), d)
    | .error .notFound =>
      match d.makeDirectories (up path) with
      | (.error fault, d) => (.error fault, d)
      | (.ok (), d) =>
        match d.makeDirectory path with
        | .ok d => (.ok (), d)
        | .error fault => (d.settle path fault, d)
    | .error fault => (d.settle path fault, d) := by
  simp only [makeDirectories, lineage_eq hpath]
  generalize lineage (up path) = above
  rcases hmade : d.makeDirectory path with fault | d₁
  · cases fault with
    | notFound =>
      rcases habove : d.makeAll above with ⟨fault | _, d₁⟩
      · simp only [makeAll, hmade, habove]
      · rcases hagain : d₁.makeDirectory path with fault | d₂ <;>
          simp only [makeAll, hmade, habove, hagain]
    | _ => simp only [makeAll, hmade]
  · simp only [makeAll, hmade]

theorem makeDirectories_empty (d : Disk) : d.makeDirectories "" = (.ok (), d) := by
  rw [makeDirectories, lineage_empty]
  rfl

theorem makeDirectories_of_isDirectory (h : d.isDirectory path = true) :
    d.makeDirectories path = (.ok (), d) := by
  obtain ⟨q, hq, -⟩ := isDirectory_iff.mp h
  rw [makeDirectories_eq (locate_eq_ok.mp hq).1, makeDirectory_of_isDirectory h]
  simp only [settle_eq_ok.mpr h]

theorem grows_makeAll : ∀ (paths : List String) (d : Disk), Grows kind d (d.makeAll paths).2
  | [], _ => .refl
  | path :: above, d => by
    have ih := grows_makeAll above d
    unfold makeAll
    split
    · rename_i h
      exact grows_makeDirectory h
    · split
      · rename_i h
        rw [h] at ih
        exact ih
      · rename_i h
        rw [h] at ih
        split
        · rename_i h'
          exact ih.trans (grows_makeDirectory h')
        · exact ih
    · exact .refl

theorem grows_makeDirectories (d : Disk) (path : String) :
    Grows kind d (d.makeDirectories path).2 :=
  grows_makeAll _ d

/-- A directory that was made is there. -/
theorem isDirectory_makeDirectories (h : d.makeDirectories path = (.ok (), e)) (hpath : path ≠ "") :
    e.isDirectory path = true := by
  rw [makeDirectories_eq hpath] at h
  have hsettle : ∀ {d : Disk} {fault : DiskFault}, (d.settle path fault, d) = (.ok (), e) →
      e.isDirectory path = true := by
    intro d fault h
    obtain ⟨hok, rfl⟩ := Prod.mk.inj h
    exact settle_eq_ok.mp hok
  split at h
  · rename_i hmade
    cases h
    exact isDirectory_makeDirectory hmade
  · split at h
    · cases h
    · split at h
      · rename_i hmade
        cases h
        exact isDirectory_makeDirectory hmade
      · exact hsettle h
  · exact hsettle h

/-- A path that leads somewhere has its directory above it. -/
theorem isDirectory_of_locate {q : Place} (hup : up path ≠ "") (h : d.locate path = .ok q) :
    d.isDirectory (up path) = true := by
  obtain ⟨-, hnul, hwalk⟩ := locate_eq_ok.mp h
  rcases hdir : directory? path with _ | dir
  · exact absurd (by rw [up, hdir]; rfl) hup
  · have heq : up path = dir := by rw [up, hdir]; rfl
    have hparent := isSome_parent? hdir
    have hcomponents := components_directory? hdir
    rcases List.eq_nil_or_concat' (components path) with hnil | ⟨init, last, hconcat⟩
    · simp [parent?, hnil] at hparent
    · have hlast : last ≠ .root := by
        rintro rfl
        simp [parent?, hconcat] at hparent
      rw [hconcat, List.dropLast_concat] at hcomponents
      rw [hconcat, walk_concat_eq_ok] at hwalk
      obtain ⟨s, hs, hstep⟩ := hwalk
      have hnul' : '\x00' ∉ dir.toList := fun hmem =>
        hnul (mem_of_mem_directory? hdir (by decide) hmem)
      rw [heq] at hup ⊢
      refine isDirectory_iff.mpr ⟨s, ?_, node?_of_step hlast hstep⟩
      exact locate_eq_ok.mpr ⟨hup, hnul', hcomponents ▸ hs⟩

/-- With nothing to make above it, a directory that cannot be made changes nothing. -/
theorem makeDirectories_of_error (hpath : path ≠ "") {fault : DiskFault}
    (hmake : d.makeDirectory path = .error fault) (hno : ¬ d.isDirectory path = true)
    (hup : fault = .notFound → ∃ r, d.makeDirectories (up path) = (r, d)) :
    ∃ fault', d.makeDirectories path = (.error fault', d) := by
  rw [makeDirectories_eq hpath, hmake]
  cases fault with
  | notFound =>
    obtain ⟨r, hr⟩ := hup rfl
    rw [hr]
    rcases r with fault' | _
    · exact ⟨fault', rfl⟩
    · simp only [hmake, settle_of_not hno]
      exact ⟨_, rfl⟩
  | _ => exact ⟨_, Prod.ext (settle_of_not hno _) rfl⟩

theorem makeDirectories_of_ok (h : d.makeDirectories path = (.ok (), e)) :
    e.makeDirectories path = (.ok (), e) := by
  by_cases hpath : path = ""
  · subst hpath
    exact makeDirectories_empty e
  · exact makeDirectories_of_isDirectory (isDirectory_makeDirectories h hpath)

/-- Under a directory that cannot be made there is no place. -/
theorem locate_ne_ok_of_up {fault : DiskFault} (h : d.makeDirectories (up path) = (.error fault, d))
    (q : Place) : d.locate path ≠ .ok q := by
  intro hq
  by_cases hup : up path = ""
  · rw [hup, makeDirectories_empty] at h
    cases h
  · rw [makeDirectories_of_isDirectory (isDirectory_of_locate hup hq)] at h
    cases h

/-- Making a directory again changes nothing, and fails again if it failed. -/
theorem makeDirectories_again {path : String} {d e : Disk} {fault : DiskFault}
    (h : d.makeDirectories path = (.error fault, e)) :
    ∃ fault', e.makeDirectories path = (.error fault', e) := by
  have hpath : path ≠ "" := by
    rintro rfl
    rw [makeDirectories_empty] at h
    cases h
  have hshorter := length_components_up hpath
  have hall := h
  rw [makeDirectories_eq hpath] at h
  have hsettle : ∀ {d : Disk} {fault'}, (d.settle path fault', d) = (.error fault, e) →
      d = e ∧ ¬ e.isDirectory path = true := by
    intro d fault' h
    obtain ⟨hfault, rfl⟩ := Prod.mk.inj h
    refine ⟨rfl, fun hd => ?_⟩
    rw [settle_eq_ok.mpr hd] at hfault
    cases hfault
  split at h
  · cases h
  · split at h
    · -- the directory above could not be made
      rename_i habove
      cases h
      obtain ⟨fault', hagain⟩ := makeDirectories_again habove
      rcases hlocate : e.locate path with fault'' | q
      · refine makeDirectories_of_error hpath (makeDirectory_of_locate hlocate) ?_
          fun _ => ⟨_, hagain⟩
        intro hdirectory
        obtain ⟨q, hq, -⟩ := isDirectory_iff.mp hdirectory
        exact locate_ne_ok_of_up hagain q hq
      · exact absurd hlocate (locate_ne_ok_of_up hagain q)
    · -- the directory itself could not be made below the others
      rename_i habove
      split at h
      · cases h
      · rename_i hmake
        obtain ⟨rfl, hno⟩ := hsettle h
        exact makeDirectories_of_error hpath hmake hno fun _ => ⟨_, makeDirectories_of_ok habove⟩
  · obtain ⟨rfl, -⟩ := hsettle h
    exact ⟨_, hall⟩
termination_by (components path).length

/-! ## Writing -/

theorem toUTF8_of_fromUTF8? {bytes : ByteArray} {s : String} (h : String.fromUTF8? bytes = some s) :
    s.toUTF8 = bytes := by
  unfold String.fromUTF8? at h
  split at h
  · cases h
    rfl
  · cases h

theorem readBytes_of_readText {s : String} (h : d.readText path = .ok s) :
    d.readBytes path = .ok s.toUTF8 := by
  rcases hbytes : d.readBytes path with fault | bytes
  · simp only [readText, hbytes] at h
    cases h
  · simp only [readText, hbytes, bind, Except.bind] at h
    split at h
    · rename_i t ht
      cases h
      rw [toUTF8_of_fromUTF8? ht]
    · cases h

theorem holds_iff {content : String} :
    d.holds path content = true ↔ d.readText path = .ok content := by
  unfold holds
  rcases d.readText path with fault | s
  · exact iff_of_false nofun nofun
  · simp

/-- A file is written where there is one or nothing. -/
theorem writeBytes_eq_ok {content : ByteArray} : d.writeBytes path content = .ok e ↔
    ∃ q, d.locate path = .ok q ∧ endsInDirectory path = false ∧
      ∃ executable, (d.node? q = none ∧ executable = false ∨
          ∃ old, d.node? q = some (.file old executable)) ∧
        e = d.put q (.file content executable) := by
  rcases hq : d.locate path with fault | q
  · simp only [writeBytes, hq]
    exact iff_of_false nofun nofun
  · simp only [writeBytes, hq, bind, Except.bind, Except.ok.injEq, exists_eq_left']
    rcases hend : endsInDirectory path with _ | _ <;>
      rcases hn : d.node? q with _ | _ | _ | _ <;>
      simp [throw, throwThe, MonadExceptOf.throw, pure, Except.pure, eq_comm]

theorem readText_writeBytes {content : String} (h : d.writeBytes path content.toUTF8 = .ok e) :
    e.readText path = .ok content := by
  obtain ⟨q, hq, hend, executable, hn, rfl⟩ := writeBytes_eq_ok.mp h
  have hnode : d.node? q ≠ some .directory := by
    rcases hn with ⟨hn, -⟩ | ⟨old, hn⟩ <;> simp [hn]
  have hgrows : Grows (fun _ => True) d (d.put q (.file content.toUTF8 executable)) :=
    Grows.refl.file trivial hnode
  have hfind : (d.put q (.file content.toUTF8 executable)).find path =
      .ok (q, .file content.toUTF8 executable) := by
    refine find_eq_ok.mpr ⟨hgrows.locate hq, ?_, .inr hend⟩
    rw [node?_put d (ne_nil_of_node? hnode), if_pos rfl]
  have htext : String.fromUTF8? content.toUTF8 = some content := dif_pos content.isValidUTF8
  simp only [readText, readBytes, hfind, bind, Except.bind, pure, Except.pure, htext]

theorem makeParent_eq (d : Disk) (path : String) : d.makeParent path =
    ((d.makeDirectories (up path)).1.mapError (.directory (up path)),
      (d.makeDirectories (up path)).2) := by
  unfold makeParent up
  rcases directory? path with _ | dir
  · rw [Option.getD_none, makeDirectories_empty]
    rfl
  · rfl

/-- How a file is updated: it holds the text already, or the directory above it cannot be made, or the
text cannot be put into it, or it can. -/
inductive Updates (d : Disk) (path content : String) : Except WriteFault Bool → Disk → Prop
  | held (hread : d.readText path = .ok content) : Updates d path content (.ok false) d
  | unplaced {e : Disk} {fault : DiskFault} (hno : d.readText path ≠ .ok content)
    (hup : d.makeDirectories (up path) = (.error fault, e)) :
    Updates d path content (.error (.directory (up path) fault)) e
  | unwritten {e : Disk} {fault : DiskFault} (hno : d.readText path ≠ .ok content)
    (hup : d.makeDirectories (up path) = (.ok (), e))
    (hwrite : e.writeBytes path content.toUTF8 = .error fault) :
    Updates d path content (.error (.file path fault)) e
  | written {d₁ e : Disk} (hno : d.readText path ≠ .ok content)
    (hup : d.makeDirectories (up path) = (.ok (), d₁))
    (hwrite : d₁.writeBytes path content.toUTF8 = .ok e) : Updates d path content (.ok true) e

theorem update_of_held {content : String} (h : d.readText path = .ok content) :
    d.update path content = (.ok false, d) := by
  rw [update, holds_iff.mpr h]
  rfl

theorem updates_update (d : Disk) (path content : String) :
    Updates d path content (d.update path content).1 (d.update path content).2 := by
  by_cases hread : d.readText path = .ok content
  · rw [update_of_held hread]
    exact .held hread
  · have hholds : d.holds path content = false := Bool.eq_false_iff.mpr (holds_iff.not.mpr hread)
    rw [update, hholds]
    simp only [writeText, makeParent_eq]
    rcases hup : d.makeDirectories (up path) with ⟨fault | _, e⟩
    · exact .unplaced hread hup
    · rcases hwrite : e.writeBytes path content.toUTF8 with fault | e'
      · simp only [Except.mapError, hwrite]
        exact .unwritten hread hup hwrite
      · simp only [Except.mapError, hwrite]
        exact .written hread hup hwrite

/-- Where the directory above cannot be made, nothing is done. -/
theorem disk_update_of_error {fault : DiskFault} (h : d.makeDirectories (up path) = (.error fault, d))
    (content : String) : (d.update path content).2 = d := by
  have hupdates := updates_update d path content
  generalize (d.update path content).1 = r, (d.update path content).2 = e at hupdates ⊢
  cases hupdates with
  | held => rfl
  | unplaced _ hup =>
    rw [h] at hup
    exact (Prod.mk.inj hup).2.symm
  | unwritten _ hup | written _ hup =>
    rw [h] at hup
    cases hup

theorem grows_update (hkind : ∀ (e : Disk) (q : Place), e.locate path = .ok q → kind q) (d : Disk)
    (content : String) : Grows kind d (d.update path content).2 := by
  have hmade : ∀ {r d₁}, d.makeDirectories (up path) = (r, d₁) → Grows kind d d₁ := by
    intro r d₁ h
    have hgrows : Grows kind d (d.makeDirectories (up path)).2 := grows_makeDirectories d (up path)
    rwa [h] at hgrows
  have h := updates_update d path content
  generalize (d.update path content).1 = r, (d.update path content).2 = e at h ⊢
  cases h with
  | held => exact .refl
  | unplaced _ hup | unwritten _ hup => exact hmade hup
  | written _ hup hwrite =>
    obtain ⟨q, hq, -, executable, hn, rfl⟩ := writeBytes_eq_ok.mp hwrite
    refine (hmade hup).file (hkind _ q hq) ?_
    rcases hn with ⟨hn, -⟩ | ⟨old, hn⟩
    · simp [hn]
    · simp [hn]

/-- A file that was updated holds the text. -/
theorem readText_update {content : String} {wrote : Bool} (h : d.update path content = (.ok wrote, e)) :
    e.readText path = .ok content := by
  have hupdates := updates_update d path content
  rw [h] at hupdates
  generalize hr : (Except.ok wrote, e).1 = r at hupdates
  cases hupdates with
  | held hread => exact hread
  | unplaced | unwritten => cases hr
  | written _ _ hwrite => exact readText_writeBytes hwrite

/-- There is nothing left to do to update a file. -/
inductive Settled (d : Disk) (path content : String) : Prop
  | held (hread : d.readText path = .ok content)
  | unplaced {fault : DiskFault} (hup : d.makeDirectories (up path) = (.error fault, d))
  | unwritten {fault : DiskFault} (hup : d.makeDirectories (up path) = (.ok (), d))
    (hwrite : d.writeBytes path content.toUTF8 = .error fault)

theorem update_of_settled {content : String} (h : Settled d path content) :
    (d.update path content).2 = d := by
  cases h with
  | held hread => rw [update_of_held hread]
  | unplaced hup => exact disk_update_of_error hup content
  | unwritten hup hwrite =>
    have hupdates := updates_update d path content
    generalize (d.update path content).1 = r, (d.update path content).2 = e at hupdates ⊢
    cases hupdates with
    | held => rfl
    | unplaced _ hup' =>
      rw [hup] at hup'
      cases hup'
    | unwritten _ hup' =>
      rw [hup] at hup'
      exact (Prod.mk.inj hup').2.symm
    | written _ hup' hwrite' =>
      rw [hup] at hup'
      cases hup'
      rw [hwrite] at hwrite'
      cases hwrite'

/-- After an update there is nothing left to do. -/
theorem settled_update (d : Disk) (path content : String) :
    Settled (d.update path content).2 path content := by
  have h := updates_update d path content
  generalize (d.update path content).1 = r, (d.update path content).2 = e at h ⊢
  cases h with
  | held hread => exact .held hread
  | unplaced _ hup =>
    obtain ⟨fault, hagain⟩ := makeDirectories_again hup
    exact .unplaced hagain
  | unwritten _ hup hwrite => exact .unwritten (makeDirectories_of_ok hup) hwrite
  | written _ _ hwrite => exact .held (readText_writeBytes hwrite)

end AppSpec.Disk
