import AppSpec.Disk.Basic
import AppSpec.Proofs.PathParts

/-!
# Disks that grow

A disk grows by directories where there was nothing, and by files at places of a kind, never where a
directory is (`Disk.Grows`). A path that leads somewhere leads to the same place ever after
(`Grows.walk`), a directory stays one and anything else stays something else, and a file elsewhere
keeps its text (`Grows.readText`).
-/

namespace AppSpec.Disk

theorem lookup_putIn (q r : Place) (n : Node) :
    ∀ l : List (Place × Node), (putIn q n l).lookup r = if r = q then some n else l.lookup r
  | [] => by
    by_cases h : r = q
    · simp [putIn, h]
    · simp [putIn, List.lookup_cons, beq_eq_false_iff_ne.mpr h, h]
  | (s, m) :: l => by
    have ih := lookup_putIn q r n l
    by_cases hs : s = q
    · subst hs
      by_cases h : r = s
      · simp [putIn, h]
      · simp [putIn, List.lookup_cons, beq_eq_false_iff_ne.mpr h, h]
    · by_cases h : r = s
      · subst h
        simp [putIn, hs]
      · simp [putIn, hs, List.lookup_cons, beq_eq_false_iff_ne.mpr h, ih]

theorem node?_of_ne_nil (d : Disk) {q : Place} (hq : q ≠ []) : d.node? q = d.nodes.lookup q := by
  cases q with
  | nil => exact absurd rfl hq
  | cons => rfl

theorem ne_nil_of_node? {d : Disk} {q : Place} (h : d.node? q ≠ some .directory) : q ≠ [] := by
  rintro rfl
  exact h rfl

theorem ne_nil_of_none {d : Disk} {q : Place} (h : d.node? q = none) : q ≠ [] :=
  ne_nil_of_node? (h.trans_ne nofun)

theorem node?_put (d : Disk) {q : Place} (hq : q ≠ []) (n : Node) (r : Place) :
    (d.put q n).node? r = if r = q then some n else d.node? r := by
  by_cases hr : r = []
  · subst hr
    rw [if_neg (Ne.symm hq)]
    rfl
  · rw [node?_of_ne_nil _ hr, node?_of_ne_nil _ hr]
    exact lookup_putIn q r n d.nodes

theorem filterMap_putIn {β : Type} {f : Place × Node → Option β} {q : Place} {n : Node}
    (hn : f (q, n) = none) :
    ∀ {l : List (Place × Node)}, (∀ m, (q, m) ∈ l → f (q, m) = none) →
      (putIn q n l).filterMap f = l.filterMap f
  | [], _ => by simp [putIn, hn]
  | (s, m) :: l, hf => by
    by_cases hs : s = q
    · subst hs
      have hm := hf m List.mem_cons_self
      simp [putIn, hn, hm]
    · have ih := filterMap_putIn (f := f) hn fun m' hm' => hf m' (List.mem_cons_of_mem _ hm')
      simp only [putIn, hs, if_false, List.filterMap_cons, ih]

/-- The disk grows: directories come where nothing was, and files at places of the kind. -/
inductive Grows (kind : Place → Prop) (d : Disk) : Disk → Prop
  | refl : Grows kind d d
  | directory {e : Disk} {q : Place} (h : Grows kind d e) (hq : e.node? q = none) :
    Grows kind d (e.put q .directory)
  | file {e : Disk} {q : Place} {content : ByteArray} {executable : Bool} (h : Grows kind d e)
    (hkind : kind q) (hq : e.node? q ≠ some .directory) :
    Grows kind d (e.put q (.file content executable))

/-! ## Paths -/

theorem enter_eq_ok {d : Disk} {q r : Place} :
    d.enter q = .ok r ↔ q = r ∧ d.node? q = some .directory := by
  unfold enter
  split <;> simp_all

theorem locate_eq_ok {d : Disk} {path : String} {q : Place} : d.locate path = .ok q ↔
    path ≠ "" ∧ '\x00' ∉ path.toList ∧ d.walk d.here (FilePath.components path) = .ok q := by
  unfold locate
  by_cases hempty : path = ""
  · simp [hempty]
  · by_cases hnul : '\x00' ∈ path.toList
    · simp [hempty, hnul]
    · simp [hempty, hnul]

theorem walk_concat (d : Disk) (q : Place) (cs : List FilePath.Component)
    (c : FilePath.Component) : d.walk q (cs ++ [c]) = d.walk q cs >>= fun s => d.step s c := by
  have hone : ∀ s, [c].foldlM d.step s = d.step s c := by simp
  simp only [walk, List.foldlM_append, hone]

theorem walk_concat_eq_ok {d : Disk} {q r : Place} {cs : List FilePath.Component}
    {c : FilePath.Component} :
    d.walk q (cs ++ [c]) = .ok r ↔ ∃ s, d.walk q cs = .ok s ∧ d.step s c = .ok r := by
  rw [walk_concat]
  rcases d.walk q cs with fault | s
  · exact iff_of_false nofun nofun
  · refine ⟨fun h => ⟨s, rfl, h⟩, fun ⟨s', hs, h⟩ => ?_⟩
    cases hs
    exact h

/-- Only from a directory does a path lead on, unless it begins anew. -/
theorem node?_of_step {d : Disk} {q r : Place} {c : FilePath.Component} (hc : c ≠ .root)
    (h : d.step q c = .ok r) : d.node? q = some .directory := by
  have henter : ∀ {s}, d.enter q = .ok s → d.node? q = some .directory :=
    fun hs => (enter_eq_ok.mp hs).2
  rcases hq : d.enter q with fault | s
  · cases c with
    | root => exact absurd rfl hc
    | current | parent | name =>
      simp only [Disk.step, hq] at h
      cases h
  · exact henter hq

theorem find_eq_ok {d : Disk} {path : String} {q : Place} {n : Node} :
    d.find path = .ok (q, n) ↔ d.locate path = .ok q ∧ d.node? q = some n ∧
      (n = .directory ∨ FilePath.endsInDirectory path = false) := by
  unfold find
  rcases d.locate path with fault | r
  · exact iff_of_false nofun nofun
  · simp only [bind, Except.bind]
    refine ⟨fun h => ?_, fun ⟨hr, hn, hend⟩ => ?_⟩
    · split at h
      · cases h
      · rename_i hn
        cases h
        exact ⟨rfl, hn, .inl rfl⟩
      · rename_i hn
        split at h
        · cases h
        · rename_i hend
          cases h
          exact ⟨rfl, hn, .inr (Bool.eq_false_iff.mpr hend)⟩
    · cases hr
      rw [hn]
      cases n with
      | directory => rfl
      | file | utility =>
        rcases hend with hend | hend
        · cases hend
        · simp only [hend]
          rfl

theorem isDirectory_iff {d : Disk} {path : String} : d.isDirectory path = true ↔
    ∃ q, d.locate path = .ok q ∧ d.node? q = some .directory := by
  have hfind : ∀ q, d.find path = .ok (q, .directory) ↔
      d.locate path = .ok q ∧ d.node? q = some .directory := by
    intro q
    rw [find_eq_ok]
    simp
  simp only [← hfind]
  unfold isDirectory
  split
  · rename_i q hq
    exact iff_of_true rfl ⟨q, hq⟩
  · rename_i hno
    exact iff_of_false nofun fun ⟨q, hq⟩ => hno q hq

theorem readText_of_find {d e : Disk} {path : String} (h : e.find path = d.find path) :
    e.readText path = d.readText path := by
  simp only [readText, readBytes, h]

namespace Grows

variable {kind : Place → Prop} {d e : Disk}

theorem trans {d e f : Disk} (h : Grows kind d e) (h' : Grows kind e f) : Grows kind d f := by
  induction h' with
  | refl => exact h
  | directory _ hq ih => exact ih.directory hq
  | file _ hkind hq ih => exact ih.file hkind hq

theorem mono {kind' : Place → Prop} (hkind : ∀ q, kind q → kind' q) (h : Grows kind d e) :
    Grows kind' d e := by
  induction h with
  | refl => exact .refl
  | directory _ hq ih => exact ih.directory hq
  | file _ hq' hq ih => exact ih.file (hkind _ hq') hq

theorem here (h : Grows kind d e) : e.here = d.here := by
  induction h with
  | refl => rfl
  | directory _ _ ih => exact ih
  | file _ _ _ ih => exact ih

theorem unreadable (h : Grows kind d e) : e.unreadable = d.unreadable := by
  induction h with
  | refl => rfl
  | directory _ _ ih => exact ih
  | file _ _ _ ih => exact ih

/-- A directory stays one. -/
theorem node?_directory (h : Grows kind d e) {q : Place} (hq : d.node? q = some .directory) :
    e.node? q = some .directory := by
  induction h with
  | refl => exact hq
  | @directory e r _ hr ih =>
    rw [node?_put e (ne_nil_of_none hr)]
    split
    · rfl
    · exact ih
  | @file e r _ _ _ _ hr ih =>
    have hne : q ≠ r := by
      rintro rfl
      exact hr ih
    rw [node?_put e (ne_nil_of_node? hr), if_neg hne]
    exact ih

/-- What is no directory stays something else. -/
theorem node?_other (h : Grows kind d e) {q : Place} {n : Node} (hn : n ≠ .directory)
    (hq : d.node? q = some n) : ∃ n', n' ≠ .directory ∧ e.node? q = some n' := by
  induction h with
  | refl => exact ⟨n, hn, hq⟩
  | @directory e r _ hr ih =>
    obtain ⟨n', hn', hq'⟩ := ih
    rw [node?_put e (ne_nil_of_none hr), if_neg ?_]
    · exact ⟨n', hn', hq'⟩
    · rintro rfl
      rw [hr] at hq'
      cases hq'
  | @file e r _ _ _ _ hr ih =>
    rw [node?_put e (ne_nil_of_node? hr)]
    split
    · exact ⟨_, by simp, rfl⟩
    · exact ih

/-- At other places nothing that was there changes. -/
theorem node?_of_not_kind (h : Grows kind d e) {q : Place} (hkind : ¬ kind q) {n : Node}
    (hq : d.node? q = some n) : e.node? q = some n := by
  induction h with
  | refl => exact hq
  | @directory e r _ hr ih =>
    rw [node?_put e (ne_nil_of_none hr), if_neg ?_]
    · exact ih
    · rintro rfl
      rw [hr] at ih
      cases ih
  | @file e r _ _ _ hkind' hr ih =>
    have hne : q ≠ r := by
      rintro rfl
      exact hkind hkind'
    rw [node?_put e (ne_nil_of_node? hr), if_neg hne]
    exact ih

/-- What tells neither of directories nor of the files that may come tells the same. -/
theorem filterMap_nodes (h : Grows kind d e) {β : Type} {f : Place × Node → Option β}
    (hdirectory : ∀ q, f (q, .directory) = none) (hkind : ∀ q n, kind q → f (q, n) = none) :
    e.nodes.filterMap f = d.nodes.filterMap f := by
  induction h with
  | refl => rfl
  | @directory e q _ hq ih =>
    refine (filterMap_putIn (hdirectory q) fun m hm => ?_).trans ih
    rw [node?_of_ne_nil e (ne_nil_of_none hq), List.lookup_eq_none_iff] at hq
    simpa using hq (q, m) hm
  | @file e q _ _ _ hq _ ih =>
    exact (filterMap_putIn (hkind q _ hq) fun m _ => hkind q m hq).trans ih

theorem step (h : Grows kind d e) {q r : Place} {c : FilePath.Component}
    (hstep : d.step q c = .ok r) : e.step q c = .ok r := by
  have henter : ∀ {r}, d.enter q = .ok r → e.enter q = .ok r := by
    intro r hr
    rw [enter_eq_ok] at hr ⊢
    exact ⟨hr.1, h.node?_directory hr.2⟩
  have hmap : ∀ f : Place → Place, (d.enter q).map f = .ok r → (e.enter q).map f = .ok r := by
    intro f hf
    rcases hd : d.enter q with fault | s
    · rw [hd] at hf
      cases hf
    · rw [henter hd, ← hf, hd]
  cases c with
  | root => exact hstep
  | current => exact henter hstep
  | parent => exact hmap _ hstep
  | name s => exact hmap _ hstep

/-- A walk that leads somewhere leads there ever after. -/
theorem walk (h : Grows kind d e) {cs : List FilePath.Component} {q r : Place}
    (hwalk : d.walk q cs = .ok r) : e.walk q cs = .ok r := by
  induction cs generalizing q with
  | nil => exact hwalk
  | cons c cs ih =>
    rw [Disk.walk, List.foldlM_cons] at hwalk ⊢
    rcases hd : d.step q c with fault | s
    · rw [hd] at hwalk
      cases hwalk
    · rw [hd] at hwalk
      rw [h.step hd]
      exact ih hwalk

theorem locate (h : Grows kind d e) {path : String} {q : Place} (hq : d.locate path = .ok q) :
    e.locate path = .ok q := by
  rw [locate_eq_ok] at hq ⊢
  obtain ⟨hempty, hnul, hwalk⟩ := hq
  exact ⟨hempty, hnul, h.here ▸ h.walk hwalk⟩

theorem isDirectory (h : Grows kind d e) {path : String} (hd : d.isDirectory path = true) :
    e.isDirectory path = true := by
  rw [isDirectory_iff] at hd ⊢
  obtain ⟨q, hq, hnode⟩ := hd
  exact ⟨q, h.locate hq, h.node?_directory hnode⟩

theorem find (h : Grows kind d e) {path : String} {q : Place} {n : Node}
    (hq : d.find path = .ok (q, n)) (hkind : n = .directory ∨ ¬ kind q) :
    e.find path = .ok (q, n) := by
  rw [find_eq_ok] at hq ⊢
  obtain ⟨hlocate, hnode, hend⟩ := hq
  refine ⟨h.locate hlocate, ?_, hend⟩
  rcases hkind with rfl | hkind
  · exact h.node?_directory hnode
  · exact h.node?_of_not_kind hkind hnode

/-- A file of another kind keeps its text. -/
theorem readText (h : Grows kind d e) {path s : String} (hread : d.readText path = .ok s)
    (hkind : ∀ q, d.locate path = .ok q → ¬ kind q) : e.readText path = .ok s := by
  rcases hfind : d.find path with fault | ⟨q, n⟩
  · simp only [Disk.readText, readBytes, hfind] at hread
    cases hread
  · have hq := hkind q (find_eq_ok.mp hfind).1
    rw [← hread]
    exact readText_of_find ((h.find hfind (.inr hq)).trans hfind.symm)

end Grows

end AppSpec.Disk
