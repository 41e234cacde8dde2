import Mathlib.Data.List.Nodup
import Mathlib.Data.List.Sort
import AppSpec.Proofs.Entries
import AppSpec.Proofs.TextPieces
import AppSpec.Proofs.WatchedFiles

/-!
# Discovered files

The specification files of a directory are its files with the suffix of a dialect, each once
(`Discovery.mem_collect_iff`), in the order of the bytes of their names (`Discovery.ascending_collect`). An
ascending list is known by its members, so neither the order in which the system lists the directory nor
that in which the dialects are looked for makes a difference (`Discovery.collect_congr`).
-/

namespace AppSpec

/-! ## What a directory holds -/

namespace Disk

/-- A place is there once, and the names are those a directory can hold. -/
structure Sound (d : Disk) : Prop where
  places : (d.nodes.map Prod.fst).Nodup
  names : ∀ e ∈ d.nodes, ∀ name ∈ e.1, Usable name

/-- The entries of a directory as the system lists them, in no order. -/
def entries (d : Disk) (place : Place) : List (String × Node) :=
  d.nodes.filterMap (child? place)

theorem mem_entries {d : Disk} {place : Place} {entry : String × Node} :
    entry ∈ d.entries place ↔ (place ++ [entry.1], entry.2) ∈ d.nodes := by
  simp only [entries, List.mem_filterMap, child?_eq_some_iff, exists_eq_right]

theorem children_perm (d : Disk) (place : Place) : (d.children place).Perm (d.entries place) :=
  List.mergeSort_perm _ _

namespace Sound

variable {d : Disk} (hd : d.Sound) {place : Place}
include hd

/-- The entries are what the disk has at their places. -/
theorem mem_entries_iff {entry : String × Node} :
    entry ∈ d.entries place ↔ d.node? (place ++ [entry.1]) = some entry.2 := by
  rw [mem_entries, node?_of_ne_nil d (List.concat_ne_nil _ _)]
  exact Entries.mem_iff_lookup _ _ d.nodes hd.places

theorem usable_of_mem_entries {entry : String × Node} (h : entry ∈ d.entries place) :
    Usable entry.1 :=
  hd.names _ (mem_entries.mp h) entry.1 (by simp)

theorem nodup_names : ((d.entries place).map Prod.fst).Nodup := by
  have hplaces := List.pairwise_map.mp hd.places
  refine List.pairwise_map.mpr (hplaces.filterMap _ fun a b hab x hx y hy hxy => hab ?_)
  rw [child?_eq_some_iff.mp hx, child?_eq_some_iff.mp hy, hxy]

end Sound

end Disk

/-! ## The order of the sort -/

theorem transCmp_comap {α β : Type} (f : α → β) (cmp : β → β → Ordering) [h : Std.TransCmp cmp] :
    Std.TransCmp fun a b => cmp (f a) (f b) where
  eq_swap := h.eq_swap
  isLE_trans := h.isLE_trans

namespace FilePath

instance : Std.TransCmp Component.order := by
  unfold Component.order
  infer_instance

instance : Std.TransCmp order :=
  transCmp_comap components (List.compareLex Component.order)

end FilePath

namespace Source

/-- The file name in the path. -/
def name (s : Source) : String :=
  (FilePath.fileName? s.path).getD ""

instance : Std.TransCmp order := by
  have hpath := transCmp_comap path FilePath.order
  unfold order
  infer_instance

variable {s t u : Source}

theorem le_trans (hst : le s t = true) (htu : le t u = true) : le s u = true :=
  Std.TransCmp.isLE_trans hst htu

theorem le_total (s t : Source) : (le s t || le t s) = true := by
  have hswap : order s t = (order t s).swap := Std.OrientedCmp.eq_swap
  rw [le, le, hswap]
  rcases order t s with _ | _ | _ <;> rfl

/-- The order of files is that of their names in the first place. -/
theorem name_le_of_le (h : le s t = true) : s.name ≤ t.name := by
  have hcompare : (compare (FilePath.fileName? s.path) (FilePath.fileName? t.path)).isLE = true :=
    Ordering.isLE_left_of_isLE_then h
  rcases hs : FilePath.fileName? s.path with _ | a
  · rw [name, hs]
    exact String.not_lt.mp (List.not_lt_nil _)
  · rcases ht : FilePath.fileName? t.path with _ | b
    · rw [hs, ht] at hcompare
      cases hcompare
    · rw [hs, ht] at hcompare
      rw [name, name, hs, ht]
      exact (isLE_compareOfLessAndEq String.le_antisymm String.not_le String.le_total).mp hcompare

end Source

namespace Discovery

open Disk (Sound)

/-- The directory holds a file of that name, and the name ends in the suffix of the dialect. -/
def IsSpec (d : Disk) (place : Place) (name : String) (δ : Dialect) : Prop :=
  ∃ node, d.node? (place ++ [name]) = some node ∧ isFile node = true ∧
    δ.suffix.toList <:+ name.toList

/-- The order of the bytes of the file names, each of them once. -/
def Ascending (ss : List Source) : Prop :=
  ss.Pairwise fun s t => Text.bytes s.name < Text.bytes t.name

/-! ## Names and order -/

theorem name_pathIn (listed : String) {name : String} (h : FilePath.Plain name) (δ : Dialect) :
    Source.name ⟨pathIn listed name, δ⟩ = name := by
  have hlast : (FilePath.components (pathIn listed name)).getLast? = some (.name name) := by
    unfold pathIn
    split
    · rw [h.components_eq]
      rfl
    · rw [FilePath.components_join _ h, List.getLast?_concat]
  simp [Source.name, FilePath.fileName?, hlast]

/-- Ascending lists with the same members are the same. -/
theorem Ascending.eq_of_mem_iff {ss ts : List Source} (hs : Ascending ss) (ht : Ascending ts)
    (h : ∀ s, s ∈ ss ↔ s ∈ ts) : ss = ts := by
  have hirrefl : Std.Irrefl fun s t : Source => Text.bytes s.name < Text.bytes t.name :=
    ⟨fun _ => List.lt_irrefl _⟩
  have hantisymm : Std.Antisymm fun s t : Source => Text.bytes s.name < Text.bytes t.name :=
    ⟨fun _ _ hst hts => absurd hts (List.lt_asymm hst)⟩
  exact List.Pairwise.eq_of_mem_iff hs ht h

/-! ## The files that are found -/

theorem IsAt.name_eq {listed : String} {entry : String × Node} {s : Source}
    (h : IsAt listed entry s) (hentry : FilePath.Plain entry.1) : s.name = entry.1 := by
  obtain ⟨path, δ⟩ := s
  rw [show path = pathIn listed entry.1 from h.path]
  exact name_pathIn listed hentry δ

section Found

variable {d : Disk} {listed : String} {place : Place} (hd : d.Sound)
include hd

/-- An entry that is a specification file, by its name. -/
theorem exists_entry_iff {s : Source} :
    (∃ entry ∈ d.entries place, IsAt listed entry s) ↔
      s.path = pathIn listed s.name ∧ IsSpec d place s.name s.dialect := by
  constructor
  · rintro ⟨⟨name, node⟩, hentry, hs⟩
    have hname : s.name = name := hs.name_eq (hd.usable_of_mem_entries hentry).plain
    rw [hname]
    exact ⟨hs.path, node, hd.mem_entries_iff.mp hentry, hs.file, hs.suffix⟩
  · rintro ⟨hpath, node, hnode, hfile, hδ⟩
    exact ⟨(s.name, node), hd.mem_entries_iff.mpr hnode, hfile, hδ, hpath⟩

/-- No two specification files have one name. -/
theorem eq_of_name {s t : Source} (hs : ∃ entry ∈ d.entries place, IsAt listed entry s)
    (ht : ∃ entry ∈ d.entries place, IsAt listed entry t) (h : s.name = t.name) : s = t := by
  obtain ⟨hpath, _, -, -, hδ⟩ := (exists_entry_iff hd).mp hs
  obtain ⟨hpath', _, -, -, hδ'⟩ := (exists_entry_iff hd).mp ht
  rw [← h] at hpath' hδ'
  obtain ⟨path, δ⟩ := s
  obtain ⟨path', δ'⟩ := t
  rw [Source.mk.injEq]
  exact ⟨hpath.trans hpath'.symm, Dialect.eq_of_suffix hδ hδ'⟩

/-- Specification files in order are ascending if each of them is there once. -/
theorem ascending_of_nodup {ss : List Source}
    (hss : ∀ s ∈ ss, ∃ entry ∈ d.entries place, IsAt listed entry s)
    (hle : ss.Pairwise fun s t => s.name ≤ t.name) (hnodup : ss.Nodup) : Ascending ss := by
  refine (hle.and hnodup).imp_of_mem fun hs ht ⟨hle, hne⟩ => Text.bytes_lt_iff.mpr ?_
  by_contra hlt
  exact hne (eq_of_name hd (hss _ hs) (hss _ ht) (String.le_antisymm hle (String.not_lt.mp hlt)))

theorem nodup_scan {listing : List (String × Node)} (hlisting : listing.Perm (d.entries place))
    (δ : Dialect) : (scan listed listing δ).Nodup := by
  have hnames : (scan listed listing δ).map Source.name =
      (listing.filter fun entry =>
        isFile entry.2 && δ.suffix.toList.isSuffixOf entry.1.toList).map Prod.fst := by
    rw [scan, List.map_map]
    refine List.map_congr_left fun entry hentry => ?_
    have hmem := hlisting.mem_iff.mp (List.mem_of_mem_filter hentry)
    exact name_pathIn listed (hd.usable_of_mem_entries hmem).plain δ
  refine List.Nodup.of_map Source.name ?_
  rw [hnames]
  exact ((hlisting.map Prod.fst).nodup_iff.mpr hd.nodup_names).sublist
    (List.filter_sublist.map Prod.fst)

theorem mem_collect_iff {dialects : List Dialect} (hall : ∀ δ, δ ∈ dialects)
    {listing : List (String × Node)} (hlisting : listing.Perm (d.entries place)) {s : Source} :
    s ∈ collect listed dialects listing ↔
      s.path = pathIn listed s.name ∧ IsSpec d place s.name s.dialect := by
  rw [mem_collect, ← exists_entry_iff hd]
  simp only [hall, true_and, hlisting.mem_iff]

theorem ascending_collect {dialects : List Dialect} (hdialects : dialects.Nodup)
    {listing : List (String × Node)} (hlisting : listing.Perm (d.entries place)) :
    Ascending (collect listed dialects listing) := by
  have hfound : ∀ s ∈ collect listed dialects listing,
      ∃ entry ∈ d.entries place, IsAt listed entry s := by
    intro s hs
    obtain ⟨-, entry, hentry, h⟩ := mem_collect.mp hs
    exact ⟨entry, hlisting.mem_iff.mp hentry, h⟩
  refine ascending_of_nodup hd hfound ?_ ?_
  · have hsorted := @List.pairwise_mergeSort Source Source.le (fun _ _ _ => Source.le_trans)
      Source.le_total (dialects.flatMap (scan listed listing))
    exact hsorted.imp Source.name_le_of_le
  · -- one scan finds no name twice, and two scans find different dialects
    rw [collect, (List.mergeSort_perm _ _).nodup_iff, List.nodup_flatMap]
    refine ⟨fun δ _ => nodup_scan hd hlisting δ, hdialects.imp fun hne s hs ht => hne ?_⟩
    exact (mem_scan.mp hs).1.symm.trans (mem_scan.mp ht).1

/-- Neither the order of the listing nor that of the dialects makes a difference, nor anything in the
directory that is no specification file. -/
theorem collect_congr {e : Disk} (he : e.Sound) {place' : Place}
    (h : ∀ name δ, IsSpec e place' name δ ↔ IsSpec d place name δ) {dialects dialects' : List Dialect}
    (hdialects : dialects.Perm Dialect.all) (hdialects' : dialects'.Perm Dialect.all)
    {listing listing' : List (String × Node)} (hlisting : listing.Perm (d.entries place))
    (hlisting' : listing'.Perm (e.entries place')) :
    collect listed dialects' listing' = collect listed dialects listing := by
  have hnodup : ∀ {δs : List Dialect}, δs.Perm Dialect.all → δs.Nodup := fun hδs =>
    hδs.nodup_iff.mpr (by decide)
  have hall : ∀ {δs : List Dialect}, δs.Perm Dialect.all → ∀ δ, δ ∈ δs := fun hδs δ =>
    hδs.mem_iff.mpr (by cases δ <;> decide)
  refine (ascending_collect he (hnodup hdialects') hlisting').eq_of_mem_iff
    (ascending_collect hd (hnodup hdialects) hlisting) fun s => ?_
  rw [mem_collect_iff he (hall hdialects') hlisting', mem_collect_iff hd (hall hdialects) hlisting, h]

end Found

/-- What is found in a directory are its files with the suffix of a dialect and nothing else, each
under a path that leads to it and with that dialect, ascending by the bytes of the names. The same is
found by scanning the directory for one dialect after the other, whatever the order of the dialects and
of the listing, and on any other disk that has the same such files there. All this is so if the
directory can be listed, as it can unless an empty piece follows the points its path begins with, and
if the system tells the names in it; else that is what is told. -/
theorem specs_of_directory {d : Disk} {dir : String} {place : Place} (hd : d.Sound)
    (hdir : d.find dir = .ok (place, .directory)) :
    (listedAs? dir = none ↔ Doubled dir) ∧
      ∀ listed, listedAs? dir = some listed →
        (∀ cause, d.unreadable.lookup place = some cause →
          run d dir = .unreadable (unreadableText listed cause)) ∧
        (d.unreadable.lookup place = none → ∃ ss, run d dir = .found ss ∧
          (∀ s, s ∈ ss ↔ s.path = pathIn listed s.name ∧ IsSpec d place s.name s.dialect) ∧
          (∀ s ∈ ss, ∃ node, isFile node = true ∧ d.find s.path = .ok (place ++ [s.name], node)) ∧
          Ascending ss ∧
          (∀ dialects listing, dialects.Perm Dialect.all → listing.Perm (d.entries place) →
            collect listed dialects listing = ss) ∧
          ∀ (e : Disk) (place' : Place), e.Sound → e.find dir = .ok (place', .directory) →
            e.unreadable.lookup place' = none →
            (∀ name δ, IsSpec e place' name δ ↔ IsSpec d place name δ) → run e dir = .found ss) := by
  have hempty : dir ≠ "" := (Disk.locate_eq_ok.mp (Disk.find_eq_ok.mp hdir).1).1
  have hall : ∀ δ, δ ∈ Dialect.all := fun δ => by cases δ <;> decide
  refine ⟨listedAs?_eq_none_iff hempty, fun listed hlisted =>
    ⟨fun _ hread => run_of_unreadable hdir hlisted hread, fun hread => ?_⟩⟩
  have hchildren := Disk.children_perm d place
  have hmem : ∀ s, s ∈ collect listed Dialect.all (d.children place) ↔
      s.path = pathIn listed s.name ∧ IsSpec d place s.name s.dialect :=
    fun _ => mem_collect_iff hd hall hchildren
  refine ⟨_, run_of_readable hdir hlisted hread, hmem, fun s hs => ?_,
    ascending_collect hd (by decide) hchildren, fun _ _ hdialects hlisting => ?_,
    fun e place' he hdir' hread' h => ?_⟩
  · obtain ⟨hpath, node, hnode, hfile, -⟩ := (hmem s).mp hs
    have hentry : (s.name, node) ∈ d.entries place := hd.mem_entries_iff.mpr hnode
    have hname := hd.usable_of_mem_entries hentry
    exact ⟨node, hfile, hpath ▸ find_pathIn hdir hlisted hname hnode⟩
  · exact collect_congr hd hd (fun _ _ => .rfl) (.refl _) hdialects hchildren hlisting
  · rw [run_of_readable hdir' hlisted hread']
    exact congrArg found
      (collect_congr hd he h (.refl _) (.refl _) hchildren (Disk.children_perm e place'))

/-- A flow and a test are found in the order of their names, and a directory or a file further down is
not. -/
theorem specs_of_small_directory :
    let d : Disk := { nodes := [(["app"], .directory), (["app", "b.testflow"], .file ⟨#[]⟩ false),
      (["app", "a.flow"], .file ⟨#[]⟩ false), (["app", "c.flow"], .directory),
      (["app", "c.flow", "d.flow"], .file ⟨#[]⟩ false), (["app", "e.txt"], .file ⟨#[]⟩ false)] }
    d.Sound ∧ d.find "/app" = .ok (["app"], .directory) ∧ listedAs? "/app" = some "/app" ∧
      run d "/app" = .found [⟨"/app/a.flow", .flow⟩, ⟨"/app/b.testflow", .testflow⟩] := by
  intro d
  have hnames : ∀ e ∈ d.nodes, ∀ name ∈ e.1, ('/' ∉ name.toList ∧ FilePath.isIdle name = false ∧
      name ≠ "..") ∧ '\x00' ∉ name.toList := by
    decide +kernel
  have hd : d.Sound := by
    refine ⟨by decide, fun e he name hname => ?_⟩
    obtain ⟨⟨hslash, hidle, hparent⟩, hnul⟩ := hnames e he name hname
    exact ⟨⟨hslash, hidle, hparent⟩, hnul⟩
  have hdir : d.find "/app" = .ok (["app"], .directory) := by decide +kernel
  have hlisted : listedAs? "/app" = some "/app" := by decide +kernel
  obtain ⟨-, hspecs⟩ := specs_of_directory hd hdir
  obtain ⟨ss, hrun, -, -, -, hcollect, -⟩ := (hspecs "/app" hlisted).2 rfl
  refine ⟨hd, hdir, hlisted, ?_⟩
  rw [hrun, ← hcollect Dialect.all _ (.refl _) (.refl _)]
  have hfound : Dialect.all.flatMap (scan "/app" (d.entries ["app"])) =
      [⟨"/app/a.flow", .flow⟩, ⟨"/app/b.testflow", .testflow⟩] := by
    decide +kernel
  rw [collect, hfound]
  exact congrArg found (List.mergeSort_of_pairwise (by decide +kernel))

end Discovery

end AppSpec
