import AppSpec.Compilation.Discovery

/-!
# Scans of a directory

A scan keeps the files of a listing whose names end in one suffix (`Discovery.mem_scan`), and the scans
together find each file of a listing that ends in any of theirs (`Discovery.mem_collect`). So a file is
discovered if the listing of the flows directory has it, which takes a directory that can be read
(`Discovery.mem_sources_run`).
-/

namespace AppSpec.Discovery

/-- The specification file is that of the entry in the directory. -/
structure IsAt (listed : String) (entry : String × Node) (s : Source) : Prop where
  file : isFile entry.2 = true
  suffix : s.dialect.suffix.toList <:+ entry.1.toList
  path : s.path = pathIn listed entry.1

section Scans

variable {listed : String} {dialects : List Dialect} {listing : List (String × Node)} {s : Source}

theorem mem_scan {δ : Dialect} : s ∈ scan listed listing δ ↔
    s.dialect = δ ∧ ∃ entry ∈ listing, IsAt listed entry s := by
  obtain ⟨path, ε⟩ := s
  simp only [scan, List.mem_map, List.mem_filter, Bool.and_eq_true, List.isSuffixOf_iff_suffix,
    Source.mk.injEq]
  constructor
  · rintro ⟨entry, ⟨hentry, hfile, hδ⟩, hpath, rfl⟩
    exact ⟨rfl, entry, hentry, hfile, hδ, hpath.symm⟩
  · rintro ⟨rfl, entry, hentry, hfile, hδ, hpath⟩
    exact ⟨entry, ⟨hentry, hfile, hδ⟩, hpath.symm, rfl⟩

theorem mem_collect : s ∈ collect listed dialects listing ↔
    s.dialect ∈ dialects ∧ ∃ entry ∈ listing, IsAt listed entry s := by
  simp only [collect, List.mem_mergeSort, List.mem_flatMap, mem_scan]
  constructor
  · rintro ⟨_, hδ, rfl, h⟩
    exact ⟨hδ, h⟩
  · rintro ⟨hδ, h⟩
    exact ⟨_, hδ, rfl, h⟩

end Scans

section Run

variable {d : Disk} {dir listed : String} {place : Place}

/-- What is found in a directory that is there and can be read. -/
theorem run_of_readable (hdir : d.find dir = .ok (place, .directory))
    (hlisted : listedAs? dir = some listed) (hread : d.unreadable.lookup place = none) :
    run d dir = .found (collect listed Dialect.all (d.children place)) := by
  simp only [run, hdir, hlisted, Disk.list, hread]

theorem run_of_unreadable (hdir : d.find dir = .ok (place, .directory))
    (hlisted : listedAs? dir = some listed) {cause : DiskFault}
    (hread : d.unreadable.lookup place = some cause) :
    run d dir = .unreadable (unreadableText listed cause) := by
  simp only [run, hdir, hlisted, Disk.list, hread]

/-- A discovered file is an entry of the directory, which is there and can be read. -/
theorem mem_sources_run {s : Source} : s ∈ (run d dir).sources ↔
    ∃ listed place, listedAs? dir = some listed ∧ d.find dir = .ok (place, .directory) ∧
      d.unreadable.lookup place = none ∧ ∃ entry ∈ d.children place, IsAt listed entry s := by
  constructor
  · intro h
    unfold run at h
    split at h
    · rename_i place hdir
      split at h
      · cases h
      · rename_i listed hlisted
        split at h
        · cases h
        · rename_i listing hlisting
          unfold Disk.list at hlisting
          split at hlisting
          · cases hlisting
          · rename_i hread
            cases hlisting
            exact ⟨listed, place, hlisted, hdir, hread, (mem_collect.mp h).2⟩
    · cases h
  · rintro ⟨listed, place, hlisted, hdir, hread, h⟩
    rw [run_of_readable hdir hlisted hread]
    exact mem_collect.mpr ⟨by cases s.dialect <;> decide, h⟩

end Run

end AppSpec.Discovery
