import AppSpec.Watch.Event
import AppSpec.Proofs.ListedPaths
import AppSpec.Proofs.OutputUnseen
import AppSpec.Proofs.TextPieces

/-!
# Discovered and watched files

Discovery takes the files whose names end in the suffix of a dialect (`Discovery.lists_iff`), and a change
counts when the extension of a path names a dialect (`Dialect.ofPath?_eq_some_iff`). The two differ on
names that are a suffix and nothing else. Such files are compiled, but no change of them is seen; on all
others the directory listing and the watch agree (`listed_iff_watched`).
-/

namespace AppSpec

namespace FilePath

/-- The text before and behind the last point of a name. -/
theorem splitLastPoint?_eq_some_iff {name before after : String} :
    splitLastPoint? name = some (before, after) ↔
      name.toList = before.toList ++ '.' :: after.toList ∧ '.' ∉ after.toList := by
  unfold splitLastPoint?
  constructor
  · intro h
    simp only at h
    split at h
    · rename_i hdrop
      obtain ⟨-, hsplit⟩ := Text.dropWhile_ne_eq_cons_iff.mp hdrop
      have hpoint := Text.not_mem_takeWhile_ne '.' name.toList.reverse
      cases h
      refine ⟨?_, ?_⟩
      · simpa using congrArg List.reverse hsplit
      · simpa using hpoint
    · cases h
  · rintro ⟨hname, hafter⟩
    have hreverse : name.toList.reverse = after.toList.reverse ++ '.' :: before.toList.reverse := by
      simp [hname]
    have hlast : '.' ∉ after.toList.reverse := fun hmem => hafter (List.mem_reverse.mp hmem)
    have htake := Text.takeWhile_ne_append hlast before.toList.reverse
    have hdrop : name.toList.reverse.dropWhile (· != '.') = '.' :: before.toList.reverse :=
      Text.dropWhile_ne_eq_cons_iff.mpr ⟨rfl, by rw [hreverse, htake]⟩
    rw [← hreverse] at htake
    simp only [hdrop, htake]
    simp

theorem extension?_eq_some_iff {path name after : String} (hname : fileName? path = some name) :
    extension? path = some after ↔ '.' ∉ after.toList ∧
      ∃ before : String, before ≠ "" ∧ name.toList = before.toList ++ '.' :: after.toList := by
  simp only [extension?, hname, Option.bind_eq_bind, Option.bind_some, Option.bind_eq_some_iff,
    Prod.exists, splitLastPoint?_eq_some_iff, beq_iff_eq]
  constructor
  · rintro ⟨before, after', ⟨hsplit, hafter⟩, h⟩
    split at h
    · cases h
    · rename_i hbefore
      cases h
      exact ⟨hafter, before, hbefore, hsplit⟩
  · rintro ⟨hafter, before, hbefore, hsplit⟩
    exact ⟨before, after, ⟨hsplit, hafter⟩, if_neg hbefore⟩

end FilePath

namespace Dialect

theorem toList_suffix (δ : Dialect) : δ.suffix.toList = '.' :: δ.name.toList := by
  rw [suffix, String.toList_append]
  rfl

theorem point_not_mem_name (δ : Dialect) : '.' ∉ δ.name.toList := by
  cases δ <;> decide

theorem find?_name_eq_some_iff {extension : String} {δ : Dialect} :
    all.find? (fun d => d.name == extension) = some δ ↔ δ.name = extension := by
  constructor
  · intro h
    have hname := List.find?_some h
    exact beq_iff_eq.mp hname
  · rintro rfl
    cases δ <;> decide

/-- No name ends in the suffixes of two dialects. -/
theorem eq_of_suffix {cs : List Char} {δ ε : Dialect} (hδ : δ.suffix.toList <:+ cs)
    (hε : ε.suffix.toList <:+ cs) : δ = ε := by
  have hnested := List.suffix_or_suffix_of_suffix hδ hε
  cases δ <;> cases ε <;> first | rfl | exact absurd hnested (by decide)

/-- The extension of a path names a dialect if the file name ends in its suffix and has more than
that. -/
theorem ofPath?_eq_some_iff {path name : String} {δ : Dialect}
    (hname : FilePath.fileName? path = some name) :
    ofPath? path = some δ ↔ δ.suffix.toList <:+ name.toList ∧ name ≠ δ.suffix := by
  rw [toList_suffix]
  simp only [ofPath?, Option.bind_eq_bind, Option.bind_eq_some_iff, find?_name_eq_some_iff,
    FilePath.extension?_eq_some_iff hname]
  constructor
  · rintro ⟨_, ⟨-, before, hbefore, hsplit⟩, rfl⟩
    refine ⟨⟨before.toList, hsplit.symm⟩, ?_⟩
    rintro rfl
    rw [toList_suffix, List.self_eq_append_left, String.toList_eq_nil_iff] at hsplit
    exact hbefore hsplit
  · rintro ⟨⟨before, hsplit⟩, hne⟩
    refine ⟨_, ⟨δ.point_not_mem_name, String.ofList before, ?_, ?_⟩, rfl⟩
    · intro hempty
      have hnil : before = [] := by rw [← String.toList_ofList (l := before), hempty]; rfl
      rw [hnil, List.nil_append, ← toList_suffix, String.toList_inj] at hsplit
      exact hne hsplit.symm
    · rw [String.toList_ofList, hsplit]

/-- A name that is a suffix and nothing else has no extension. -/
theorem ofPath?_of_bare {path name : String} {δ : Dialect}
    (hname : FilePath.fileName? path = some name) (hbare : name = δ.suffix) :
    ofPath? path = none := by
  rw [Option.eq_none_iff_forall_ne_some]
  intro ε hε
  obtain ⟨hsuffix, hne⟩ := (ofPath?_eq_some_iff hname).mp hε
  rw [hbare] at hsuffix
  exact hne (eq_of_suffix List.suffix_rfl hsuffix ▸ hbare)

end Dialect

/-- A change of a file of the directory is seen if its extension names a dialect. -/
theorem Watch.changed?_iff {dir path name : String}
    (hpath : FilePath.components path = FilePath.components dir ++ [.name name])
    {kind : Watch.EventKind} (hkind : kind.isChange = true) :
    Watch.Event.changed? ⟨kind, [path]⟩ dir = some path ↔ ∃ δ, Dialect.ofPath? path = some δ := by
  have hparent : FilePath.parent? path = some (FilePath.components dir) := by
    simp [FilePath.parent?, hpath]
  rw [← Option.isSome_iff_exists, Option.isSome_iff_ne_none]
  simp [Watch.Event.changed?, hkind, Watch.isWatched, hparent]

namespace Discovery

/-- Discovery lists the file of that name in the directory as one of the dialect. -/
def Lists (d : Disk) (dir name : String) (δ : Dialect) : Prop :=
  ∃ listed, listedAs? dir = some listed ∧ ⟨pathIn listed name, δ⟩ ∈ (run d dir).sources

theorem pathIn_injective {listed name name' : String} (hname : FilePath.Plain name)
    (hname' : FilePath.Plain name') (h : pathIn listed name = pathIn listed name') :
    name = name' := by
  unfold pathIn at h
  split at h
  · exact h
  · have hcomponents := congrArg FilePath.components h
    rw [FilePath.components_join _ hname, FilePath.components_join _ hname'] at hcomponents
    simpa using hcomponents

/-- A file of the directory is listed by the suffix of its name, if the directory can be listed and
read. -/
theorem lists_iff {d : Disk} {dir name : String} {place : Place} {node : Node} {δ : Dialect}
    (hdir : d.find dir = .ok (place, .directory))
    (hnames : ∀ entry ∈ d.children place, FilePath.Plain entry.1)
    (hfile : (name, node) ∈ d.children place) (hnode : isFile node = true) :
    Lists d dir name δ ↔ (listedAs? dir).isSome ∧ d.unreadable.lookup place = none ∧
      δ.suffix.toList <:+ name.toList := by
  rw [Lists, Option.isSome_iff_exists, ← exists_and_right]
  refine exists_congr fun listed => and_congr_right fun hlisted => ?_
  rw [mem_sources_run]
  constructor
  · rintro ⟨listed', place', hlisted', hdir', hread, entry, hentry, hsource⟩
    cases hlisted.symm.trans hlisted'
    cases hdir.symm.trans hdir'
    have hname : entry.1 = name :=
      pathIn_injective (hnames entry hentry) (hnames _ hfile) hsource.path.symm
    exact ⟨hread, hname ▸ hsource.suffix⟩
  · rintro ⟨hread, hsuffix⟩
    exact ⟨listed, place, hlisted, hdir, hread, _, hfile, hnode, hsuffix, rfl⟩

end Discovery

/-- A file of a directory is discovered if and only if its changes are seen, as of the dialect of its
path, except that one whose name is a suffix and nothing else is discovered and never seen. The names in
the directory have to be readable. There are relative directories that cannot be listed; absolute ones
can be, and a listing names the file by one of its paths. -/
theorem listed_iff_watched {d : Disk} {dir path name : String} {place : Place} {node : Node}
    (hdir : d.find dir = .ok (place, .directory))
    (hnames : ∀ entry ∈ d.children place, FilePath.Plain entry.1)
    (hfile : (name, node) ∈ d.children place) (hnode : Discovery.isFile node = true)
    (hpath : FilePath.components path = FilePath.components dir ++ [.name name])
    {kind : Watch.EventKind} (hkind : kind.isChange = true) :
    let watched := Watch.Event.changed? ⟨kind, [path]⟩ dir = some path
    let bare := ∃ δ : Dialect, name = δ.suffix
    ((∃ δ, Discovery.Lists d dir name δ) ↔
        (Discovery.listedAs? dir).isSome ∧ d.unreadable.lookup place = none ∧ (watched ∨ bare)) ∧
      (∀ δ, Discovery.Lists d dir name δ → Dialect.ofPath? path = some δ ∨ name = δ.suffix) ∧
      (bare → ¬ watched ∧ Dialect.ofPath? path = none) ∧
      (FilePath.isAbsolute dir = true → ∃ listed, Discovery.listedAs? dir = some listed ∧
        FilePath.components (Discovery.pathIn listed name) = FilePath.components path) := by
  intro watched bare
  have hfileName : FilePath.fileName? path = some name := by simp [FilePath.fileName?, hpath]
  have hlists := fun δ => Discovery.lists_iff (δ := δ) hdir hnames hfile hnode
  have hdialect := fun δ => Dialect.ofPath?_eq_some_iff (δ := δ) hfileName
  have hwatched : watched ↔ ∃ δ, Dialect.ofPath? path = some δ := Watch.changed?_iff hpath hkind
  have hnone : bare → Dialect.ofPath? path = none := fun ⟨_, hδ⟩ =>
    Dialect.ofPath?_of_bare hfileName hδ
  refine ⟨?_, ?_, ?_, ?_⟩
  · simp only [hlists, exists_and_left]
    refine and_congr_right fun _ => and_congr_right fun _ => ⟨?_, ?_⟩
    · rintro ⟨δ, hδ⟩
      by_cases h : name = δ.suffix
      · exact .inr ⟨δ, h⟩
      · exact .inl (hwatched.mpr ⟨δ, (hdialect δ).mpr ⟨hδ, h⟩⟩)
    · rintro (h | ⟨δ, hδ⟩)
      · obtain ⟨δ, hδ⟩ := hwatched.mp h
        exact ⟨δ, ((hdialect δ).mp hδ).1⟩
      · exact ⟨δ, hδ ▸ List.suffix_rfl⟩
  · intro δ hδ
    by_cases h : name = δ.suffix
    · exact .inr h
    · exact .inl ((hdialect δ).mpr ⟨((hlists δ).mp hδ).2.2, h⟩)
  · intro h
    refine ⟨fun hseen => ?_, hnone h⟩
    obtain ⟨δ, hδ⟩ := hwatched.mp hseen
    rw [hnone h] at hδ
    cases hδ
  · intro h
    obtain ⟨listed, hlisted, hpoint, hcomponents⟩ := Discovery.listedAs?_of_isAbsolute h
    refine ⟨listed, hlisted, ?_⟩
    rw [Discovery.pathIn, if_neg (by simpa using hpoint),
      FilePath.components_join _ (hnames _ hfile), hcomponents, hpath]

/-- A file that is discovered as a flow, and its change is seen. -/
theorem todo_listed_and_watched :
    let d : Disk := { nodes := [(["app"], .directory), (["app", "src"], .directory),
      (["app", "src", "flows"], .directory),
      (["app", "src", "flows", "todo.flow"], .file ⟨#[]⟩ false)] }
    let dir := "/app/src/flows"
    let path := "/app/src/flows/todo.flow"
    d.find dir = .ok (["app", "src", "flows"], .directory) ∧
      (∀ entry ∈ d.children ["app", "src", "flows"], FilePath.Plain entry.1) ∧
      ("todo.flow", Node.file ⟨#[]⟩ false) ∈ d.children ["app", "src", "flows"] ∧
      FilePath.components path = FilePath.components dir ++ [.name "todo.flow"] ∧
      Watch.Event.changed? ⟨.modify, [path]⟩ dir = some path ∧
      (∃ δ, Discovery.Lists d dir "todo.flow" δ) ∧
      ∀ δ, Discovery.Lists d dir "todo.flow" δ → Dialect.ofPath? path = some δ := by
  intro d dir path
  have hdir : d.find dir = .ok (["app", "src", "flows"], .directory) := by decide +kernel
  have hchildren : d.children ["app", "src", "flows"] = [("todo.flow", .file ⟨#[]⟩ false)] :=
    List.mergeSort_of_pairwise (by decide)
  have hnames : ∀ entry ∈ d.children ["app", "src", "flows"], FilePath.Plain entry.1 := by
    rw [hchildren]
    intro entry hentry
    rw [List.mem_singleton.mp hentry]
    exact ⟨by decide, by decide, by decide⟩
  have hfile : ("todo.flow", Node.file ⟨#[]⟩ false) ∈ d.children ["app", "src", "flows"] := by
    rw [hchildren]
    exact List.mem_cons_self
  have hpath : FilePath.components path = FilePath.components dir ++ [.name "todo.flow"] := by
    decide +kernel
  have hwatched : Watch.Event.changed? ⟨.modify, [path]⟩ dir = some path := by decide +kernel
  have hlisted : (Discovery.listedAs? dir).isSome = true := by decide +kernel
  have hkind : Watch.EventKind.modify.isChange = true := rfl
  obtain ⟨hlists, hdialect, -⟩ := listed_iff_watched hdir hnames hfile rfl hpath hkind
  refine ⟨hdir, hnames, hfile, hpath, hwatched, hlists.mpr ⟨hlisted, rfl, .inl hwatched⟩, ?_⟩
  exact fun δ hδ => (hdialect δ hδ).resolve_right (by cases δ <;> decide)

/-- A file whose name is a suffix is discovered as a flow, but its changes are not seen. -/
theorem bare_suffix_listed_and_unwatched :
    let d : Disk := { nodes := [(["app"], .directory), (["app", "src"], .directory),
      (["app", "src", "flows"], .directory),
      (["app", "src", "flows", ".flow"], .file ⟨#[]⟩ false)] }
    let dir := "/app/src/flows"
    let path := "/app/src/flows/.flow"
    (Discovery.run d dir).sources = [⟨path, .flow⟩] ∧
      Watch.Event.changed? ⟨.create, [path]⟩ dir = none ∧
      Watch.Event.changed? ⟨.modify, [path]⟩ dir = none ∧
      Watch.Event.changed? ⟨.remove, [path]⟩ dir = none ∧ Dialect.ofPath? path = none := by
  intro d dir path
  have hlisted : Discovery.listedAs? dir = some dir := by decide +kernel
  have hdir : d.find dir = .ok (["app", "src", "flows"], .directory) := by decide +kernel
  have hchildren : d.children ["app", "src", "flows"] = [(".flow", .file ⟨#[]⟩ false)] :=
    List.mergeSort_of_pairwise (by decide)
  refine ⟨?_, by decide +kernel, by decide +kernel, by decide +kernel, by decide +kernel⟩
  rw [Discovery.run_of_readable hdir hlisted rfl, hchildren]
  decide +kernel

end AppSpec
