import AppSpec.Proofs.ComponentTree
import AppSpec.Proofs.DialectParts
import AppSpec.Proofs.LastDefinition
import AppSpec.Proofs.ModelConflicts

/-!
# The keys of streams

A stream without an id is numbered by how many streams there are. All keys that are made from
numbers are made from smaller ones, so the next key is taken only if someone has written it as an id
(`Numbered.mem_keys_iff`). Nothing keeps an author from that, and then a stream without an id takes
the place of another one (`key_of_unnamed_stream`).
-/

namespace AppSpec

open Value

namespace Document

/-- The streams under the pages of a section, each with its id if it has one. -/
def streamsIn (pages : Mapping) : List (Option String × Mapping) :=
  pages.flatMap fun page =>
    ((Component.all page.2).filter (Component.isNamed "webrtc_stream")).map fun c =>
      let config := Component.config "webrtc_stream" c
      ((config.get? "id").bind scalarText?, config)

/-- The streams that a document defines, in authored order. -/
def streams (d : Document) : List (Option String × Mapping) :=
  match d.dialect with
  | .flow => (d.sectionValues "pages").flatMap fun v => (v.asMap?.map streamsIn).getD []
  | .liveflow | .jobflow | .testflow => []

end Document

namespace Definition

/-- The id and the configuration of a stream. -/
def stream? : Definition → Option (Option String × Mapping)
  | .stream id config => some (id, config)
  | _ => none

theorem stream?_eq_none_of_belongsTo {δ : Dialect} (hδ : δ ≠ .flow) {x : Definition}
    (hx : x.BelongsTo δ) : x.stream? = none := by
  cases x with
  | stream id config => exact absurd hx hδ
  | _ => rfl

/-- Only the entry of the pages defines streams. -/
theorem stream?_ofFlowEntry {key : String} (hkey : key ≠ "pages") (body : Mapping) (v : Value) :
    ∀ x ∈ ofFlowEntry body key v, x.stream? = none := by
  intro x hx
  cases inEntry_ofFlowEntry body key v x hx with
  | stream hpages => exact absurd hpages hkey
  | _ => rfl

theorem filterMap_stream?_streams (v : Value) :
    (streams v).filterMap stream? = (v.asMap?.map Document.streamsIn).getD [] := by
  unfold streams ofMapping
  rcases v.asMap? with _ | pages
  · rfl
  · have hconfigs : (pages.flatMap fun page => Component.configs "webrtc_stream" page.2).map
        (fun config => ((config.get? "id").bind scalarText?, config)) =
          Document.streamsIn pages := by
      simp only [Document.streamsIn, Component.configs, Component.found_eq, List.map_flatMap,
        List.map_map, Function.comp_def]
    rw [Option.map_some, Option.getD_some, ← hconfigs]
    exact filterMap_map_of_some _ fun config => rfl

theorem filterMap_stream?_ofFlow (body : Mapping) : (ofFlow body).filterMap stream? =
    ((body.filter fun e => e.1.asString? == some "pages").map Prod.snd).flatMap fun v =>
      (v.asMap?.map Document.streamsIn).getD [] := by
  refine ofFlow_induction (motive := fun l D => D.filterMap stream? =
    ((l.filter fun e => e.1.asString? == some "pages").map Prod.snd).flatMap fun v =>
      (v.asMap?.map Document.streamsIn).getD []) body rfl ?_ ?_
  · intro e l D hk ih
    rw [ih, List.filter_cons_of_neg (by simp [hk])]
  · intro e key l D hk ih
    rw [List.filterMap_append, ih]
    by_cases hkey : key = "pages"
    · subst hkey
      rw [List.filter_cons_of_pos (by simp [hk]), List.map_cons, List.flatMap_cons]
      congr 1
      exact filterMap_stream?_streams e.2
    · rw [List.filter_cons_of_neg (by simp [hk, hkey]),
        List.filterMap_eq_nil_iff.mpr (stream?_ofFlowEntry hkey body e.2), List.nil_append]

end Definition

/-- A document defines its streams as they come, and no others. -/
theorem Document.filterMap_stream? (d : Document) :
    d.definitions.filterMap Definition.stream? = d.streams := by
  by_cases h : d.dialect = .flow
  · simp only [definitions, streams, sectionValues, h, Definition.filterMap_stream?_ofFlow]
  · rw [List.filterMap_eq_nil_iff.mpr fun x hx =>
      Definition.stream?_eq_none_of_belongsTo h (d.belongsTo_definitions x hx)]
    unfold streams
    split
    · exact absurd ‹_› h
    all_goals rfl

namespace Merge

/-- The key of a stream that is given a number. -/
def numberKey (n : Nat) : String :=
  "webrtc_stream_" ++ toString n

theorem numberKey_injective {n k : Nat} (h : numberKey n = numberKey k) : n = k := by
  have htext : toString n = toString k := (String.append_right_inj _).mp h
  have hdigits : Nat.toDigits 10 n = Nat.toDigits 10 k := by
    rwa [Nat.toString_eq_ofList_toDigits, Nat.toString_eq_ofList_toDigits, String.ofList_inj]
      at htext
  calc
    n = Nat.ofDigitChars 10 (Nat.toDigits 10 n) 0 := Nat.ofDigitChars_ten_toDigits.symm
    _ = Nat.ofDigitChars 10 (Nat.toDigits 10 k) 0 := by rw [hdigits]
    _ = k := Nat.ofDigitChars_ten_toDigits

/-- The streams are those whose ids were met and others with smaller numbers than the next one. -/
structure Numbered (met : List (Option String × Mapping)) (streams : Entries Value) : Prop where
  named : ∀ id, some id ∈ met.map Prod.fst → id ∈ streams.keys
  keys : ∀ key ∈ streams.keys, some key ∈ met.map Prod.fst ∨
    ∃ n < streams.size, key = numberKey n

namespace Numbered

variable {met : List (Option String × Mapping)} {streams : Entries Value}

theorem empty : Numbered [] Entries.empty where
  named := fun _ h => nomatch h
  keys := fun _ h => nomatch h

/-- The next number is taken if and only if it was met as an id. -/
theorem mem_keys_iff (h : Numbered met streams) :
    numberKey streams.size ∈ streams.keys ↔ some (numberKey streams.size) ∈ met.map Prod.fst := by
  refine ⟨fun hmem => (h.keys _ hmem).resolve_right ?_, h.named _⟩
  rintro ⟨n, hn, hkey⟩
  exact absurd (numberKey_injective hkey) (Nat.ne_of_gt hn)

/-- A stream is put under its id, or under the next number. -/
theorem put (h : Numbered met streams) (id : Option String) (config : Mapping) :
    Numbered (met ++ [(id, config)])
      (streams.put (id.getD (numberKey streams.size)) (.map config)) := by
  have hmet : ∀ key : String, some key ∈ (met ++ [(id, config)]).map Prod.fst ↔
      some key ∈ met.map Prod.fst ∨ some key = id := by
    simp
  refine ⟨fun key hkey => ?_, fun key hkey => ?_⟩
  · rw [Entries.mem_keys_put]
    rcases (hmet key).mp hkey with hold | rfl
    · exact .inr (h.named key hold)
    · exact .inl rfl
  · rw [Entries.mem_keys_put] at hkey
    rw [hmet, Entries.size_put]
    by_cases hmem : key ∈ streams.keys
    · exact (h.keys key hmem).imp .inl fun ⟨n, hn, hkey⟩ => ⟨n, Nat.lt_add_right _ hn, hkey⟩
    · obtain rfl := hkey.resolve_right hmem
      rw [if_neg hmem]
      cases id with
      | some id => exact .inl (.inr rfl)
      | none => exact .inr ⟨_, Nat.lt_succ_self _, rfl⟩

end Numbered

/-- A definition that is no stream leaves the streams alone. -/
theorem streams_apply (m : Merge) (file : String) {x : Definition} (hx : x.stream? = none)
    (hspares : x.model? = none → x.SparesModels) :
    (m.apply file x).application.entities .webrtcStreams =
      m.application.entities .webrtcStreams := by
  cases x with
  | entity c key v => exact (about_put (keyed_not_mem c (hspares rfl)).2 m file key v).1
  | model name body => exact (about_placeModel (by decide) m file name body).1
  | stream id config => cases hx
  | integration kind body =>
    simp only [apply, setIntegration]
    split <;> rfl
  | _ => rfl

/-- One definition: a stream is met, or the streams are left alone. -/
theorem numbered_apply {met : List (Option String × Mapping)} {m : Merge}
    (h : Numbered met (m.application.entities .webrtcStreams)) (file : String) {x : Definition}
    (hspares : x.model? = none → x.SparesModels) :
    Numbered (met ++ x.stream?.toList) ((m.apply file x).application.entities .webrtcStreams) := by
  rcases hx : x.stream? with _ | s
  · rw [streams_apply m file hx hspares, Option.toList_none, List.append_nil]
    exact h
  · cases x with
    | stream id config =>
      cases hx
      rw [apply, entities_put, if_pos rfl]
      exact h.put id config
    | _ => cases hx

/-- The definitions of a document, as far as they go. -/
theorem numbered_definitions {met : List (Option String × Mapping)} {m : Merge}
    (h : Numbered met (m.application.entities .webrtcStreams)) {d : Document}
    {xs : List Definition} (hxs : xs ⊆ d.definitions) :
    Numbered (met ++ xs.filterMap Definition.stream?)
      ((xs.foldl (Merge.apply d.path) m).application.entities .webrtcStreams) := by
  rw [List.filterMap_eq_flatMap_toList]
  exact foldl_extends (I := fun met (m : Merge) =>
      Numbered met (m.application.entities .webrtcStreams)) (f := Merge.apply d.path) xs
    (fun x hx _ _ h => numbered_apply h d.path (d.sayModels_definitions.2 x (hxs hx))) h

/-- The documents, one after another. -/
theorem numbered_documents (ds : List Document) :
    Numbered (ds.flatMap Document.streams)
      ((ofDocuments ds).application.entities .webrtcStreams) := by
  have hstart : Numbered [] (Merge.empty.application.entities .webrtcStreams) := Numbered.empty
  refine foldl_extends (I := fun met (m : Merge) =>
    Numbered met (m.application.entities .webrtcStreams)) (f := add) ds
    (fun d _ met m h => ?_) hstart
  rw [← d.filterMap_stream?]
  exact numbered_definitions h (List.Subset.refl _)

end Merge

/-- A stream without an id, wherever it stands in any documents, gets the number of streams that are
there as its key. That key is taken if and only if an earlier stream has it as its id. If it is
free, the stream comes last and nothing is recorded. If it is taken, the stream takes the place of
what is there, and the conflict names its file. The streams of a document are the components of that
name in the trees of its pages, in their order. -/
theorem key_of_unnamed_stream (ds : List Document) {d : Document} {before after : List Definition}
    {config : Mapping} (hsplit : d.definitions = before ++ .stream none config :: after) :
    let m := before.foldl (Merge.apply d.path) (Merge.ofDocuments ds)
    let next := m.apply d.path (.stream none config)
    let streams := m.application.entities .webrtcStreams
    let streams' := next.application.entities .webrtcStreams
    let key := "webrtc_stream_" ++ toString streams.size
    let earlier := ds.flatMap Document.streams ++ before.filterMap Definition.stream?
    Merge.ofDocuments (ds ++ [d]) = after.foldl (Merge.apply d.path) next ∧
      d.streams = before.filterMap Definition.stream? ++
        (none, config) :: after.filterMap Definition.stream? ∧
      (key ∈ streams.keys ↔ some key ∈ earlier.map Prod.fst) ∧
      (key ∉ streams.keys → streams'.toList = streams.toList ++ [(key, .map config)] ∧
        next.conflicts = m.conflicts) ∧
      (key ∈ streams.keys → streams'.keys = streams.keys ∧
        (∀ k, streams'.get? k = if k = key then some (.map config) else streams.get? k) ∧
        next.conflicts = m.conflicts ++ [⟨.webrtcStreams, key, d.path⟩]) := by
  intro m next streams streams' key earlier
  have hbefore : before ⊆ d.definitions := by
    rw [hsplit]
    exact List.subset_append_left _ _
  have h : Merge.Numbered earlier streams :=
    Merge.numbered_definitions (Merge.numbered_documents ds) hbefore
  have hstreams : streams' = streams.put key (.map config) :=
    (Merge.entities_put m d.path .webrtcStreams .webrtcStreams key (.map config)).trans (if_pos rfl)
  have hconflicts : next.conflicts =
      if streams.contains key then m.conflicts ++ [⟨.webrtcStreams, key, d.path⟩]
      else m.conflicts := rfl
  refine ⟨?_, ?_, h.mem_keys_iff, fun hfree => ⟨?_, ?_⟩, fun htaken => ⟨?_, ?_, ?_⟩⟩
  · rw [Merge.ofDocuments, List.foldl_concat, Merge.add, hsplit, List.foldl_append, List.foldl_cons]
    rfl
  · rw [← d.filterMap_stream?, hsplit, List.filterMap_append]
    rfl
  · rw [hstreams]
    exact Entries.putIn_of_not_mem _ hfree
  · rw [hconflicts, if_neg (mt (Entries.contains_iff _ _).mp hfree)]
  · rw [hstreams, Entries.keys_put, if_pos htaken]
  · rw [hstreams]
    exact fun k => Entries.get?_put streams key k (.map config)
  · rw [hconflicts, if_pos ((Entries.contains_iff _ _).mpr htaken)]

/-- The second of two streams, the first of which has an id, gets the number one. -/
theorem key_of_second_stream :
    let main : Mapping := [(.string "id", .string "main"), (.string "video", .bool true)]
    let audio : Mapping := [(.string "audio", .bool true)]
    let call : Value := .list [.map [(.string "webrtc_stream", .map main)],
      .map [(.string "component", .string "panel"),
        (.string "children", .list [.map [(.string "webrtc_stream", .map audio)]])]]
    let live : Document :=
      ⟨.flow, "live", "live.flow", [(.string "pages", .map [(.string "/call", call)])]⟩
    live.definitions = [.stream (some "main") main] ++ .stream none audio :: [] ∧
      let m := Merge.ofDocuments [live]
      (m.application.entities .webrtcStreams).toList =
        [("main", .map main), ("webrtc_stream_1", .map audio)] ∧ m.conflicts = [] := by
  intro main audio call live
  have hsplit : live.definitions = [.stream (some "main") main] ++ .stream none audio :: [] := by
    decide +kernel
  obtain ⟨hrun, -, -, hfree, -⟩ := key_of_unnamed_stream [] hsplit
  obtain ⟨hstreams, hconflicts⟩ := hfree (by decide)
  refine ⟨hsplit, ?_⟩
  intro m
  have hm : m = Merge.apply live.path ([Definition.stream (some "main") main].foldl
      (Merge.apply live.path) (Merge.ofDocuments [])) (.stream none audio) := hrun
  rw [hm]
  exact ⟨hstreams.trans (by decide), hconflicts.trans (by decide)⟩

/-- A stream without an id takes the place of the one whose id is the next number. -/
theorem key_of_stream_after_its_number :
    let first : Mapping := [(.string "id", .string "webrtc_stream_1")]
    let second : Mapping := [(.string "audio", .bool true)]
    let call : Value := .list
      [.map [(.string "webrtc_stream", .map first)], .map [(.string "webrtc_stream", .map second)]]
    let live : Document :=
      ⟨.flow, "live", "live.flow", [(.string "pages", .map [(.string "/call", call)])]⟩
    let m := Merge.apply live.path Merge.empty (.stream (some "webrtc_stream_1") first)
    let streams := m.application.entities .webrtcStreams
    let final := Merge.ofDocuments [live]
    let streams' := final.application.entities .webrtcStreams
    live.definitions = [.stream (some "webrtc_stream_1") first, .stream none second] ∧
      (second.get? "id").bind scalarText? = none ∧
      Merge.streamKey m.application none ∈ streams.keys ∧
      streams'.toList = [("webrtc_stream_1", .map second)] ∧ streams'.size = streams.size ∧
      final.conflicts = [⟨.webrtcStreams, "webrtc_stream_1", "live.flow"⟩] := by
  decide +kernel

end AppSpec
