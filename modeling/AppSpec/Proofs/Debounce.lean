import Mathlib.Data.List.TakeWhile
import AppSpec.Watch.Session

/-!
# The rebuilds of a watch session

Which changes start a rebuild is decided by the messages and the window alone: the first one, then
each that comes at least the window after the last that did (`accepted`). A message starts a rebuild
and leaves the scheduler idle again, or it changes nothing (`handle_changed`), so a session is one
rebuild after another for the accepted changes (`run_eq`), whatever becomes of the rebuilds
(`rebuilds_of_run`).
-/

namespace AppSpec.Watch

/-- A change of a specification file and when it was seen. -/
structure Change where
  path : String
  time : Nat
deriving DecidableEq, Repr

def Message.change? : Message → Option Change
  | .changed path time => some ⟨path, time⟩
  | .observerError _ | .interrupt => none

/-- The changes in front of the first interrupt. -/
def changes (ms : List Message) : List Change :=
  (ms.takeWhile fun m => !Session.isInterrupt m).filterMap Message.change?

/-- The changes that start a rebuild, when the last one before them that did came at `last`. -/
def accepted (window : Nat) : Option Nat → List Change → List Change
  | _, [] => []
  | last, x :: xs =>
    if ∀ t ∈ last, t + window ≤ x.time then x :: accepted window (some x.time) xs
    else accepted window last xs

theorem changes_concat_interrupt (ms rest : List Message) :
    changes (ms ++ .interrupt :: rest) = changes ms := by
  unfold changes
  rw [List.takeWhile_append]
  split
  · rename_i h
    have hall : ms.takeWhile (fun m => !Session.isInterrupt m) = ms :=
      (List.takeWhile_prefix _).eq_of_length h
    rw [List.takeWhile_cons_of_neg (by simp [Session.isInterrupt]), List.append_nil, hall]
  · rfl

theorem changes_insert_observerError (text : String) :
    ∀ us vs : List Message, changes (us ++ .observerError text :: vs) = changes (us ++ vs)
  | [], vs => rfl
  | u :: us, vs => by
    have ih := changes_insert_observerError text us vs
    unfold changes at ih ⊢
    cases u with
    | changed path time => exact congrArg (⟨path, time⟩ :: ·) ih
    | observerError text' => exact ih
    | interrupt => rfl

section Builds

variable {σ : Type} (build : σ → Build × σ)

/-- How so many builds end, one after another, and the state that the last one leaves. -/
def builds : σ → Nat → List Build × σ
  | state, 0 => ([], state)
  | state, n + 1 =>
    let (b, state) := build state
    let (bs, state) := builds state n
    (b :: bs, state)

theorem length_builds : ∀ (n : Nat) (state : σ), (builds build state n).1.length = n
  | 0, _ => rfl
  | n + 1, state => congrArg (· + 1) (length_builds n (build state).2)

end Builds

theorem CycleEnd.isFailed_ofBuild (b : Build) : (ofBuild b).isFailed = decide (b ≠ .succeeded) := by
  cases b <;> rfl

/-- An idle scheduler accepts a change unless the window since the last one is not over. -/
theorem Scheduler.accepts_iff {s : Scheduler} (hidle : s.state = .idle) (hpos : 0 < s.debounce)
    (time : Nat) : s.accepts time = true ↔ ∀ t ∈ s.last, t + s.debounce ≤ time := by
  unfold accepts
  rw [hidle]
  rcases s.last with _ | last
  · simp
  · simp only [beq_self_eq_true, Bool.true_and, Bool.not_eq_true', decide_eq_false_iff_not,
      Option.mem_def, Option.some.injEq, forall_eq']
    omega

namespace Session

variable {σ : Type} (build : σ → Build × σ)

theorem isFailed_statusOf (path : String) (b : Build) :
    (statusOf path (.ofBuild b)).result.isFailed = decide (b ≠ .succeeded) := by
  cases b <;> rfl

/-- A session after one more rebuild, which a change started. -/
def rebuild (s : Session σ) (x : Change) : Session σ :=
  let (b, state) := build s.state
  { scheduler :=
      { s.scheduler with
        last := some x.time
        cycles := s.scheduler.cycles + 1
        failures := s.scheduler.failures + if b ≠ .succeeded then 1 else 0 }
    state := state
    status := s.status ++ [statusOf x.path (.ofBuild b)] }

variable {build} {s : Session σ}

/-- A change starts a rebuild, after which the scheduler is idle again, or it is dropped. -/
theorem handle_changed (hidle : s.scheduler.state = .idle) (hpos : 0 < s.scheduler.debounce)
    (path : String) (time : Nat) : handle build s (.changed path time) =
      if ∀ t ∈ s.scheduler.last, t + s.scheduler.debounce ≤ time then rebuild build s ⟨path, time⟩
      else s := by
  have haccepts := Scheduler.accepts_iff hidle hpos time
  unfold handle Scheduler.offer
  by_cases h : s.scheduler.accepts time = true
  · rw [if_pos (haccepts.mp h)]
    simp only [h, if_true, Scheduler.run, Scheduler.finish, Scheduler.settle,
      CycleEnd.isFailed_ofBuild, decide_eq_true_eq, rebuild, hidle]
  · rw [if_neg (mt haccepts.mpr h)]
    simp only [h, Bool.false_eq_true, if_false]

/-- Messages are handled by one rebuild after another, for each change that is accepted. -/
theorem foldl_handle : ∀ (ms : List Message) {s : Session σ}, s.scheduler.state = .idle →
    0 < s.scheduler.debounce → (∀ m ∈ ms, isInterrupt m = false) → ms.foldl (handle build) s =
      (accepted s.scheduler.debounce s.scheduler.last (ms.filterMap Message.change?)).foldl
        (rebuild build) s
  | [], _, _, _, _ => rfl
  | m :: ms, s, hidle, hpos, hms => by
    have hrest : ∀ m ∈ ms, isInterrupt m = false := fun m hm =>
      hms m (List.mem_cons_of_mem _ hm)
    rw [List.foldl_cons]
    cases m with
    | changed path time =>
      rw [handle_changed hidle hpos]
      simp only [List.filterMap_cons, Message.change?, accepted]
      split
      · exact foldl_handle ms hidle hpos hrest
      · exact foldl_handle ms hidle hpos hrest
    | observerError text => exact foldl_handle ms hidle hpos hrest
    | interrupt => cases hms _ List.mem_cons_self

variable (build)

/-- A session is a rebuild for each accepted change, one after another. -/
theorem run_eq (debounce : Nat) (start : σ) (ms : List Message) (clock : Clock) :
    run build debounce start ms clock =
      (accepted (max debounce (minDebounce clock)) none (changes ms)).foldl (rebuild build)
        ⟨.ofDebounce debounce clock, start, []⟩ := by
  refine foldl_handle _ rfl ?_ fun m hm => ?_
  · have hpos := clock.pos
    simp only [Scheduler.ofDebounce, minDebounce]
    omega
  · simpa using List.mem_takeWhile_imp hm

/-- What rebuilds leave behind: the state of the last build and a line for each build. -/
theorem foldl_rebuild : ∀ (xs : List Change) (s : Session σ),
    let s' := xs.foldl (rebuild build) s
    let bs := builds build s.state xs.length
    s'.state = bs.2 ∧
      s'.status = s.status ++ (xs.zip bs.1).map (fun p => statusOf p.1.path (.ofBuild p.2)) ∧
      s'.scheduler.cycles = s.scheduler.cycles + xs.length ∧
      s'.scheduler.failures = s.scheduler.failures + bs.1.countP (· ≠ .succeeded)
  | [], s => by simp [builds]
  | x :: xs, s => by
    obtain ⟨hstate, hstatus, hcycles, hfailures⟩ := foldl_rebuild xs (rebuild build s x)
    rw [List.foldl_cons]
    refine ⟨hstate, ?_, ?_, ?_⟩
    · rw [hstatus]
      simp [rebuild, builds]
    · rw [hcycles]
      simp only [rebuild, List.length_cons]
      omega
    · rw [hfailures]
      simp only [rebuild, builds, List.length_cons, List.countP_cons, decide_eq_true_eq]
      omega

end Session

/-- A session runs one build for each accepted change and no other, and tells of each in one line,
which is a failure just when the build did not succeed. How builds end, what goes wrong with the
observer and what comes after the first interrupt has no say in which changes are accepted. Whatever
the ticks of the clock, the window is no shorter than a second. -/
theorem rebuilds_of_run {σ : Type} (build : σ → Build × σ) (debounce : Nat) (start : σ)
    (ms : List Message) (clock : Clock) :
    let s := Session.run build debounce start ms clock
    let A := accepted (max debounce (1000 * clock.ticks)) none (changes ms)
    let bs := builds build start A.length
    s.state = bs.2 ∧
      s.status = (A.zip bs.1).map (fun p => Session.statusOf p.1.path (.ofBuild p.2)) ∧
      s.status.map Status.subject = A.map (fun x => Session.subject x.path) ∧
      s.status.map (·.result.isFailed) = bs.1.map (fun b => decide (b ≠ .succeeded)) ∧
      s.scheduler.cycles = A.length ∧
      s.scheduler.failures = bs.1.countP (· ≠ .succeeded) ∧
      (∀ us vs text, ms = us ++ vs →
        Session.run build debounce start (us ++ .observerError text :: vs) clock = s) ∧
      ∀ rest, Session.run build debounce start (ms ++ .interrupt :: rest) clock = s := by
  intro s A bs
  have hlength : bs.1.length = A.length := length_builds build A.length start
  have hchanges : (A.zip bs.1).map Prod.fst = A := List.map_fst_zip hlength.ge
  have hbuilds : (A.zip bs.1).map Prod.snd = bs.1 := List.map_snd_zip hlength.le
  have hs : s = A.foldl (Session.rebuild build) ⟨.ofDebounce debounce clock, start, []⟩ :=
    Session.run_eq build debounce start ms clock
  have hsame : ∀ {ms'}, changes ms' = changes ms →
      Session.run build debounce start ms' clock = s := by
    intro ms' h
    rw [Session.run_eq, h, hs]
    rfl
  obtain ⟨hstate, hstatus, hcycles, hfailures⟩ :=
    Session.foldl_rebuild build A ⟨.ofDebounce debounce clock, start, []⟩
  rw [← hs] at hstate hstatus hcycles hfailures
  rw [List.nil_append] at hstatus
  refine ⟨hstate, hstatus, ?_, ?_, ?_, ?_, ?_, ?_⟩
  · calc s.status.map Status.subject
        = ((A.zip bs.1).map Prod.fst).map fun x => Session.subject x.path := by
          rw [hstatus, List.map_map, List.map_map]
          rfl
      _ = A.map fun x => Session.subject x.path := by rw [hchanges]
  · calc s.status.map (·.result.isFailed)
        = ((A.zip bs.1).map Prod.snd).map fun b => decide (b ≠ .succeeded) := by
          rw [hstatus, List.map_map, List.map_map]
          exact List.map_congr_left fun p _ => Session.isFailed_statusOf p.1.path p.2
      _ = bs.1.map fun b => decide (b ≠ .succeeded) := by rw [hbuilds]
  · simpa [Scheduler.ofDebounce] using hcycles
  · simpa [Scheduler.ofDebounce] using hfailures
  · rintro us vs text rfl
    exact hsame (changes_insert_observerError text us vs)
  · intro rest
    exact hsame (changes_concat_interrupt ms rest)

/-- A change that comes too soon does not move the window, and an earlier time is always too soon. -/
example : accepted 1000 none (changes [.changed "a" 5000, .changed "b" 5600, .observerError "gone",
    .changed "c" 6000, .changed "d" 100, .interrupt, .changed "e" 9000]) =
      [⟨"a", 5000⟩, ⟨"c", 6000⟩] := by
  decide

end AppSpec.Watch
