/-
# The handlers of the logger

A call that sets the logger up either succeeds and leaves the handlers that it has
made, and no others, or fails and leaves the logger as it was.  So after calls in a
row, the handlers are those of the last call that succeeded, however many there were
before, and a record is written once to each place.

Key definitions: `SetUpCall`, `SetUpCall.on`, `Logger.afterCalls`, `SetUpCall.Replaces`,
`Logger.sinksOf`.
Key theorems: `run_configure`, `replaces_on`, `afterCalls_of_last`, `afterCalls_handlers`.
-/
import GoComplexity.Log.Logger
import Mathlib.Data.List.MinMax
import Mathlib.Data.List.Nodup
import Mathlib.Order.Nat

namespace GoComplexity

/-! ### The steps of a set-up -/

namespace SetUp

/-- A step that fails ends the set-up with what the steps before it have changed. -/
theorem run_bind {α β : Type} (x : SetUp α) (f : α → SetUp β) (s : Logger × Disk) :
    (x >>= f).run.run s =
      match x.run.run s with
      | (.ok a, after) => (f a).run.run after
      | (.error problem, after) => (.error problem, after) := by
  rw [ExceptT.run_bind, StateT.run_bind]
  rcases x.run.run s with ⟨_ | a, after⟩ <;> rfl

theorem run_openFile (logFile : Value) (l : Logger) (d : Disk) :
    (openFile logFile).run.run (l, d) =
      match openLogFile d logFile with
      | .ok (file, opened) => (.ok file, l, opened)
      | .error problem => (.error problem, l, d) := by
  unfold openFile
  rw [run_bind]
  show (match openLogFile d logFile with
    | .ok (file, opened) => (do set (l, opened); return file : SetUp (Option String))
    | .error problem => throw problem).run.run (l, d) = _
  rcases openLogFile d logFile with problem | ⟨file, opened⟩ <;> rfl

theorem run_forM_change {α : Type} (f : α → Logger → Logger) :
    ∀ (xs : List α) (l : Logger) (d : Disk),
      (xs.forM fun x => change (f x)).run.run (l, d) =
        (.ok (), xs.foldl (fun l x => f x l) l, d)
  | [], _, _ => rfl
  | x :: xs, l, d => run_forM_change f xs (f x l) d

end SetUp

namespace Logger

/-- Handlers that are taken off and closed one by one, from a copy of the list, are all
gone in the end: what is left of the copy is what is still attached. -/
theorem foldl_detach_close : ∀ (old : List Handler) (l : Logger), l.handlers = old →
    old.foldl (fun l h => (l.detach h).close h) l =
      { l with handlers := [], closed := l.closed ++ old }
  | [], ⟨_, closed, level, propagates⟩, h => by
    obtain rfl := h
    rw [List.foldl_nil, List.append_nil]
  | h :: old, l, hl => by
    have hleft : ((l.detach h).close h).handlers = old := by
      show l.handlers.erase h = old
      rw [hl, List.erase_cons_head]
    rw [List.foldl_cons, foldl_detach_close old _ hleft]
    show ({ l with handlers := [], closed := (l.closed ++ [h]) ++ old } : Logger) = _
    rw [List.append_assoc, List.singleton_append]

/-- Handlers that are all different are attached in their order. -/
theorem foldl_attach : ∀ (new : List Handler) (l : Logger), (l.handlers ++ new).Nodup →
    new.foldl attach l = { l with handlers := l.handlers ++ new }
  | [], l, _ => by rw [List.foldl_nil, List.append_nil]
  | h :: new, l, hnodup => by
    have hnew : h ∉ l.handlers := fun hmem =>
      (List.disjoint_of_nodup_append hnodup) hmem List.mem_cons_self
    have hattach : l.attach h = { l with handlers := l.handlers ++ [h] } := if_neg hnew
    have happend : (l.handlers ++ [h]) ++ new = l.handlers ++ h :: new := by
      rw [List.append_assoc, List.singleton_append]
    rw [List.foldl_cons, hattach, foldl_attach new _ (by rwa [happend])]
    show ({ l with handlers := (l.handlers ++ [h]) ++ new } : Logger) = _
    rw [happend]

/-- New handlers are all different. -/
theorem nodup_newHandlers (number : Nat) (file : Option String) :
    (newHandlers number file).Nodup := by
  cases file <;> simp [newHandlers]

/-- A new handler is known to the logger neither as attached nor as closed. -/
theorem notMem_of_mem_newHandlers {l : Logger} {file : Option String} {h : Handler}
    (hnew : h ∈ newHandlers l.nextNumber file) : h ∉ l.handlers ++ l.closed := by
  have hle : l.nextNumber ≤ h.number := by
    simp only [newHandlers, List.mem_cons, List.mem_map] at hnew
    obtain rfl | ⟨path, -, rfl⟩ := hnew
    · exact Nat.le_refl _
    · exact Nat.le_succ _
  intro hknown
  have hlt : h.number + 1 ≤ l.nextNumber :=
    List.le_max_of_le (List.mem_map_of_mem hknown) (Nat.le_refl _)
  omega

end Logger

/-! ### One call -/

open Logger

/-- **What a set-up comes to.** It fails just if the log file cannot be opened, with
the logger and the disk as they were; else it leaves the handlers that it has made. -/
theorem run_configure (l : Logger) (d : Disk) (verbosity : String) (logFile : Value) :
    (configure verbosity logFile).run.run (l, d) =
      match openLogFile d logFile with
      | .ok (file, opened) =>
        (.ok (), ⟨newHandlers l.nextNumber file, l.closed ++ l.handlers,
          some (levelOf verbosity), false⟩, opened)
      | .error problem => (.error problem, l, d) := by
  unfold configure
  rw [SetUp.run_bind, SetUp.run_openFile]
  cases openLogFile d logFile with
  | error problem => rfl
  | ok opening =>
    obtain ⟨file, opened⟩ := opening
    have hold := foldl_detach_close l.handlers l rfl
    have hnew := foldl_attach (newHandlers l.nextNumber file)
      { l with handlers := [], closed := l.closed ++ l.handlers } (nodup_newHandlers _ _)
    dsimp only
    rw [SetUp.run_bind]
    show ((do
      l.handlers.forM fun h => SetUp.change fun l => (l.detach h).close h
      (newHandlers l.nextNumber file).forM fun h => SetUp.change fun l => l.attach h
      SetUp.change fun l => { l with level := some (levelOf verbosity) }
      SetUp.change fun l => { l with propagates := false } : SetUp Unit)).run.run (l, opened) = _
    rw [SetUp.run_bind, SetUp.run_forM_change, hold]
    dsimp only
    rw [SetUp.run_bind, SetUp.run_forM_change, hnew]
    rfl

/-- A log file is opened just if one is asked for, under its path from the root. -/
theorem openLogFile_ok {d opened : Disk} {logFile : Value} {file : Option String}
    (h : openLogFile d logFile = .ok (file, opened)) :
    file.isSome = logFile.truthy ∧
      ∀ path, file = some path → ∃ text, logFile = .text text ∧ path = d.absolutePath text := by
  unfold openLogFile at h
  split at h
  case isTrue hnone =>
    obtain ⟨rfl, -⟩ := Prod.mk.inj (Except.ok.inj h)
    exact ⟨(by simpa using hnone), fun path hpath => nomatch hpath⟩
  case isFalse hasked =>
    split at h
    case h_2 => exact nomatch h
    case h_1 text =>
      dsimp only at h
      split at h
      · exact nomatch h
      · split at h
        · obtain ⟨rfl, -⟩ := Prod.mk.inj (Except.ok.inj h)
          refine ⟨(by simpa using hasked), fun path hpath => ⟨text, rfl, ?_⟩⟩
          exact (Option.some.inj hpath).symm
        · exact nomatch h

/-- A call that sets the logger up, with the disk as it is then. -/
structure SetUpCall where
  disk : Disk
  verbosity : String
  logFile : Value

namespace SetUpCall

/-- What a call comes to, and the logger after it. -/
def on (c : SetUpCall) (l : Logger) : Except Problem Unit × Logger :=
  let (result, after, _) := (configure c.verbosity c.logFile).run.run (l, c.disk)
  (result, after)

/-- Whether the log file of a call can be opened, or none is asked for. -/
def CanOpen (c : SetUpCall) : Prop := ∃ opening, openLogFile c.disk c.logFile = .ok opening

/-- What a call that succeeds makes of a logger. -/
structure Replaces (c : SetUpCall) (before after : Logger) : Prop where
  /-- One handler for the terminal is attached, and one for the log file if there is one. -/
  attached : ∃ file : Option String, file.isSome = c.logFile.truthy ∧
    (∀ path, file = some path →
      ∃ text, c.logFile = .text text ∧ path = c.disk.absolutePath text) ∧
    after.handlers.map Handler.sink = .terminal :: file.toList.map Sink.file
  /-- The call has made them: they are different, and were not known before. -/
  nodup : after.handlers.Nodup
  made : ∀ h ∈ after.handlers, h ∉ before.handlers ∧ h ∉ before.closed
  /-- They are open. -/
  isOpen : ∀ h ∈ after.handlers, h ∉ after.closed
  /-- All handlers from before are detached and closed, and no others are. -/
  detached : ∀ h ∈ before.handlers, h ∉ after.handlers
  closed : after.closed = before.closed ++ before.handlers
  level : after.level = some (levelOf c.verbosity)
  propagates : after.propagates = false

variable {c : SetUpCall} {l : Logger}

theorem on_of_openLogFile {file : Option String} {opened : Disk}
    (h : openLogFile c.disk c.logFile = .ok (file, opened)) :
    c.on l = (.ok (), ⟨newHandlers l.nextNumber file, l.closed ++ l.handlers,
      some (levelOf c.verbosity), false⟩) := by
  rw [on, run_configure, h]

/-- A call that fails leaves the logger as it was. -/
theorem on_of_not_canOpen (h : ¬ c.CanOpen) : ∃ problem, c.on l = (.error problem, l) := by
  cases hopen : openLogFile c.disk c.logFile with
  | ok opening => exact absurd ⟨opening, hopen⟩ h
  | error problem =>
    refine ⟨problem, ?_⟩
    rw [on, run_configure, hopen]

/-- A call that succeeds replaces the handlers. -/
theorem replaces_on (h : c.CanOpen) : c.Replaces l (c.on l).2 := by
  obtain ⟨⟨file, opened⟩, hopen⟩ := h
  obtain ⟨hasked, hpath⟩ := openLogFile_ok hopen
  have hnew {h : Handler} (hh : h ∈ newHandlers l.nextNumber file) :
      h ∉ l.handlers ++ l.closed := notMem_of_mem_newHandlers hh
  rw [on_of_openLogFile hopen]
  exact {
    attached := ⟨file, hasked, hpath, by simp [newHandlers, Function.comp_def]⟩
    nodup := nodup_newHandlers _ _
    made := fun h hh =>
      ⟨fun hmem => hnew hh (List.mem_append_left _ hmem),
        fun hmem => hnew hh (List.mem_append_right _ hmem)⟩
    isOpen := fun h hh hmem => hnew hh (List.mem_append.mpr (List.mem_append.mp hmem).symm)
    detached := fun h hh hmem => hnew hmem (List.mem_append_left _ hh)
    closed := rfl
    level := rfl
    propagates := rfl }

theorem on_eq_ok_iff : (c.on l).1 = .ok () ↔ c.CanOpen := by
  constructor
  · intro hok
    by_contra hopen
    obtain ⟨problem, hfail⟩ := on_of_not_canOpen (l := l) hopen
    rw [hfail] at hok
    exact nomatch hok
  · rintro ⟨⟨file, opened⟩, hopen⟩
    rw [on_of_openLogFile hopen]

end SetUpCall

/-! ### Calls in a row -/

namespace Logger

/-- The logger after calls in a row, of which any may fail. -/
def afterCalls (l : Logger) (cs : List SetUpCall) : Logger := cs.foldl (fun l c => (c.on l).2) l

/-- Where a record is written, if `outer` are the places of the handlers of other programs. -/
def sinksOf (l : Logger) (outer : List Sink) (r : Record) : List Sink :=
  (l.handled [r]).flatMap fun _ =>
    l.handlers.map Handler.sink ++ if l.propagates then outer else []

theorem afterCalls_append (l : Logger) (cs cs' : List SetUpCall) :
    l.afterCalls (cs ++ cs') = (l.afterCalls cs).afterCalls cs' := List.foldl_append

theorem afterCalls_concat (l : Logger) (cs : List SetUpCall) (c : SetUpCall) :
    l.afterCalls (cs ++ [c]) = (c.on (l.afterCalls cs)).2 := afterCalls_append l cs [c]

/-- Calls that all fail leave the logger as it was. -/
theorem afterCalls_of_not_canOpen : ∀ {cs : List SetUpCall} (l : Logger),
    (∀ c ∈ cs, ¬ c.CanOpen) → l.afterCalls cs = l
  | [], _, _ => rfl
  | c :: cs, l, h => by
    obtain ⟨problem, hfail⟩ := SetUpCall.on_of_not_canOpen (l := l) (h c List.mem_cons_self)
    have hcs := afterCalls_of_not_canOpen l fun c' hc' => h c' (List.mem_cons_of_mem c hc')
    show (c.on l).2.afterCalls cs = l
    rw [hfail, hcs]

/-- The handlers after calls in a row are those of the last call that succeeded. -/
theorem afterCalls_of_last (l : Logger) (before : List SetUpCall) {after : List SetUpCall}
    {c : SetUpCall} (hc : c.CanOpen) (hafter : ∀ c' ∈ after, ¬ c'.CanOpen) :
    c.Replaces (l.afterCalls before) (l.afterCalls (before ++ c :: after)) := by
  rw [List.append_cons, afterCalls_append, afterCalls_of_not_canOpen _ hafter, afterCalls_concat]
  exact SetUpCall.replaces_on hc

end Logger

/-- If some of the calls can open their log files, there is a last one that can. -/
theorem exists_last_canOpen (cs : List SetUpCall) (h : ∃ c ∈ cs, c.CanOpen) :
    ∃ before c after, cs = before ++ c :: after ∧ c.CanOpen ∧ ∀ c' ∈ after, ¬ c'.CanOpen := by
  induction cs with
  | nil => simp at h
  | cons x cs ih =>
    by_cases hcs : ∃ c ∈ cs, c.CanOpen
    · obtain ⟨before, c, after, rfl, hc, hafter⟩ := ih hcs
      exact ⟨x :: before, c, after, rfl, hc, hafter⟩
    · have hnone : ∀ c ∈ cs, ¬ c.CanOpen := fun c hc hopen => hcs ⟨c, hc, hopen⟩
      obtain ⟨c, hc, hopen⟩ := h
      obtain rfl | hmem := List.mem_cons.mp hc
      · exact ⟨[], c, cs, rfl, hopen, hnone⟩
      · exact absurd hopen (hnone c hmem)

/-- After a call that succeeds, a record is written once to each place. -/
theorem SetUpCall.Replaces.nodup_sinksOf {c : SetUpCall} {before after : Logger}
    (h : c.Replaces before after) (outer : List Sink) (r : Record) :
    (after.sinksOf outer r).Nodup := by
  obtain ⟨file, -, -, hsinks⟩ := h.attached
  have hplaces : (after.handlers.map Handler.sink ++
      if after.propagates then outer else []).Nodup := by
    rw [hsinks, h.propagates]
    cases file <;> simp
  unfold sinksOf handled
  rw [h.level]
  cases hpass : r.passes (levelOf c.verbosity) <;> simp [hpass, hplaces]

theorem SetUpCall.Replaces.length_handlers_le {c : SetUpCall} {before after : Logger}
    (h : c.Replaces before after) : after.handlers.length ≤ 2 := by
  obtain ⟨file, -, -, hsinks⟩ := h.attached
  have hlength := congrArg List.length hsinks
  rw [List.length_map, List.length_cons, List.length_map] at hlength
  cases file <;> simp_all

/-- **Handlers never pile up.** In a row of calls on any logger, each call succeeds just if
its log file can be opened or none is asked for; one that succeeds replaces all handlers
by those that it makes, and one that fails changes nothing.  So if none succeeds, the
logger is as it was; else its handlers are those of the last call that succeeded, at most
two, and a record is written at most once to each place. -/
theorem afterCalls_handlers (l : Logger) (cs : List SetUpCall) :
    (∀ before c after, cs = before ++ c :: after →
      let current := l.afterCalls before
      let next := l.afterCalls (before ++ [c])
      ((c.on current).1 = .ok () ↔ c.CanOpen) ∧
        ((c.on current).1 = .ok () → c.Replaces current next) ∧
        ∀ problem, (c.on current).1 = .error problem → next = current) ∧
      ((∀ c ∈ cs, ¬ c.CanOpen) → l.afterCalls cs = l) ∧
      ((∃ c ∈ cs, c.CanOpen) →
        (∃ before c after, cs = before ++ c :: after ∧ c.CanOpen ∧ (∀ c' ∈ after, ¬ c'.CanOpen) ∧
          c.Replaces (l.afterCalls before) (l.afterCalls cs)) ∧
        (l.afterCalls cs).handlers.length ≤ 2 ∧
        ∀ outer r, ((l.afterCalls cs).sinksOf outer r).Nodup) := by
  refine ⟨fun before c after _ => ⟨SetUpCall.on_eq_ok_iff, fun hok => ?_, fun problem hfail => ?_⟩,
    afterCalls_of_not_canOpen l, fun hsome => ?_⟩
  · rw [afterCalls_concat]
    exact SetUpCall.replaces_on (SetUpCall.on_eq_ok_iff.mp hok)
  · have hclosed : ¬ c.CanOpen := fun hopen =>
      nomatch hfail.symm.trans (SetUpCall.on_eq_ok_iff.mpr hopen)
    obtain ⟨_, hunchanged⟩ := SetUpCall.on_of_not_canOpen (l := l.afterCalls before) hclosed
    rw [afterCalls_concat, hunchanged]
  · obtain ⟨before, c, after, rfl, hc, hafter⟩ := exists_last_canOpen cs hsome
    have hreplaces := afterCalls_of_last l before hc hafter
    exact ⟨⟨before, c, after, rfl, hc, hafter, hreplaces⟩, hreplaces.length_handlers_le,
      hreplaces.nodup_sinksOf⟩

/-- A quiet call with a log file in the root. -/
def callToRoot : SetUpCall := ⟨{}, "quiet", .text "a.log"⟩

/-- A verbose call with a log file in no directory. -/
def callToNowhere : SetUpCall := ⟨{}, "verbose", .text "no/a.log"⟩

/-- A logger to which one handler is attached twice gets those of the first call, and
keeps them when the second fails. -/
theorem afterCalls_refusedFile :
    callToRoot.CanOpen ∧ ¬ callToNowhere.CanOpen ∧
      let l : Logger := { handlers := [⟨7, .terminal⟩, ⟨7, .terminal⟩] }
      let after := l.afterCalls [callToRoot, callToNowhere]
      after = ⟨[⟨8, .terminal⟩, ⟨9, .file "/a.log"⟩], l.handlers, some .error, false⟩ ∧
        after.handlers.length ≤ 2 ∧ ∀ outer r, (after.sinksOf outer r).Nodup := by
  have hopen : callToRoot.CanOpen := ⟨_, rfl⟩
  have hrefused : openLogFile callToNowhere.disk callToNowhere.logFile =
      .error (.path "/no/a.log" .notFound) := rfl
  have hclosed : ¬ callToNowhere.CanOpen := by
    rintro ⟨opening, h⟩
    rw [hrefused] at h
    exact nomatch h
  exact ⟨hopen, hclosed, rfl,
    ((afterCalls_handlers _ _).2.2 ⟨callToRoot, List.mem_cons_self, hopen⟩).2⟩

end GoComplexity
