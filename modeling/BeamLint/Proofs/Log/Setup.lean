import BeamLint.Log.Setup
import Mathlib

/-!
# A log that is set up again and again

A log is used by calls, each of which sets it up or writes an event. Between calls it is in one of
two conditions: its only sink is the one that it remembers, at the level that was accepted last
(`Installed`), or the sink that it remembers is gone and there is no other (`Gone`). A level that
does not exist leads from the first to the second, and nothing leads back (`Follows.call`). So what
the log does is told by the calls and their answers (`obeys_run`), whatever keeps its sinks.
-/

namespace BeamLint

namespace LogLevel

theorem ofName?_name (level : LogLevel) : ofName? level.name = some level := by
  cases level <;> rfl

theorem ofName?_eq_some_iff {name : String} {level : LogLevel} :
    ofName? name = some level ↔ name = level.name := by
  refine ⟨fun h => ?_, fun h => h ▸ ofName?_name level⟩
  simpa [eq_comm] using List.find?_some h

end LogLevel

/-- Sinks in a list are as they should be. -/
instance : LawfulSinkStore SinkTable where
  add_known s name level h := by
    have e : s.add name = (⟨s.sinks ++ [⟨s.next, level⟩], s.next + 1⟩, .ok s.next) := by
      rw [SinkTable.add, h]
    exact ⟨s.next, congrArg Prod.snd e, congrArg (·.1.sinks) e⟩
  add_unknown s name h := by
    have e : s.add name = (⟨s.sinks, s.next + 1⟩, .error (.unknownLevel name)) := by
      rw [SinkTable.add, h]
    exact ⟨congrArg Prod.snd e, congrArg (·.1.sinks) e⟩
  remove_installed s number h := by
    have h : ∃ sink ∈ s.sinks, sink.number = number := h
    have e : s.remove number =
        ({ s with sinks := s.sinks.filter fun sink => sink.number ≠ number }, .ok ()) :=
      if_pos (by simpa using h)
    exact ⟨congrArg Prod.snd e, congrArg (·.1.sinks) e⟩
  remove_missing s number h := by
    have h : ∀ sink ∈ s.sinks, sink.number ≠ number := h
    have e : s.remove number = (s, .error (.noSink number)) := if_neg (by simpa using h)
    exact ⟨congrArg Prod.snd e, congrArg (·.1.sinks) e⟩
  installed_removeAll _ := rfl
  write_eq _ _ := rfl

/-! ### Calls -/

/-- A call on a log. An event has a level that exists; a level to set up is given by a name, which
need not be that of one. -/
inductive LogCall where
  | configure (levelName : String) (force : Bool)
  | log (e : LogEvent)
  deriving Repr, DecidableEq

/-- What a call answers. -/
inductive LogAnswer where
  | done
  | written (lines : List String)
  | refused (e : LogError)
  deriving Repr, DecidableEq

/-- Calls with their answers, in the order of the calls. -/
abbrev LogHistory := List (LogCall × LogAnswer)

/-- The level that a set-up asks for, if it exists. -/
def requestedLevel? (levelName : String) : Option LogLevel :=
  LogLevel.ofName? (Text.upperString levelName)

theorem requestedLevel?_eq_some_iff {name : String} {level : LogLevel} :
    requestedLevel? name = some level ↔ Text.upperString name = level.name :=
  LogLevel.ofName?_eq_some_iff

/-- The call asks for a level that does not exist. -/
def LogCall.NamesNoLevel : LogCall → Prop
  | .configure levelName _ => requestedLevel? levelName = none
  | .log _ => False

/-- The call was refused. -/
def LogAnswer.IsRefusal : LogAnswer → Prop
  | .refused _ => True
  | _ => False

namespace LogHistory

variable {history : LogHistory} {p : LogCall × LogAnswer}

/-- Some call was refused. -/
def HasRefusal (history : LogHistory) : Prop := ∃ p ∈ history, p.2.IsRefusal

/-- Some call asked for a level that does not exist. -/
def NamesNoLevel (history : LogHistory) : Prop := ∃ p ∈ history, p.1.NamesNoLevel

@[simp] theorem not_hasRefusal_nil : ¬ HasRefusal [] := by simp [HasRefusal]

@[simp] theorem not_namesNoLevel_nil : ¬ NamesNoLevel [] := by simp [NamesNoLevel]

theorem hasRefusal_concat : HasRefusal (history ++ [p]) ↔ HasRefusal history ∨ p.2.IsRefusal := by
  simp [HasRefusal, or_and_right, exists_or]

theorem namesNoLevel_concat :
    NamesNoLevel (history ++ [p]) ↔ NamesNoLevel history ∨ p.1.NamesNoLevel := by
  simp [NamesNoLevel, or_and_right, exists_or]

end LogHistory

/-- The level after a call, given the one before it: a set-up that is not refused sets its level. -/
def levelAfter (level : LogLevel) : LogCall × LogAnswer → LogLevel
  | (.configure levelName _, .done) => (requestedLevel? levelName).getD level
  | _ => level

/-- The level of the last set-up that was not refused; a log starts out set up for errors. -/
def acceptedLevel (history : LogHistory) : LogLevel := history.foldl levelAfter .error

theorem acceptedLevel_concat (history : LogHistory) (p : LogCall × LogAnswer) :
    acceptedLevel (history ++ [p]) = levelAfter (acceptedLevel history) p := by
  simp [acceptedLevel]

namespace LogState

open LogHistory

variable {σ : Type} {s : LogState σ} {level : LogLevel} {name : String} {force : Bool}

/-- A set-up that asks for another level, or is forced, has something to do. -/
theorem not_same (hs : s.level = some level.name)
    (hset : ¬ (force = false ∧ requestedLevel? name = some level)) :
    ¬ (force = false ∧ s.level = some (Text.upperString name)) := by
  rwa [hs, Option.some.injEq, eq_comm (a := level.name), ← requestedLevel?_eq_some_iff]

variable [SinkStore σ]

/-- One call: its answer, and the log after it. -/
def call (s : LogState σ) : LogCall → LogAnswer × LogState σ
  | .configure levelName force =>
    match s.configure levelName force with
    | (s', .ok ()) => (.done, s')
    | (s', .error e) => (.refused e, s')
  | .log e =>
    match s.log e.level.name e.origin e.message with
    | .ok lines => (.written lines, s.ready)
    | .error error => (.refused error, s.ready)

/-- All calls with their answers, and the log after them. -/
def run (s : LogState σ) : List LogCall → LogHistory × LogState σ
  | [] => ([], s)
  | c :: calls =>
    let (answer, s') := s.call c
    let (history, s'') := s'.run calls
    ((c, answer) :: history, s'')

/-! ### What a set-up can do -/

/-- What is set already is not touched. -/
theorem configure_same (hs : s.level = some (Text.upperString name)) :
    s.configure name false = (s, .ok ()) := by
  simp [configure, hs]

theorem configure_of_release_error {e : LogError}
    (hset : ¬ (force = false ∧ s.level = some (Text.upperString name)))
    (hr : s.release.2 = .error e) :
    s.configure name force = ({ s with sinks := s.release.1 }, .error e) := by
  rw [configure, if_neg (by simpa using hset)]
  split <;> simp_all

theorem configure_of_add_error {e : LogError}
    (hset : ¬ (force = false ∧ s.level = some (Text.upperString name)))
    (hr : s.release.2 = .ok ())
    (ha : (SinkStore.add s.release.1 (Text.upperString name)).2 = .error e) :
    s.configure name force =
      ({ s with sinks := (SinkStore.add s.release.1 (Text.upperString name)).1 }, .error e) := by
  rw [configure, if_neg (by simpa using hset)]
  split
  · simp_all
  · split <;> simp_all

theorem configure_of_add_ok {number : Nat}
    (hset : ¬ (force = false ∧ s.level = some (Text.upperString name)))
    (hr : s.release.2 = .ok ())
    (ha : (SinkStore.add s.release.1 (Text.upperString name)).2 = .ok number) :
    s.configure name force =
      (⟨(SinkStore.add s.release.1 (Text.upperString name)).1, some (Text.upperString name),
        some number⟩, .ok ()) := by
  rw [configure, if_neg (by simpa using hset)]
  split
  · simp_all
  · split <;> simp_all

theorem call_of_configure_ok {s' : LogState σ} (h : s.configure name force = (s', .ok ())) :
    s.call (.configure name force) = (.done, s') := by
  rw [call, h]

theorem call_of_configure_error {s' : LogState σ} {e : LogError}
    (h : s.configure name force = (s', .error e)) :
    s.call (.configure name force) = (.refused e, s') := by
  rw [call, h]

theorem call_same (hs : s.level = some level.name) (hn : requestedLevel? name = some level) :
    s.call (.configure name false) = (.done, s) := by
  have hname := requestedLevel?_eq_some_iff.1 hn
  exact call_of_configure_ok (configure_same (hs.trans (congrArg some hname.symm)))

theorem ready_eq_self (hs : s.level = some level.name) : s.ready = s := by
  simp [ready, hs]

/-! ### The two conditions -/

/-- The only sink is the one of the last set-up, which was for `level`. -/
structure Installed (s : LogState σ) (level : LogLevel) : Prop where
  level_eq : s.level = some level.name
  sink : ∃ number, s.last = some number ∧ SinkStore.installed s.sinks = [⟨number, level⟩]

/-- The sink of the last set-up, which was for `level`, is gone, and there is no other. -/
structure Gone (s : LogState σ) (level : LogLevel) : Prop where
  level_eq : s.level = some level.name
  number : s.last.isSome
  none_installed : SinkStore.installed s.sinks = []

section

variable [LawfulSinkStore σ]

theorem Installed.release (h : s.Installed level) :
    s.release.2 = .ok () ∧ SinkStore.installed s.release.1 = [] := by
  obtain ⟨number, hlast, hsinks⟩ := h.sink
  rw [LogState.release, hlast]
  obtain ⟨hok, hrest⟩ :=
    LawfulSinkStore.remove_installed s.sinks number (by simp [hsinks])
  exact ⟨hok, by simp [hrest, hsinks]⟩

theorem Gone.release (h : s.Gone level) :
    (∃ e, s.release.2 = .error e) ∧ SinkStore.installed s.release.1 = [] := by
  obtain ⟨number, hlast⟩ := Option.isSome_iff_exists.1 h.number
  rw [LogState.release, hlast]
  obtain ⟨herror, hrest⟩ :=
    LawfulSinkStore.remove_missing s.sinks number (by simp [h.none_installed])
  exact ⟨⟨_, herror⟩, by rw [hrest, h.none_installed]⟩

/-- With no sink left, one is installed if its level exists. -/
theorem exists_configure_eq_ok (hset : ¬ (force = false ∧ s.level = some (Text.upperString name)))
    (hok : s.release.2 = .ok ()) (hnone : SinkStore.installed s.release.1 = [])
    (hn : requestedLevel? name = some level) :
    ∃ s', s.configure name force = (s', .ok ()) ∧ s'.Installed level := by
  obtain ⟨number, hadd, hsinks⟩ := LawfulSinkStore.add_known s.release.1 hn
  refine ⟨_, configure_of_add_ok hset hok hadd,
    congrArg some (requestedLevel?_eq_some_iff.1 hn), number, rfl, ?_⟩
  rw [hsinks, hnone]
  rfl

theorem quiet_installed (sinks : σ) : (quiet sinks).Installed .error := by
  let fresh : LogState σ := { sinks }
  have hfresh : fresh.release = (SinkStore.removeAll sinks, .ok ()) := rfl
  have hset : ¬ (false = false ∧ fresh.level = some (Text.upperString "ERROR")) := by simp [fresh]
  have hn : requestedLevel? "ERROR" = some .error := by decide +kernel
  obtain ⟨s', he, h⟩ := exists_configure_eq_ok hset (congrArg Prod.snd hfresh)
    (by rw [hfresh, LawfulSinkStore.installed_removeAll]) hn
  have hquiet : quiet sinks = s' := congrArg Prod.fst he
  exact hquiet ▸ h

/-! ### Single calls -/

/-- A level that exists is accepted. -/
theorem Installed.call_known {level' : LogLevel} (h : s.Installed level) (force : Bool)
    (hn : requestedLevel? name = some level') :
    ∃ s', s.call (.configure name force) = (.done, s') ∧ s'.Installed level' := by
  by_cases hset : force = false ∧ requestedLevel? name = some level
  · obtain ⟨rfl, hs⟩ := hset
    obtain rfl : level = level' := Option.some.inj (hs.symm.trans hn)
    exact ⟨s, call_same h.level_eq hn, h⟩
  · obtain ⟨s', he, hs'⟩ :=
      exists_configure_eq_ok (not_same h.level_eq hset) h.release.1 h.release.2 hn
    exact ⟨s', call_of_configure_ok he, hs'⟩

/-- One that does not exist is refused after the old sink is gone. -/
theorem Installed.call_unknown (h : s.Installed level) (force : Bool)
    (hn : requestedLevel? name = none) :
    ∃ s' e, s.call (.configure name force) = (.refused e, s') ∧ s'.Gone level := by
  have hset : ¬ (force = false ∧ requestedLevel? name = some level) := by simp [hn]
  obtain ⟨number, hlast, -⟩ := h.sink
  obtain ⟨hadd, hsinks⟩ := LawfulSinkStore.add_unknown s.release.1 hn
  have hconfigure := configure_of_add_error (not_same h.level_eq hset) h.release.1 hadd
  exact ⟨_, _, call_of_configure_error hconfigure, h.level_eq,
    Option.isSome_iff_exists.2 ⟨number, hlast⟩, hsinks.trans h.release.2⟩

/-- When the sink is gone, every set-up that has something to do is refused. -/
theorem Gone.call_refused (h : s.Gone level)
    (hset : ¬ (force = false ∧ requestedLevel? name = some level)) :
    ∃ s' e, s.call (.configure name force) = (.refused e, s') ∧ s'.Gone level := by
  obtain ⟨⟨e, herror⟩, hnone⟩ := h.release
  have hconfigure := configure_of_release_error (not_same h.level_eq hset) herror
  exact ⟨_, e, call_of_configure_error hconfigure, h.level_eq, h.number, hnone⟩

/-- An event is written once when it reaches the level, and not at all otherwise. -/
theorem Installed.call_log (h : s.Installed level) (e : LogEvent) :
    s.call (.log e) = (.written (if e.reaches level then e.lines else []), s) := by
  obtain ⟨number, -, hsinks⟩ := h.sink
  have hready := ready_eq_self h.level_eq
  have hwrite : s.write e = if e.reaches level then e.lines else [] := by
    rw [write, hready, LawfulSinkStore.write_eq, hsinks]
    by_cases hreach : e.reaches level <;> simp [logLines, hreach]
  have hlog : s.log e.level.name e.origin e.message = .ok (s.write e) := by
    rw [log, hready, hsinks, LogLevel.ofName?_name]
    rfl
  rw [call, hlog, hready, hwrite]

end

theorem Gone.call_log (h : s.Gone level) (e : LogEvent) : s.call (.log e) = (.written [], s) := by
  have hready := ready_eq_self h.level_eq
  have hlog : s.log e.level.name e.origin e.message = .ok [] := by
    rw [log, hready, h.none_installed]
    rfl
  rw [call, hlog, hready]

/-! ### Runs -/

variable {history : LogHistory}

/-- How the condition of a log goes with its history: the sink is there as long as no level was
asked for that does not exist, and that is as long as nothing was refused. -/
inductive Follows (s : LogState σ) (history : LogHistory) : Prop where
  | accepting (hr : ¬ history.HasRefusal) (hn : ¬ history.NamesNoLevel)
      (h : s.Installed (acceptedLevel history))
  | lost (hr : history.HasRefusal) (hn : history.NamesNoLevel) (h : s.Gone (acceptedLevel history))

/-- Once lost, a log stays lost. -/
theorem Follows.lost_concat (hr : history.HasRefusal) (hn : history.NamesNoLevel)
    {p : LogCall × LogAnswer} (h : s.Gone (levelAfter (acceptedLevel history) p)) :
    s.Follows (history ++ [p]) :=
  .lost (hasRefusal_concat.2 (Or.inl hr)) (namesNoLevel_concat.2 (Or.inl hn))
    ((acceptedLevel_concat history p).symm ▸ h)

variable [LawfulSinkStore σ]

/-- One more call. -/
theorem Follows.call (h : s.Follows history) (c : LogCall) :
    (s.call c).2.Follows (history ++ [(c, (s.call c).1)]) := by
  cases h with
  | accepting hr hn h =>
    cases c with
    | log e =>
      rw [h.call_log]
      refine .accepting ?_ ?_ (by rwa [acceptedLevel_concat])
      · simpa [hasRefusal_concat, LogAnswer.IsRefusal] using hr
      · simpa [namesNoLevel_concat, LogCall.NamesNoLevel] using hn
    | configure name force =>
      cases hlevel : requestedLevel? name with
      | some level =>
        obtain ⟨s', he, hs'⟩ := h.call_known force hlevel
        rw [he]
        refine .accepting ?_ ?_ (by simpa [acceptedLevel_concat, levelAfter, hlevel] using hs')
        · simpa [hasRefusal_concat, LogAnswer.IsRefusal] using hr
        · simpa [namesNoLevel_concat, LogCall.NamesNoLevel, hlevel] using hn
      | none =>
        obtain ⟨s', e, he, hs'⟩ := h.call_unknown force hlevel
        rw [he]
        exact .lost (hasRefusal_concat.2 (Or.inr trivial)) (namesNoLevel_concat.2 (Or.inr hlevel))
          (by rwa [acceptedLevel_concat])
  | lost hr hn h =>
    cases c with
    | log e =>
      rw [h.call_log]
      exact .lost_concat hr hn h
    | configure name force =>
      by_cases hset : force = false ∧ requestedLevel? name = some (acceptedLevel history)
      · obtain ⟨rfl, hlevel⟩ := hset
        rw [call_same h.level_eq hlevel]
        exact .lost_concat hr hn (by simpa [levelAfter, hlevel] using h)
      · obtain ⟨s', e, he, hs'⟩ := h.call_refused hset
        rw [he]
        exact .lost_concat hr hn hs'

theorem Follows.run {past : LogHistory} (h : s.Follows past) (calls : List LogCall) :
    (s.run calls).2.Follows (past ++ (s.run calls).1) := by
  induction calls generalizing s past with
  | nil => simpa [LogState.run] using h
  | cons c calls ih =>
    have hnext := ih (h.call c)
    rw [List.append_assoc] at hnext
    exact hnext

theorem follows_run (sinks : σ) (calls : List LogCall) :
    ((quiet sinks).run calls).2.Follows ((quiet sinks).run calls).1 := by
  have hstart : (quiet sinks).Follows [] :=
    .accepting not_hasRefusal_nil not_namesNoLevel_nil (quiet_installed sinks)
  exact hstart.run calls

/-! ### What a history tells -/

open SinkStore in
/-- What the history of a log tells of its sinks and of the answer to its next call. -/
structure Obeys (s : LogState σ) (history : LogHistory) : Prop where
  installed_le_one : (installed s.sinks).length ≤ 1
  /-- While a set-up is at work, the new sink comes after the old one is gone. -/
  installed_release : installed s.release.1 = []
  refused_iff : history.HasRefusal ↔ history.NamesNoLevel
  /-- As long as nothing was refused, the events at or above the accepted level are written. -/
  log_accepting (h : ¬ history.HasRefusal) (e : LogEvent) :
    s.call (.log e) = (.written (if e.reaches (acceptedLevel history) then e.lines else []), s)
  configure_unknown {name : String} (force : Bool) (h : requestedLevel? name = none) :
    ∃ e, (s.call (.configure name force)).1 = .refused e
  /-- After a level that does not exist, no event is written any more. -/
  log_lost (h : history.NamesNoLevel) (e : LogEvent) : s.call (.log e) = (.written [], s)
  configure_lost_same (h : history.NamesNoLevel) {name : String}
    (hn : requestedLevel? name = some (acceptedLevel history)) :
    s.call (.configure name false) = (.done, s)
  configure_lost (h : history.NamesNoLevel) {name : String} {force : Bool}
    (hset : ¬ (force = false ∧ requestedLevel? name = some (acceptedLevel history))) :
    ∃ e, (s.call (.configure name force)).1 = .refused e

theorem Follows.obeys (h : s.Follows history) : s.Obeys history := by
  cases h with
  | accepting hr hn h =>
    obtain ⟨number, -, hsinks⟩ := h.sink
    exact {
      installed_le_one := by simp [hsinks]
      installed_release := h.release.2
      refused_iff := iff_of_false hr hn
      log_accepting := fun _ => h.call_log
      configure_unknown := fun force hlevel =>
        let ⟨_, e, he, _⟩ := h.call_unknown force hlevel
        ⟨e, congrArg Prod.fst he⟩
      log_lost := fun hlost => absurd hlost hn
      configure_lost_same := fun hlost => absurd hlost hn
      configure_lost := fun hlost => absurd hlost hn }
  | lost hr hn h =>
    have hrefused {name : String} {force : Bool}
        (hset : ¬ (force = false ∧ requestedLevel? name = some (acceptedLevel history))) :
        ∃ e, (s.call (.configure name force)).1 = .refused e :=
      let ⟨_, e, he, _⟩ := h.call_refused hset
      ⟨e, congrArg Prod.fst he⟩
    exact {
      installed_le_one := by simp [h.none_installed]
      installed_release := h.release.2
      refused_iff := iff_of_true hr hn
      log_accepting := fun hnone => absurd hr hnone
      configure_unknown := fun force hlevel => hrefused (by simp [hlevel])
      log_lost := fun _ => h.call_log
      configure_lost_same := fun _ => call_same h.level_eq
      configure_lost := fun _ => hrefused }

/-- Whatever is called, there is never more than one sink. Until a level is asked for that does not
exist, every event at or above the accepted level is written once, and no other is written. That
level is refused, and from then on nothing is written and every set-up is refused but one that asks
for what is set already. -/
theorem obeys_run (sinks : σ) (calls : List LogCall) :
    ((quiet sinks).run calls).2.Obeys ((quiet sinks).run calls).1 :=
  (follows_run sinks calls).obeys

/-- Calls that lose the log. -/
def losingCalls : List LogCall :=
  [.configure "info" false, .log ⟨.debug, "checker", "parsed"⟩, .log ⟨.success, "checker", "done"⟩,
    .configure "loud" false, .log ⟨.critical, "checker", "lost"⟩, .configure "INFO" true,
    .configure "Info" false]

theorem obeys_run_losingCalls :
    LawfulSinkStore SinkTable ∧
      ((quiet SinkTable.default).run losingCalls).1.map Prod.snd =
        [.done, .written [], .written ["SUCCESS  | checker - done"],
          .refused (.unknownLevel "LOUD"), .written [], .refused (.noSink 2), .done] ∧
      ((quiet SinkTable.default).run losingCalls).2.Obeys
        ((quiet SinkTable.default).run losingCalls).1 :=
  ⟨inferInstance, by decide +kernel, obeys_run SinkTable.default losingCalls⟩

end LogState

end BeamLint
