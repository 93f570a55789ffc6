import ClusterAdvisor.Proofs.ConfigurationCheck
import ClusterAdvisor.Proofs.Results

/-!
Settings that variables give and calls change one by one, and what the check of the slots does with
them. A call that is refused changes nothing, and one that is accepted changes its own setting. No
run of calls arrives at a minimum of no slots, so a Storm site without ports or a cluster without
supervisors is always found wanting.
-/

namespace ClusterAdvisor

open Text

namespace LogLevel

theorem find?_name (level : LogLevel) : all.find? (·.name = level.name) = some level := by
  cases level <;> rfl

theorem ofName_eq_ok_iff {s : String} {level : LogLevel} :
    ofName s = .ok level ↔ level.name = lowercase (trim s) := by
  unfold ofName
  dsimp only
  constructor
  · intro hlevel
    split at hlevel
    next found hfound =>
      obtain rfl := Except.ok.inj hlevel
      simpa using List.find?_some hfound
    next => cases hlevel
  · intro hname
    rw [← hname, find?_name]

theorem mem_all (level : LogLevel) : level ∈ all := by
  cases level <;> decide

theorem name_mem (level : LogLevel) :
    level.name ∈ ["trace", "debug", "info", "warn", "error"] := by
  cases level <;> decide

/-- A level is written in small letters, with nothing around them. -/
theorem name_tidy (level : LogLevel) :
    lowercase level.name = level.name ∧ trim level.name = level.name := by
  cases level <;> decide

end LogLevel

namespace Settings

inductive Call where
  | minimumSlots (slots : UInt64)
  | logLevel (name : String)

def tryCall (s : Settings) : Call → Except Failure Settings
  | .minimumSlots slots => s.withMinimumSlots slots
  | .logLevel name => s.withLogLevel name

/-- The settings behind a call; one that is refused keeps them. -/
def afterCall (s : Settings) (call : Call) : Settings :=
  match s.tryCall call with
  | .ok next => next
  | .error _ => s

/-- The settings behind several calls. -/
def afterCalls (s : Settings) (calls : List Call) : Settings := calls.foldl afterCall s

namespace Call

def slots? : Call → Option UInt64
  | minimumSlots slots => if 0 < slots then some slots else none
  | logLevel _ => none

def levelName? : Call → Option String
  | minimumSlots _ => none
  | logLevel name =>
    let wanted := lowercase (trim name)
    if wanted ∈ LogLevel.all.map LogLevel.name then some wanted else none

/-- A call sets what it asks for and leaves the other setting as it was. -/
def Sets (s next : Settings) : Call → Prop
  | minimumSlots slots => next.minimumSlots = slots ∧ 0 < slots ∧ next.logLevel = s.logLevel
  | logLevel name =>
    next.logLevel.name = lowercase (trim name) ∧ next.minimumSlots = s.minimumSlots

end Call

theorem withMinimumSlots_eq_ok_iff {s next : Settings} {slots : UInt64} :
    s.withMinimumSlots slots = .ok next ↔
      next.minimumSlots = slots ∧ 0 < slots ∧ next.logLevel = s.logLevel := by
  unfold withMinimumSlots
  by_cases hslots : 0 < slots
  · rw [dif_pos hslots]
    constructor
    · intro hnext
      obtain rfl := Except.ok.inj hnext
      exact ⟨rfl, hslots, rfl⟩
    · rintro ⟨hminimum, _, hlevel⟩
      obtain ⟨minimum, level, _⟩ := next
      cases hminimum
      cases hlevel
      rfl
  · simp [hslots]

theorem withLogLevel_eq_ok_iff {s next : Settings} {name : String} :
    s.withLogLevel name = .ok next ↔
      next.logLevel.name = lowercase (trim name) ∧ next.minimumSlots = s.minimumSlots := by
  unfold withLogLevel
  rw [← LogLevel.ofName_eq_ok_iff]
  cases LogLevel.ofName name with
  | error failure => simp [Except.map]
  | ok level =>
      obtain ⟨minimum, nextLevel, _⟩ := next
      simp only [Except.map, Except.ok.injEq, Settings.mk.injEq, eq_comm, and_comm]

theorem tryCall_eq_ok_iff {s next : Settings} {call : Call} :
    s.tryCall call = .ok next ↔ call.Sets s next := by
  cases call with
  | minimumSlots slots => exact withMinimumSlots_eq_ok_iff
  | logLevel name => exact withLogLevel_eq_ok_iff

theorem readMinimumSlots_eq_ok_iff {raw : String} {slots : UInt64} :
    readMinimumSlots raw = .ok slots ↔ readCount? (trim raw).toList = some slots := by
  unfold readMinimumSlots
  cases readCount? (trim raw).toList <;> simp

/-- The variables are looked at one after the other. -/
theorem ofVariables_eq (lookup : String → Option String) :
    ofVariables lookup =
      (lookup minimumSlotsVariable).elim (pure default)
          (fun raw => readMinimumSlots raw >>= default.withMinimumSlots) >>=
        fun s => (lookup logLevelVariable).elim (pure s) s.withLogLevel := by
  unfold ofVariables
  cases lookup minimumSlotsVariable <;> cases lookup logLevelVariable <;>
    simp only [Option.elim, bind_assoc, pure_bind]

/-- The default settings, changed by the variables that are set. -/
def GivenBy (lookup : String → Option String) (s : Settings) : Prop :=
  (lookup minimumSlotsVariable).elim (s.minimumSlots = defaultMinimumSlots)
    (fun raw => readCount? (trim raw).toList = some s.minimumSlots) ∧
  (lookup logLevelVariable).elim (s.logLevel = .info)
    (fun name => s.logLevel.name = lowercase (trim name))

/-- Settings are accepted as a whole: both variables have to be right if they are set. -/
theorem ofVariables_eq_ok_iff {lookup : String → Option String} {s : Settings} :
    ofVariables lookup = .ok s ↔ s.GivenBy lookup := by
  have hminimum : ∀ first,
      (lookup minimumSlotsVariable).elim (pure default)
          (fun raw => readMinimumSlots raw >>= default.withMinimumSlots) = .ok first ↔
        (lookup minimumSlotsVariable).elim (first.minimumSlots = defaultMinimumSlots)
          (fun raw => readCount? (trim raw).toList = some first.minimumSlots) ∧
        first.logLevel = .info := by
    rintro ⟨minimum, level, hpos⟩
    cases lookup minimumSlotsVariable with
    | none => simp [default, pure, Except.pure, eq_comm]
    | some raw =>
      simp only [Option.elim_some, bind_eq_ok_iff, readMinimumSlots_eq_ok_iff,
        withMinimumSlots_eq_ok_iff]
      simp [hpos, default]
  simp only [ofVariables_eq, bind_eq_ok_iff, hminimum, GivenBy]
  cases lookup logLevelVariable with
  | none =>
    constructor
    · rintro ⟨first, ⟨hslots, hlevel⟩, hs⟩
      obtain rfl := Except.ok.inj hs
      exact ⟨hslots, hlevel⟩
    · rintro ⟨hslots, hlevel⟩
      exact ⟨s, ⟨hslots, hlevel⟩, rfl⟩
  | some name =>
    simp only [Option.elim_some, withLogLevel_eq_ok_iff]
    constructor
    · rintro ⟨first, ⟨hslots, _⟩, hname, hsame⟩
      rw [hsame]
      exact ⟨hslots, hname⟩
    · rintro ⟨hslots, hname⟩
      exact ⟨{ s with logLevel := .info }, ⟨hslots, rfl⟩, hname, rfl⟩

/-- A call that is refused, or that is about the other setting, keeps the minimum. -/
theorem minimumSlots_afterCall (s : Settings) (call : Call) :
    (s.afterCall call).minimumSlots = call.slots?.getD s.minimumSlots := by
  cases call with
  | minimumSlots slots =>
    by_cases hslots : 0 < slots <;>
      simp [afterCall, tryCall, withMinimumSlots, Call.slots?, hslots]
  | logLevel name =>
    simp only [afterCall, tryCall, withLogLevel, Call.slots?, Option.getD_none]
    cases LogLevel.ofName name <;> rfl

/-- The same for the log level. -/
theorem levelName_afterCall (s : Settings) (call : Call) :
    (s.afterCall call).logLevel.name = call.levelName?.getD s.logLevel.name := by
  cases call with
  | minimumSlots slots =>
    by_cases hslots : 0 < slots <;>
      simp [afterCall, tryCall, withMinimumSlots, Call.levelName?, hslots]
  | logLevel name =>
    simp only [afterCall, tryCall, withLogLevel, Call.levelName?]
    cases hname : LogLevel.ofName name with
    | ok level =>
      rw [LogLevel.ofName_eq_ok_iff] at hname
      simp [Except.map, ← hname, LogLevel.mem_all]
    | error failure =>
      have hunknown : lowercase (trim name) ∉ LogLevel.all.map LogLevel.name := by
        intro hmem
        obtain ⟨level, _, hlevel⟩ := List.mem_map.mp hmem
        rw [LogLevel.ofName_eq_ok_iff.mpr hlevel] at hname
        cases hname
      simp [Except.map, hunknown]

/-- The minimum behind several calls is the last one that was asked for and not refused. -/
theorem minimumSlots_afterCalls (s : Settings) (calls : List Call) :
    (s.afterCalls calls).minimumSlots =
      (calls.filterMap Call.slots?).getLastD s.minimumSlots := by
  induction calls generalizing s with
  | nil => rfl
  | cons call calls ih =>
    have hstep := minimumSlots_afterCall s call
    rw [afterCalls, List.foldl_cons, ← afterCalls, ih, hstep]
    cases hslots : call.slots? with
    | none => rw [List.filterMap_cons_none hslots, Option.getD_none]
    | some slots => rw [List.filterMap_cons_some hslots, List.getLastD_cons, Option.getD_some]

theorem levelName_afterCalls (s : Settings) (calls : List Call) :
    (s.afterCalls calls).logLevel.name =
      (calls.filterMap Call.levelName?).getLastD s.logLevel.name := by
  induction calls generalizing s with
  | nil => rfl
  | cons call calls ih =>
    have hstep := levelName_afterCall s call
    rw [afterCalls, List.foldl_cons, ← afterCalls, ih, hstep]
    cases hname : call.levelName? with
    | none => rw [List.filterMap_cons_none hname, Option.getD_none]
    | some name => rw [List.filterMap_cons_some hname, List.getLastD_cons, Option.getD_some]

end Settings

namespace Rules

/-- A property that is not there, or that lists no port: a text of nothing but commas, blanks and
brackets around them, or an empty list. -/
def NamesNoPort : Option PropertyValue → Prop
  | none => True
  | some (.text ports) => ∀ c ∈ strip isBracket ports.toList, c = ',' ∨ isBlank c = true
  | some (.list ports) => ports = []
  | some _ => False

/-- No minimum is zero, so a site without ports never has enough slots. -/
theorem slotsPerSupervisor_eq_zero_iff {ports : Option PropertyValue} :
    slotsPerSupervisor ports = 0 ↔ NamesNoPort ports := by
  cases ports with
  | none => simp [slotsPerSupervisor, NamesNoPort]
  | some value =>
    cases value with
    | text ports =>
      simp [slotsPerSupervisor, NamesNoPort, listedPorts, ← forall_mem_pieces]
    | list ports => simp [slotsPerSupervisor, NamesNoPort]
    | integer n => simp [slotsPerSupervisor, NamesNoPort]
    | other v => simp [slotsPerSupervisor, NamesNoPort]

/-- As the minimum is not zero, nothing that comes to no slots at all is enough. -/
theorem slotsFinding?_ne_none_of_noSlots (settings : Settings) {site : Site} {p : Placement}
    (hnone : NamesNoPort (site.get? supervisorPorts) ∨ p.hosts supervisor = []) :
    slotsFinding? settings site p ≠ none := by
  have hproduct :
      slotsPerSupervisor (site.get? supervisorPorts) * p.distinctHostCount supervisor = 0 := by
    rw [Nat.mul_eq_zero]
    rcases hnone with hports | hhosts
    · exact Or.inl (slotsPerSupervisor_eq_zero_iff.mpr hports)
    · exact Or.inr (by simp [Placement.distinctHostCount, hhosts])
  have hminimum : 0 < settings.minimumSlots.toNat :=
    UInt64.lt_iff_toNat_lt.mp settings.minimumSlots_pos
  rw [Ne, slotsFinding?_eq_none_iff, hproduct, Nat.not_le]
  exact hminimum

end Rules

open Rules

/-- Whatever settings variables give and whatever calls follow, the minimum is the last one that was
accepted and never zero, the log level is a known one in its plain spelling, and a call is accepted
only if it leaves the other setting alone. So a Storm site that names no port, and a cluster without
supervisors, always get an error about the slots. -/
theorem reached_settings_check_slots {lookup : String → Option String} {initial : Settings}
    (hinitial : Settings.ofVariables lookup = .ok initial) (calls : List Settings.Call) :
    ∃ reached, initial.afterCalls calls = reached ∧ initial.GivenBy lookup ∧
      reached.minimumSlots =
        (calls.filterMap Settings.Call.slots?).getLastD initial.minimumSlots ∧
      1 ≤ reached.minimumSlots ∧
      reached.logLevel.name =
        (calls.filterMap Settings.Call.levelName?).getLastD initial.logLevel.name ∧
      reached.logLevel.name ∈ ["trace", "debug", "info", "warn", "error"] ∧
      lowercase reached.logLevel.name = reached.logLevel.name ∧
      trim reached.logLevel.name = reached.logLevel.name ∧
      (∀ call next, reached.tryCall call = .ok next ↔ call.Sets reached next) ∧
      ∀ (site : Site) (p : Placement),
        NamesNoPort (site.get? supervisorPorts) ∨ p.hosts supervisor = [] →
        ∃ message, (checkStormSite reached site p).filter
            (·.property? = some supervisorPorts) =
          [⟨.error, message, .configuration stormSite supervisorPorts⟩] := by
  refine ⟨_, rfl, Settings.ofVariables_eq_ok_iff.mp hinitial,
    Settings.minimumSlots_afterCalls initial calls, ?_,
    Settings.levelName_afterCalls initial calls, LogLevel.name_mem _, (LogLevel.name_tidy _).1,
    (LogLevel.name_tidy _).2, fun _ _ => Settings.tryCall_eq_ok_iff, ?_⟩
  · exact UInt64.le_iff_toNat_le.mpr
      (UInt64.lt_iff_toNat_lt.mp (initial.afterCalls calls).minimumSlots_pos)
  · intro site p hnone
    obtain ⟨finding, hfinding⟩ :=
      Option.ne_none_iff_exists'.mp (slotsFinding?_ne_none_of_noSlots _ hnone)
    obtain ⟨message, rfl⟩ := slotsFinding?_eq_some hfinding
    refine ⟨message, ?_⟩
    rw [filter_slots_checkStormSite, hfinding]
    rfl

def loudVariables (name : String) : Option String :=
  [(Settings.minimumSlotsVariable, " 7 "), (Settings.logLevelVariable, "WARN")].lookup name

def initialLoud : Settings := ⟨7, .warn, by decide⟩

/-- Two calls that are refused, two that are not. -/
def mixedCalls : List Settings.Call :=
  [.minimumSlots 3, .minimumSlots 0, .logLevel " Debug", .logLevel "loud"]

theorem reached_settings_check_slots_of_mixedCalls :
    Settings.ofVariables loudVariables = .ok initialLoud ∧
      (initialLoud.afterCalls mixedCalls).minimumSlots = 3 ∧
      (initialLoud.afterCalls mixedCalls).logLevel.name = "debug" ∧
      ∃ message, (checkStormSite (initialLoud.afterCalls mixedCalls) sparseStormSite
          Placement.empty).filter (·.property? = some supervisorPorts) =
        [⟨.error, message, .configuration stormSite supervisorPorts⟩] := by
  have hinitial : Settings.ofVariables loudVariables = .ok initialLoud := by decide
  obtain ⟨reached, hreached, _, hslots, _, hlevel, _, _, _, _, hcheck⟩ :=
    reached_settings_check_slots hinitial mixedCalls
  rw [hreached]
  refine ⟨hinitial, ?_, ?_, hcheck sparseStormSite Placement.empty (Or.inr rfl)⟩
  · rw [hslots]
    decide
  · rw [hlevel]
    decide

end ClusterAdvisor
