import ClusterAdvisor.CommandLine
import ClusterAdvisor.Proofs.ReachedSettings

/-!
The settings of a run. There are three layers: what holds if nothing is said, the variables, and
the options of the command line. Each setting comes from the topmost layer that has it, but a layer
below is still looked at and may be refused: first both variables, then both options. What a
variable may say about the slots is told by how numbers are written, not by how they are read.
-/

namespace ClusterAdvisor

open Text

/-! ### Counts as texts -/

/-- The spellings of a number: its digits, with any number of zeros in front. -/
def SpellsDigits (digits : List Char) (n : Nat) : Prop :=
  ∃ zeros, digits = List.replicate zeros '0' ++ Nat.toDigits 10 n

/-- The same, perhaps behind a plus sign. -/
def SpellsCount (text : List Char) (n : Nat) : Prop :=
  ∃ digits, (text = digits ∨ text = '+' :: digits) ∧ SpellsDigits digits n

theorem digitChar_sub_zero {c : Char} (h : c.isDigit = true) :
    c.toNat - '0'.toNat < 10 ∧ Nat.digitChar (c.toNat - '0'.toNat) = c := by
  have hrange := Char.isDigit_iff_toNat.mp h
  have hchars : ∀ d < 10, Nat.digitChar d = Char.ofNat ('0'.toNat + d) := by decide
  have hnine : '9'.toNat = 57 := rfl
  have hzero : '0'.toNat = 48 := rfl
  have hsmall : c.toNat - '0'.toNat < 10 := by omega
  refine ⟨hsmall, ?_⟩
  rw [hchars _ hsmall, Nat.add_sub_cancel' hrange.1, Char.ofNat_toNat]

/-- A digit behind a numeral makes the tenfold of it and the digit. -/
theorem SpellsDigits.concat {digits : List Char} {n d : Nat} (h : SpellsDigits digits n)
    (hd : d < 10) : SpellsDigits (digits ++ [Nat.digitChar d]) (10 * n + d) := by
  obtain ⟨zeros, rfl⟩ := h
  have hdigit : Nat.toDigits 10 d = [Nat.digitChar d] := Nat.toDigits_of_lt_base hd
  by_cases hn : n = 0
  · -- The numeral zero turns into one more of the zeros in front.
    subst hn
    refine ⟨zeros + 1, ?_⟩
    rw [Nat.toDigits_zero, Nat.mul_zero, Nat.zero_add, hdigit, List.replicate_succ']
  · have hjoined := Nat.toDigits_append_toDigits (by decide) (Nat.pos_of_ne_zero hn) hd
    exact ⟨zeros, by rw [← hjoined, hdigit, List.append_assoc]⟩

/-- Digits spell the number that they make from left to right. -/
theorem spellsDigits_iff {digits : List Char} {n : Nat} :
    SpellsDigits digits n ↔
      digits ≠ [] ∧ (∀ c ∈ digits, c.isDigit = true) ∧ Nat.ofDigitChars 10 digits 0 = n := by
  constructor
  · rintro ⟨zeros, rfl⟩
    refine ⟨by simp [Nat.toDigits_ne_nil], ?_, ?_⟩
    · intro c hc
      rcases List.mem_append.mp hc with hzero | hdigit
      · rw [List.eq_of_mem_replicate hzero]
        rfl
      · exact Nat.isDigit_of_mem_toDigits (by decide) (by decide) hdigit
    · rw [Nat.ofDigitChars_append, Nat.ofDigitChars_replicate_zero, Nat.mul_zero,
        Nat.ofDigitChars_ten_toDigits]
  · induction digits using List.reverseRecOn generalizing n with
    | nil => exact fun h => absurd rfl h.1
    | append_singleton front c ih =>
      rintro ⟨_, hdigits, rfl⟩
      obtain ⟨hsmall, hchar⟩ := digitChar_sub_zero (hdigits c (by simp))
      have hvalue : Nat.ofDigitChars 10 (front ++ [c]) 0 =
          10 * Nat.ofDigitChars 10 front 0 + (c.toNat - '0'.toNat) := by
        rw [Nat.ofDigitChars_append, Nat.ofDigitChars_cons, Nat.ofDigitChars_nil]
      rw [hvalue]
      by_cases hfront : front = []
      · subst hfront
        refine ⟨0, ?_⟩
        rw [Nat.ofDigitChars_nil, Nat.mul_zero, Nat.zero_add, Nat.toDigits_of_lt_base hsmall, hchar]
        rfl
      · have hspelled := ih ⟨hfront, fun d hd => hdigits d (by simp [hd]), rfl⟩
        have := hspelled.concat hsmall
        rwa [hchar] at this

theorem spellsCount_plus_iff {digits : List Char} {n : Nat} :
    SpellsCount ('+' :: digits) n ↔ SpellsDigits digits n := by
  constructor
  · rintro ⟨others, rfl | hothers, h⟩
    · -- A plus sign is no digit.
      exact absurd ((spellsDigits_iff.mp h).2.1 '+' List.mem_cons_self) (by decide)
    · rwa [(List.cons.inj hothers).2]
  · exact fun h => ⟨digits, .inr rfl, h⟩

/-- The sign is looked at first; a text without one is digits from its start. -/
theorem spellsCount_iff_of_ne {text : List Char} (h : ∀ rest, text ≠ '+' :: rest) {n : Nat} :
    SpellsCount text n ↔ SpellsDigits text n := by
  constructor
  · rintro ⟨digits, rfl | hdigits, hspelled⟩
    · exact hspelled
    · exact absurd hdigits (h digits)
  · exact fun hspelled => ⟨text, .inl rfl, hspelled⟩

/-- A text that is read as a count spells it, and all spellings of numbers that fit 64 bits are
read. -/
theorem readCount?_eq_some_iff {text : List Char} {n : UInt64} :
    Settings.readCount? text = some n ↔ SpellsCount text n.toNat := by
  have hread (digits : List Char) :
      (if digits.isEmpty || !digits.all Char.isDigit then none
        else if Nat.ofDigitChars 10 digits 0 < UInt64.size then
          some (UInt64.ofNat (Nat.ofDigitChars 10 digits 0))
        else none) = some n ↔ SpellsDigits digits n.toNat := by
    have hrefused : (digits.isEmpty || !digits.all Char.isDigit) = true ↔
        ¬ (digits ≠ [] ∧ ∀ c ∈ digits, c.isDigit = true) := by
      rw [Bool.or_eq_true, List.isEmpty_iff, Bool.not_eq_true', ← Bool.not_eq_true,
        List.all_eq_true]
      tauto
    rw [spellsDigits_iff, ← and_assoc]
    by_cases hdigits : digits ≠ [] ∧ ∀ c ∈ digits, c.isDigit = true
    · rw [if_neg fun h => hrefused.mp h hdigits, and_iff_right hdigits]
      by_cases hfits : Nat.ofDigitChars 10 digits 0 < UInt64.size
      · rw [if_pos hfits, Option.some.injEq, ← UInt64.toNat_inj, UInt64.toNat_ofNat_of_lt' hfits]
      · have hlarge : Nat.ofDigitChars 10 digits 0 ≠ n.toNat := fun heq => hfits (heq ▸ n.toNat_lt)
        simp [hfits, hlarge]
    · rw [if_pos (hrefused.mpr hdigits)]
      simp only [hdigits, false_and, reduceCtorEq]
  unfold Settings.readCount?
  dsimp only
  split
  · rw [spellsCount_plus_iff]
    exact hread _
  · rename_i hplus
    rw [spellsCount_iff_of_ne hplus]
    exact hread text

instance {text : List Char} : Decidable (SpellsCount text 0) :=
  decidable_of_iff (Settings.readCount? text = some 0) readCount?_eq_some_iff

/-! ### The layers -/

namespace Settings

/-- A text asks for a number of slots: between blanks it spells the number, which is not zero and
fits 64 bits. -/
def AsksFor (raw : String) (slots : UInt64) : Prop :=
  0 < slots ∧ SpellsCount (trim raw).toList slots.toNat

def AsksForSlots (raw : String) : Prop := ∃ slots, AsksFor raw slots

/-- A name of a log level, in any case and with blanks around it. -/
def IsLevel (name : String) : Prop :=
  lowercase (trim name) ∈ ["trace", "debug", "info", "warn", "error"]

def slotsComplaint (raw : String) : String :=
  if SpellsCount (trim raw).toList 0 then "minimum Storm slots must be a positive integer, got 0"
  else "METRON_ADVISOR_MIN_SLOTS must be a positive integer, got '" ++ raw ++ "'"

def levelComplaint (name : String) : String :=
  "log level must be one of trace, debug, info, warn, error, got '" ++ lowercase (trim name) ++ "'"

def SlotsAccepted (given : Option String) : Prop := ∀ raw ∈ given, AsksForSlots raw

def LevelAccepted (given : Option String) : Prop := ∀ name ∈ given, IsLevel name

/-- The rule about blanks and case is what is computed to compare a name. -/
theorem isLevel_iff {name : String} :
    IsLevel name ↔ ∃ level : LogLevel, level.name = lowercase (trim name) := by
  have hnames : ["trace", "debug", "info", "warn", "error"] = LogLevel.all.map LogLevel.name := rfl
  rw [IsLevel, hnames, List.mem_map]
  exact ⟨fun ⟨level, _, h⟩ => ⟨level, h⟩, fun ⟨level, h⟩ => ⟨level, level.mem_all, h⟩⟩

/-- Every name that is no level is refused in the same words, whatever the settings were. -/
theorem withLogLevel_eq_error {name : String} (h : ¬ IsLevel name) (s : Settings) :
    s.withLogLevel name = .error (.setting (levelComplaint name)) := by
  have hnone : LogLevel.all.find? (·.name = lowercase (trim name)) = none := by
    rw [List.find?_eq_none]
    intro level _ hname
    exact h (isLevel_iff.mpr ⟨level, of_decide_eq_true hname⟩)
  rw [withLogLevel, LogLevel.ofName]
  simp only [hnone]
  rfl

theorem withMinimumSlots_zero (s : Settings) :
    s.withMinimumSlots 0 =
      .error (.setting "minimum Storm slots must be a positive integer, got 0") :=
  rfl

/-- The settings behind a log level that may be given. -/
theorem exists_levelStage {given : Option String} (h : LevelAccepted given) (s : Settings) :
    ∃ next, given.elim (pure s) s.withLogLevel = .ok next ∧
      next.minimumSlots = s.minimumSlots ∧
      next.logLevel.name = (given.map fun name => lowercase (trim name)).getD s.logLevel.name := by
  cases given with
  | none => exact ⟨s, rfl, rfl, rfl⟩
  | some name =>
    have hname : IsLevel name := h name rfl
    obtain ⟨level, hlevel⟩ := isLevel_iff.mp hname
    refine ⟨{ s with logLevel := level }, ?_, rfl, hlevel⟩
    rw [Option.elim_some, withLogLevel_eq_ok_iff]
    exact ⟨hlevel, rfl⟩

/-- The settings behind a number of slots that may be given. -/
theorem exists_slotsStage {given : Option String} (h : SlotsAccepted given) :
    ∃ s, given.elim (pure default)
        (fun raw => readMinimumSlots raw >>= default.withMinimumSlots) = .ok s ∧
      s.logLevel = .info ∧
      given.elim (s.minimumSlots = 5) (AsksFor · s.minimumSlots) := by
  cases given with
  | none =>
    have hdefault : default.minimumSlots = 5 := rfl
    exact ⟨default, rfl, rfl, hdefault⟩
  | some raw =>
    obtain ⟨slots, hpos, hspells⟩ := h raw rfl
    refine ⟨⟨slots, .info, hpos⟩, ?_, rfl, hpos, hspells⟩
    rw [Option.elim_some, bind_eq_ok_iff]
    exact ⟨slots, readMinimumSlots_eq_ok_iff.mpr (readCount?_eq_some_iff.mpr hspells),
      withMinimumSlots_eq_ok_iff.mpr ⟨rfl, hpos, rfl⟩⟩

/-- A text that asks for no slots is refused in the one step or the other: what spells zero is read
and then refused as a number, and anything else is not read. -/
theorem slotsStage_eq_error {raw : String} (h : ¬ AsksForSlots raw) :
    (readMinimumSlots raw >>= default.withMinimumSlots) =
      .error (.setting (slotsComplaint raw)) := by
  by_cases hzero : SpellsCount (trim raw).toList 0
  · have hread : readMinimumSlots raw = .ok 0 :=
      readMinimumSlots_eq_ok_iff.mpr (readCount?_eq_some_iff.mpr hzero)
    rw [hread, slotsComplaint, if_pos hzero]
    rfl
  · have hnone : readCount? (trim raw).toList = none := by
      rw [Option.eq_none_iff_forall_ne_some]
      intro slots hslots
      have hspells := readCount?_eq_some_iff.mp hslots
      by_cases hpos : 0 < slots
      · exact h ⟨slots, hpos, hspells⟩
      · rw [UInt64.not_lt, UInt64.le_zero_iff] at hpos
        subst hpos
        exact hzero hspells
    rw [readMinimumSlots, hnone, slotsComplaint, if_neg hzero]
    rfl

/-- The settings that the variables give, if none of them is refused. -/
theorem exists_ofVariables {vars : Variables} (hslots : SlotsAccepted (vars minimumSlotsVariable))
    (hlevel : LevelAccepted (vars logLevelVariable)) :
    ∃ s, ofVariables vars = .ok s ∧
      (vars minimumSlotsVariable).elim (s.minimumSlots = 5) (AsksFor · s.minimumSlots) ∧
      s.logLevel.name =
        ((vars logLevelVariable).map fun name => lowercase (trim name)).getD "info" := by
  obtain ⟨first, hfirst, hinfo, hcount⟩ := exists_slotsStage hslots
  obtain ⟨s, hs, hsame, hname⟩ := exists_levelStage hlevel first
  refine ⟨s, ?_, by rwa [hsame], by rw [hname, hinfo, LogLevel.name]⟩
  rw [ofVariables_eq, hfirst, ok_bind, hs]

end Settings

namespace CommandLine

open Settings

/-- One bind for each place where something can be wrong, in the order in which errors are told. -/
theorem effectiveSettings_eq (args : Arguments) (vars : Variables) :
    effectiveSettings args vars = ofVariables vars >>= fun s =>
      args.logLevel.elim (pure s) s.withLogLevel >>= fun s =>
        args.minimumSlots.elim (pure s) s.withMinimumSlots := by
  unfold effectiveSettings
  cases args.logLevel <;> cases args.minimumSlots <;> simp only [Option.elim, pure_bind]

/-- What becomes of the settings of a run. Each field but the last one is an error, and says that
nothing was wrong in the places before it; `accepted` tells the settings if nothing is wrong. -/
structure SettingsVerdict (args : Arguments) (vars : Variables)
    (result : Except Failure Settings) : Prop where
  slotsVariable : ∀ raw, vars minimumSlotsVariable = some raw → ¬ AsksForSlots raw →
    result = .error (.setting (slotsComplaint raw))
  levelVariable : SlotsAccepted (vars minimumSlotsVariable) →
    ∀ name, vars logLevelVariable = some name → ¬ IsLevel name →
      result = .error (.setting (levelComplaint name))
  levelOption : SlotsAccepted (vars minimumSlotsVariable) → LevelAccepted (vars logLevelVariable) →
    ∀ name, args.logLevel = some name → ¬ IsLevel name →
      result = .error (.setting (levelComplaint name))
  slotsOption : SlotsAccepted (vars minimumSlotsVariable) → LevelAccepted (vars logLevelVariable) →
    LevelAccepted args.logLevel → args.minimumSlots = some 0 →
      result = .error (.setting "minimum Storm slots must be a positive integer, got 0")
  /-- Either setting comes from its option, else from its variable, else it is the default. -/
  accepted : SlotsAccepted (vars minimumSlotsVariable) → LevelAccepted (vars logLevelVariable) →
    LevelAccepted args.logLevel → args.minimumSlots ≠ some 0 →
      ∃ s, result = .ok s ∧
        args.minimumSlots.elim
          ((vars minimumSlotsVariable).elim (s.minimumSlots = 5) (AsksFor · s.minimumSlots))
          (s.minimumSlots = ·) ∧
        s.logLevel.name = ((args.logLevel.or (vars logLevelVariable)).map
          fun name => lowercase (trim name)).getD "info"

/-- The settings of a run, for all variables and all options: an error about the first of the four
places that is wrong, or both settings, each from the topmost layer that gives it. -/
theorem effective_settings (args : Arguments) (vars : Variables) :
    SettingsVerdict args vars (effectiveSettings args vars) := by
  rw [effectiveSettings_eq]
  constructor
  · intro raw hraw hrefused
    rw [ofVariables_eq, hraw, Option.elim_some, slotsStage_eq_error hrefused]
    simp only [error_bind]
  · intro hslots name hname hrefused
    obtain ⟨s, hs, _⟩ := exists_slotsStage hslots
    rw [ofVariables_eq, hs, hname, ok_bind, Option.elim_some, withLogLevel_eq_error hrefused]
    simp only [error_bind]
  · intro hslots hlevel name hname hrefused
    obtain ⟨s, hs, _⟩ := exists_ofVariables hslots hlevel
    rw [hs, ok_bind, hname, Option.elim_some, withLogLevel_eq_error hrefused, error_bind]
  · intro hslots hlevel hoption hzero
    obtain ⟨s, hs, _⟩ := exists_ofVariables hslots hlevel
    obtain ⟨next, hnext, _⟩ := exists_levelStage hoption s
    rw [hs, ok_bind, hnext, ok_bind, hzero, Option.elim_some, withMinimumSlots_zero]
  · intro hslots hlevel hoption hzero
    obtain ⟨s, hs, hcount, hname⟩ := exists_ofVariables hslots hlevel
    obtain ⟨next, hnext, hsame, hnextName⟩ := exists_levelStage hoption s
    rw [hs, ok_bind, hnext, ok_bind]
    have hlevels : next.logLevel.name = ((args.logLevel.or (vars logLevelVariable)).map
        fun name => lowercase (trim name)).getD "info" := by
      rw [hnextName, hname]
      cases args.logLevel <;> rfl
    cases hslotsOption : args.minimumSlots with
    | none => exact ⟨next, rfl, by rwa [Option.elim_none, hsame], hlevels⟩
    | some slots =>
      have hgiven : slots ≠ 0 := fun heq => hzero (by rw [hslotsOption, heq])
      have hpos : 0 < slots := UInt64.pos_iff_ne_zero.mpr hgiven
      refine ⟨⟨slots, next.logLevel, hpos⟩, ?_, rfl, hlevels⟩
      rw [Option.elim_some, withMinimumSlots_eq_ok_iff]
      exact ⟨rfl, hpos, rfl⟩

end CommandLine

end ClusterAdvisor
