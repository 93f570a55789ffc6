import ClusterAdvisor.Proofs.EffectiveSettings
import ClusterAdvisor.Proofs.PaddedPorts

/-!
Names of actions and of log levels, however they are written. A name is looked for in lower case,
by the mapping of all letters, and two characters past ASCII have an ASCII letter in theirs: the
Kelvin sign, which becomes a `k`, and the capital I with a dot, which becomes an `i` and the dot.
As no name has a `k` or such a dot in it, every name is known in any case of its ASCII letters and
in no other spelling.
-/

namespace ClusterAdvisor

namespace Text

/-! ### Small letters of characters past ASCII -/

/-- A run of capitals the small letters of which are characters past ASCII. -/
def StaysPastAscii : Nat × Nat × Nat × Int → Prop
  | (first, last, _, shift) =>
    0x80 ≤ first + shift ∧
      (last + shift < 0xD800 ∨ 0xE000 ≤ first + shift ∧ last + shift < 0x110000)

instance : DecidablePred StaysPastAscii := fun (_, _, _, _) =>
  inferInstanceAs (Decidable (_ ∧ _))

def kelvinRun : Nat × Nat × Nat × Int := (0x212A, 0x212A, 1, -8383)

/-- The table is looked through once; of all its runs only the Kelvin sign leads into ASCII. -/
theorem staysPastAscii_of_mem :
    ∀ run ∈ capitalRuns, run = kelvinRun ∨ StaysPastAscii run := by
  decide +kernel

theorem lowerOne_of_ascii {c : Char} (h : c.toNat < 0x80) : lowerOne c = c.toLower := by
  have hval : c.val < 0x80 := h
  rw [lowerOne, if_pos hval]

theorem toLower_of_pastAscii {c : Char} (h : 0x80 ≤ c.toNat) : c.toLower = c := by
  apply dif_neg
  rintro ⟨_, hlast⟩
  have hlast : c.toNat ≤ 90 := hlast
  omega

/-- Of all characters past ASCII only the Kelvin sign has an ASCII letter for its small letter. The
capital I with a dot is no case of this, as it has two characters in lower case. -/
theorem lowerOne_of_pastAscii {c : Char} (h : 0x80 ≤ c.toNat) :
    lowerOne c = 'k' ∨ 0x80 ≤ (lowerOne c).toNat := by
  have hval : ¬ c.val < 0x80 := Nat.not_lt.mpr h
  rw [lowerOne, if_neg hval]
  split
  · rename_i first last step shift hrun
    have hin := List.find?_some hrun
    simp only [Bool.and_eq_true, decide_eq_true_eq] at hin
    obtain ⟨⟨hfirst, hlast⟩, -⟩ := hin
    rcases staysPastAscii_of_mem _ (List.mem_of_find?_eq_some hrun) with
      hkelvin | ⟨hascii, hvalid⟩
    · left
      cases hkelvin
      have hsign : c.toNat = 0x212A := Nat.le_antisymm hlast hfirst
      rw [hsign]
      rfl
    · right
      have hchar : (c.toNat + shift).toNat.isValidChar := by
        rw [Nat.isValidChar]
        omega
      rw [Char.ofNat, dif_pos hchar]
      have hcode : 0x80 ≤ (c.toNat + shift).toNat := by omega
      exact hcode
  · exact Or.inr h

/-- A name in small ASCII characters that no character past ASCII turns into. -/
def SmallAscii (text : List Char) : Prop :=
  ∀ c ∈ text, c.toNat < 0x80 ∧ c.toLower = c ∧ c ≠ 'k'

instance : DecidablePred SmallAscii := fun text =>
  decidable_of_iff (text.all fun c => c.toNat < 0x80 ∧ c.toLower = c ∧ c ≠ 'k') (by
    simp only [List.all_eq_true, decide_eq_true_eq, SmallAscii])

/-- A character past ASCII leaves one past ASCII or a `k` in the lower case of a text. -/
theorem exists_mem_lowerAfter {c : Char} (h : 0x80 ≤ c.toNat) (before rest : List Char) :
    ∃ d ∈ lowerAfter before (c :: rest), d = 'k' ∨ 0x80 ≤ d.toNat := by
  rw [lowerAfter]
  split
  · split
    · exact ⟨'ς', by simp, by decide⟩
    · exact ⟨'σ', by simp, by decide⟩
  · split
    · exact ⟨'\u0307', by simp, by decide⟩
    · exact ⟨lowerOne c, by simp, lowerOne_of_pastAscii h⟩

/-- Only the capital sigma looks at what stands around it. -/
theorem lowerAfter_of_ascii {c : Char} (h : c.toNat < 0x80) (before rest : List Char) :
    lowerAfter before (c :: rest) = c.toLower :: lowerAfter (c :: before) rest := by
  have hsigma : c ≠ 'Σ' := by
    rintro rfl
    exact absurd h (by decide)
  have hdotted : c ≠ 'İ' := by
    rintro rfl
    exact absurd h (by decide)
  rw [lowerAfter]
  simp only [if_neg hsigma, if_neg hdotted, lowerOne_of_ascii h, List.singleton_append]

/-- By induction along the name, which has no character that one past ASCII could have left. -/
theorem lowerAfter_eq_iff {target : List Char} (htarget : SmallAscii target)
    (before text : List Char) :
    lowerAfter before text = target ↔ text.map Char.toLower = target := by
  induction text generalizing before target with
  | nil => rw [lowerAfter, List.map_nil]
  | cons c rest ih =>
    by_cases hascii : c.toNat < 0x80
    · rw [lowerAfter_of_ascii hascii, List.map_cons]
      cases target with
      | nil => simp only [reduceCtorEq]
      | cons d others =>
        have hothers : SmallAscii others := fun e he => htarget e (List.mem_cons_of_mem d he)
        rw [List.cons.injEq, List.cons.injEq, ih hothers]
    · -- Neither lower case nor the text itself has the characters of the target.
      have hpast : 0x80 ≤ c.toNat := Nat.not_lt.mp hascii
      constructor
      · rintro rfl
        obtain ⟨d, hd, hbad⟩ := exists_mem_lowerAfter hpast before rest
        obtain ⟨hsmall, _, hk⟩ := htarget d hd
        rcases hbad with hbad | hbad
        · exact absurd hbad hk
        · exact absurd hsmall (Nat.not_lt.mpr hbad)
      · rintro rfl
        have hkept : c ∈ (c :: rest).map Char.toLower := by
          rw [List.map_cons, toLower_of_pastAscii hpast]
          exact List.mem_cons_self
        exact absurd (htarget c hkept).1 hascii

/-- A text becomes a name by the mapping of all letters exactly if the mapping of ASCII letters
makes it the name. -/
theorem lowercase_eq_iff {name : String} (hname : SmallAscii name.toList) (s : String) :
    lowercase s = name ↔ s.toList.map Char.toLower = name.toList := by
  rw [← lowerAfter_eq_iff hname [] s.toList, lowercase, ← String.toList_inj, String.toList_ofList]

/-! ### Blanks around a text -/

/-- A text is another one with blanks in front of it and behind it, and has none at its own ends. -/
def Stripped (s core : String) : Prop :=
  ∃ front back, s.toList = front ++ core.toList ++ back ∧ (∀ c ∈ front, isBlank c = true) ∧
    (∀ c ∈ back, isBlank c = true) ∧ Firm isBlank core.toList

theorem Stripped.eq_trim {s core : String} (h : Stripped s core) : core = trim s := by
  obtain ⟨front, back, hs, hfront, hback, hcore⟩ := h
  rw [trim, hs, strip_append_back hback, strip_append_front hfront, hcore.strip_eq,
    String.ofList_toList]

theorem stripped_trim (s : String) : Stripped s (trim s) := by
  by_cases hvisible : ∃ c ∈ s.toList, isBlank c = false
  · obtain ⟨front, inner, back, hs, hfront, hback, _, hinner⟩ := exists_firm hvisible
    have hstripped : Stripped s (String.ofList inner) :=
      ⟨front, back, by rw [String.toList_ofList, hs], hfront, hback,
        by rwa [String.toList_ofList]⟩
    rwa [← hstripped.eq_trim]
  · have hblank : ∀ c ∈ s.toList, isBlank c = true := by simpa using hvisible
    have hstripped : Stripped s "" :=
      ⟨s.toList, [], by simp, hblank, by simp, by simp, by simp⟩
    rwa [← hstripped.eq_trim]

theorem stripped_iff {s core : String} : Stripped s core ↔ core = trim s :=
  ⟨Stripped.eq_trim, fun h => h ▸ stripped_trim s⟩

/-! ### Names -/

/-- Two texts that differ in the case of ASCII letters at most. -/
def SameUpToCase (s t : String) : Prop := s.toList.map Char.toLower = t.toList.map Char.toLower

/-- Without the blanks around it, a text is the name up to the case of ASCII letters. -/
def Names (s name : String) : Prop := ∃ core, Stripped s core ∧ SameUpToCase core name

/-- The rule about blanks and case is what trimming and lower case compute. -/
theorem names_iff {s name : String} (hname : SmallAscii name.toList) :
    Names s name ↔ name = lowercase (trim s) := by
  have hsmall : name.toList.map Char.toLower = name.toList := by
    rw [List.map_congr_left fun c hc => (hname c hc).2.1, List.map_id']
  simp only [Names, stripped_iff, exists_eq_left, SameUpToCase, hsmall]
  rw [← lowercase_eq_iff hname, eq_comm]

/-- A name that a text is given in has nothing past ASCII between the blanks. -/
theorem Names.ascii {s name core : String} (h : Names s name) (hname : SmallAscii name.toList)
    (hcore : Stripped s core) : ∀ c ∈ core.toList, c.toNat < 0x80 := by
  obtain ⟨other, hother, hsame⟩ := h
  obtain rfl : other = core := hother.eq_trim.trans hcore.eq_trim.symm
  intro c hc
  by_contra hascii
  have hpast : 0x80 ≤ c.toNat := Nat.not_lt.mp hascii
  have hmem : c ∈ name.toList.map Char.toLower := by
    rw [← hsame, ← toLower_of_pastAscii hpast]
    exact List.mem_map_of_mem hc
  obtain ⟨d, hd, rfl⟩ := List.mem_map.mp hmem
  rw [(hname d hd).2.1] at hascii
  exact hascii (hname d hd).1

end Text

open Text

namespace Action

theorem smallAscii_name (a : Action) : SmallAscii a.name.toList := by
  cases a <;> decide

theorem find?_name (a : Action) : all.find? (·.name = a.name) = some a := by
  cases a <;> decide

/-- The names tell the actions apart, so a text names one action at most. -/
theorem name_inj {a b : Action} (h : a.name = b.name) : a = b := by
  have hfound := a.find?_name
  rw [h, b.find?_name] at hfound
  exact (Option.some.inj hfound).symm

theorem ofName?_eq_some_iff {s : String} {a : Action} : ofName? s = some a ↔ Names s a.name := by
  rw [names_iff a.smallAscii_name, ofName?]
  constructor
  · intro h
    simpa using List.find?_some h
  · intro h
    rw [← h, find?_name]

theorem ofName_eq_ok_iff {s : String} {a : Action} : ofName s = .ok a ↔ Names s a.name := by
  rw [← ofName?_eq_some_iff, ofName]
  cases ofName? s <;> simp

theorem ofName_eq_error_iff {s : String} {fault : InputFault} :
    ofName s = .error fault ↔ fault = .unknownAction s ∧ ∀ a : Action, ¬ Names s a.name := by
  simp only [← ofName?_eq_some_iff]
  rw [ofName]
  cases ofName? s with
  | none => simp [eq_comm]
  | some a => simp

end Action

namespace LogLevel

theorem smallAscii_name (level : LogLevel) : SmallAscii level.name.toList := by
  cases level <;> decide

end LogLevel

def levelNames : List String := ["trace", "debug", "info", "warn", "error"]

theorem mem_levelNames_iff {name : String} :
    name ∈ levelNames ↔ ∃ level : LogLevel, level.name = name := by
  have hnames : levelNames = LogLevel.all.map LogLevel.name := rfl
  rw [hnames, List.mem_map]
  exact ⟨fun ⟨level, _, h⟩ => ⟨level, h⟩, fun ⟨level, h⟩ => ⟨level, level.mem_all, h⟩⟩

namespace Settings

/-- A text sets the log level of the name that it is. -/
theorem names_iff_withLogLevel {s name : String} (hmem : name ∈ levelNames) (settings : Settings) :
    Names s name ↔ ∃ next, settings.withLogLevel s = .ok next ∧ next.logLevel.name = name ∧
      next.minimumSlots = settings.minimumSlots := by
  obtain ⟨level, rfl⟩ := mem_levelNames_iff.mp hmem
  rw [names_iff level.smallAscii_name]
  simp only [withLogLevel_eq_ok_iff]
  constructor
  · intro hname
    exact ⟨{ settings with logLevel := level }, ⟨hname, rfl⟩, rfl, rfl⟩
  · rintro ⟨next, ⟨hname, _⟩, hsame, _⟩
    rw [← hsame, hname]

theorem withLogLevel_eq_error_iff {s : String} {settings : Settings} {failure : Failure} :
    settings.withLogLevel s = .error failure ↔
      failure = .setting (levelComplaint s) ∧ ∀ name ∈ levelNames, ¬ Names s name := by
  have hrefused (hnone : ∀ name ∈ levelNames, ¬ Names s name) :
      settings.withLogLevel s = .error (.setting (levelComplaint s)) := by
    apply withLogLevel_eq_error
    rw [isLevel_iff]
    rintro ⟨level, hname⟩
    apply hnone level.name (mem_levelNames_iff.mpr ⟨level, rfl⟩)
    exact (names_iff level.smallAscii_name).mpr hname
  constructor
  · intro h
    have hnone : ∀ name ∈ levelNames, ¬ Names s name := by
      intro name hmem hname
      obtain ⟨next, hnext, _⟩ := (names_iff_withLogLevel hmem settings).mp hname
      rw [hnext] at h
      cases h
    rw [hrefused hnone] at h
    cases h
    exact ⟨rfl, hnone⟩
  · rintro ⟨rfl, hnone⟩
    exact hrefused hnone

end Settings

/-- What is made of a text that stands for an action or for a log level. -/
structure NameVerdict (s : String) : Prop where
  action : ∀ a, Action.ofName s = .ok a ↔ Names s a.name
  /-- A text that is refused is told as it was given. -/
  unknownAction : ∀ fault, Action.ofName s = .error fault ↔
    fault = .unknownAction s ∧ ∀ a : Action, ¬ Names s a.name
  oneAction : ∀ a b : Action, Names s a.name → Names s b.name → a = b
  level : ∀ settings : Settings, ∀ name ∈ levelNames, Names s name ↔
    ∃ next, settings.withLogLevel s = .ok next ∧ next.logLevel.name = name ∧
      next.minimumSlots = settings.minimumSlots
  unknownLevel : ∀ (settings : Settings) (failure : Failure),
    settings.withLogLevel s = .error failure ↔
      failure = .setting (Settings.levelComplaint s) ∧ ∀ name ∈ levelNames, ¬ Names s name
  pastAscii : ∀ core, Stripped s core → (∃ c ∈ core.toList, 0x80 ≤ c.toNat) →
    (∀ a, Action.ofName s ≠ .ok a) ∧
      ∀ settings next : Settings, settings.withLogLevel s ≠ .ok next

/-- A text is known as an action or as a log level exactly if it is the name between blanks, in any
case of its ASCII letters. -/
theorem known_names (s : String) : NameVerdict s where
  action := fun a => Action.ofName_eq_ok_iff
  unknownAction := fun fault => Action.ofName_eq_error_iff
  oneAction := by
    intro a b ha hb
    rw [names_iff a.smallAscii_name] at ha
    rw [names_iff b.smallAscii_name] at hb
    exact Action.name_inj (ha.trans hb.symm)
  level := fun settings name hmem => Settings.names_iff_withLogLevel hmem settings
  unknownLevel := fun settings failure => Settings.withLogLevel_eq_error_iff
  pastAscii := by
    rintro core hcore ⟨c, hc, hpast⟩
    have hnone {name : String} (hsmall : SmallAscii name.toList) : ¬ Names s name := fun hname =>
      absurd (hname.ascii hsmall hcore c hc) (Nat.not_lt.mpr hpast)
    constructor
    · intro a ha
      exact hnone a.smallAscii_name (Action.ofName_eq_ok_iff.mp ha)
    · intro settings next hnext
      apply hnone next.logLevel.smallAscii_name
      rw [names_iff next.logLevel.smallAscii_name]
      exact (Settings.withLogLevel_eq_ok_iff.mp hnext).1

end ClusterAdvisor
