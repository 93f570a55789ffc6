import ClusterAdvisor.CommandLine
import ClusterAdvisor.Proofs.RecommendationsFile

/-!
Which fault a run reports. Its documents are read and understood one after the other, and then the
action is answered; whatever is wrong first is reported, and nothing that comes later is looked at.
Each stage is said by itself, so that several of them may have something wrong at the same time.
-/

namespace ClusterAdvisor

open Json

/-! ### Files that hold a text -/

/-- There is no file at the path, or its bytes are no text. -/
def Unreadable (files : Files) (path : String) : Prop :=
  files path = none ∨ ∃ bytes, files path = some bytes ∧ ¬ bytes.IsValidUTF8

variable {files : Files} {path : String}

theorem readText_of_unreadable (h : Unreadable files path) :
    readText files path = .error (.file "read" path) := by
  rcases h with hnone | ⟨bytes, hbytes, hinvalid⟩
  · rw [readText, hnone, Option.bind_none]
  · rw [readText, hbytes, Option.bind_some, String.fromUTF8?, dif_neg hinvalid]

/-- Bytes that are no text count as unreadable, so a path leads to a text or to nothing. -/
theorem unreadable_or_text (files : Files) (path : String) :
    Unreadable files path ∨ ∃ text : String, files path = some text.toUTF8 := by
  cases hfile : files path with
  | none => exact Or.inl (Or.inl hfile)
  | some bytes =>
    by_cases hvalid : bytes.IsValidUTF8
    · exact Or.inr ⟨⟨bytes, hvalid⟩, rfl⟩
    · exact Or.inl (Or.inr ⟨bytes, hfile, hvalid⟩)

theorem not_unreadable {text : String} (h : files path = some text.toUTF8) :
    ¬ Unreadable files path := by
  rintro (hnone | ⟨bytes, hbytes, hinvalid⟩)
  · rw [hnone] at h
    cases h
  · rw [hbytes] at h
    cases h
    exact hinvalid text.isValidUTF8

theorem readText_eq_ok_iff {text : String} :
    readText files path = .ok text ↔ files path = some text.toUTF8 := by
  constructor
  · intro h
    rcases unreadable_or_text files path with hunreadable | ⟨other, hother⟩
    · rw [readText_of_unreadable hunreadable] at h
      cases h
    · rw [readText_toUTF8 hother] at h
      rw [hother, Except.ok.inj h]
  · exact readText_toUTF8

/-- A path has one text, so what is wrong with it does not depend on how it was found. -/
theorem text_unique {text other : String} (htext : files path = some text.toUTF8)
    (hother : files path = some other.toUTF8) : text = other :=
  String.toByteArray_inj.mp (Option.some.inj (htext.symm.trans hother))

namespace CommandLine

/-! ### The stages -/

inductive Part where
  | hosts
  | services
  | recommendations
  deriving DecidableEq

/-- Where a document is; the recommendations may be left out. -/
def Part.path? (paths : RequestFiles) : Part → Option String
  | hosts => some paths.hosts
  | services => some paths.services
  | recommendations => paths.recommendations

/-- What is told of a text that is no such document. Hosts and services are called by their names;
recommendations are not. -/
inductive Part.Refuses : Part → String → Failure → Prop where
  | hosts {text : String} {fault : Fault} (h : Hosts.schema.ofText text = .error fault) :
      Refuses .hosts text (.input (.deserialization ("hosts document: " ++ fault.message)))
  | services {text : String} {fault : Fault} (h : Services.schema.ofText text = .error fault) :
      Refuses .services text (.input (.deserialization ("services document: " ++ fault.message)))
  | recommendations {text : String} {fault : Fault} (h : recommendedDefaults text = .error fault) :
      Refuses .recommendations text (.json fault)

inductive Stage where
  | read (part : Part)
  | parse (part : Part)
  | act
  deriving DecidableEq

namespace Stage

def order : List Stage :=
  [.read .hosts, .parse .hosts, .read .services, .parse .services, .read .recommendations,
    .parse .recommendations, .act]

def place (stage : Stage) : Nat := order.idxOf stage

theorem mem_order (stage : Stage) : stage ∈ order := by
  rcases stage with (_ | _ | _) | (_ | _ | _) | _ <;> decide

/-- Stages are compared by their places, so a place has to tell its stage. -/
theorem place_inj {stage other : Stage} (h : stage.place = other.place) : stage = other :=
  (List.idxOf_inj stage.mem_order).mp h

theorem place_lt (stage : Stage) : stage.place < act.place + 1 :=
  List.idxOf_lt_length_of_mem stage.mem_order

/-- A document is understood right after it is read. -/
theorem place_parse (part : Part) : (parse part).place = (read part).place + 1 := by
  cases part <;> rfl

end Stage

/-- What is wrong in a stage. Nothing is said about the stages before it, except that the action has
no fault without a request. -/
inductive Fails (args : Arguments) (settings : Settings) (files : Files) :
    Stage → Failure → Prop where
  | read {part : Part} {path : String} (hpath : part.path? args.files = some path)
      (h : Unreadable files path) : Fails args settings files (.read part) (.file "read" path)
  | parse {part : Part} {path text : String} {failure : Failure}
      (hpath : part.path? args.files = some path) (htext : files path = some text.toUTF8)
      (h : part.Refuses text failure) : Fails args settings files (.parse part) failure
  | act {request : Request} {failure : Failure} (hload : args.files.load files = .ok request)
      (h : request.answer settings args.action = .error failure) :
      Fails args settings files .act failure

/-- Nothing is wrong in the first stages. -/
def Clear (args : Arguments) (settings : Settings) (files : Files) (count : Nat) : Prop :=
  ∀ stage : Stage, stage.place < count → ∀ failure, ¬ Fails args settings files stage failure

/-- A stage with something wrong, and nothing wrong before it. -/
structure FirstFault (args : Arguments) (settings : Settings) (files : Files) (stage : Stage)
    (failure : Failure) : Prop where
  fails : Fails args settings files stage failure
  clear : Clear args settings files stage.place

variable {args : Arguments} {settings : Settings}

theorem Part.Refuses.unique {part : Part} {text : String} {failure other : Failure}
    (h : part.Refuses text failure) (hother : part.Refuses text other) : failure = other := by
  cases h with
  | hosts h =>
    cases hother with
    | hosts hother => rw [Except.error.inj (h.symm.trans hother)]
  | services h =>
    cases hother with
    | services hother => rw [Except.error.inj (h.symm.trans hother)]
  | recommendations h =>
    cases hother with
    | recommendations hother => rw [Except.error.inj (h.symm.trans hother)]

/-- Together with the order of the stages this leaves a run no choice of what to tell. -/
theorem Fails.unique {stage : Stage} {failure other : Failure}
    (h : Fails args settings files stage failure)
    (hother : Fails args settings files stage other) : failure = other := by
  cases h with
  | read hpath _ =>
    cases hother with
    | read hpath' _ => rw [Option.some.inj (hpath.symm.trans hpath')]
  | parse hpath htext h =>
    cases hother with
    | parse hpath' htext' h' =>
      obtain rfl := Option.some.inj (hpath.symm.trans hpath')
      obtain rfl := text_unique htext htext'
      exact h.unique h'
  | act hload h =>
    cases hother with
    | act hload' h' =>
      obtain rfl := Except.ok.inj (hload.symm.trans hload')
      exact Except.error.inj (h.symm.trans h')

/-- Of two first faults neither can stand before the other. -/
theorem FirstFault.unique {stage stage' : Stage} {failure failure' : Failure}
    (h : FirstFault args settings files stage failure)
    (h' : FirstFault args settings files stage' failure') : failure = failure' := by
  -- Neither of the two can come before the other.
  rcases Nat.lt_trichotomy stage.place stage'.place with hlt | heq | hgt
  · exact absurd h.fails (h'.clear stage hlt failure)
  · obtain rfl := Stage.place_inj heq
    exact h.fails.unique h'.fails
  · exact absurd h'.fails (h.clear stage' hgt failure')

theorem clear_zero : Clear args settings files 0 :=
  fun stage h => absurd h (Nat.not_lt_zero stage.place)

/-- The stages are gone through one at a time. -/
theorem Clear.succ {stage : Stage} (h : Clear args settings files stage.place)
    (hstage : ∀ failure, ¬ Fails args settings files stage failure) :
    Clear args settings files (stage.place + 1) := by
  intro other hother
  rcases Nat.lt_succ_iff_lt_or_eq.mp hother with hlt | heq
  · exact h other hlt
  · rwa [Stage.place_inj heq]

/-! ### Going through the stages -/

theorem parseDocument_eq_error_iff {α : Type} {document : Document} {schema : Schema α}
    {text : String} {failure : Failure} :
    (parseDocument document schema text).mapError .input = .error failure ↔
      ∃ fault, schema.ofText text = .error fault ∧
        .input (.ofDocument document fault) = failure := by
  rw [mapError_eq_error_iff, parseDocument]
  cases schema.ofText text <;> simp

theorem hosts_eq_error_iff {text : String} {failure : Failure} :
    (Hosts.ofText text).mapError .input = .error failure ↔ Part.hosts.Refuses text failure := by
  rw [Hosts.ofText, parseDocument_eq_error_iff]
  constructor
  · rintro ⟨fault, hfault, rfl⟩
    exact .hosts hfault
  · intro h
    cases h with
    | hosts hfault => exact ⟨_, hfault, rfl⟩

theorem services_eq_error_iff {text : String} {failure : Failure} :
    (Services.ofText text).mapError .input = .error failure ↔
      Part.services.Refuses text failure := by
  rw [Services.ofText, parseDocument_eq_error_iff]
  constructor
  · rintro ⟨fault, hfault, rfl⟩
    exact .services hfault
  · intro h
    cases h with
    | services hfault => exact ⟨_, hfault, rfl⟩

theorem recommendations_eq_error_iff {text : String} {failure : Failure} :
    (recommendedDefaults text).mapError .json = .error failure ↔
      Part.recommendations.Refuses text failure := by
  rw [mapError_eq_error_iff]
  constructor
  · rintro ⟨fault, hfault, rfl⟩
    exact .recommendations hfault
  · intro h
    cases h with
    | recommendations hfault => exact ⟨_, hfault, rfl⟩

/-- The two stages of a document: one of them is the first with a fault, or the document is there
and nothing has been wrong so far. -/
theorem document_cases {α : Type} (part : Part) {parse : String → Except Failure α}
    (hpath : part.path? args.files = some path)
    (hparse : ∀ text failure, parse text = .error failure ↔ part.Refuses text failure)
    (hclear : Clear args settings files (Stage.read part).place) :
    (∃ stage failure, FirstFault args settings files stage failure ∧
        (readText files path >>= parse) = .error failure) ∨
      ∃ a, (readText files path >>= parse) = .ok a ∧
        Clear args settings files ((Stage.parse part).place + 1) := by
  rcases unreadable_or_text files path with hunreadable | ⟨text, htext⟩
  · refine Or.inl ⟨.read part, .file "read" path, ⟨.read hpath hunreadable, hclear⟩, ?_⟩
    rw [readText_of_unreadable hunreadable, error_bind]
  rw [readText_toUTF8 htext, ok_bind]
  -- As there is a text, the first of the two stages has nothing wrong.
  have hread : Clear args settings files (Stage.parse part).place := by
    rw [Stage.place_parse]
    apply hclear.succ
    rintro failure (⟨hpath', hunreadable⟩)
    obtain rfl := Option.some.inj (hpath.symm.trans hpath')
    exact not_unreadable htext hunreadable
  cases hparsed : parse text with
  | error failure =>
    exact Or.inl ⟨.parse part, failure, ⟨.parse hpath htext ((hparse _ _).mp hparsed), hread⟩, rfl⟩
  | ok a =>
    refine Or.inr ⟨a, rfl, hread.succ ?_⟩
    intro failure hfails
    cases hfails with
    | parse hpath' htext' hrefused =>
      obtain rfl := Option.some.inj (hpath.symm.trans hpath')
      obtain rfl := text_unique htext htext'
      rw [(hparse _ _).mpr hrefused] at hparsed
      cases hparsed

/-- One bind for each document, in the order in which their faults are told. -/
theorem load_eq (paths : RequestFiles) (files : Files) :
    paths.load files =
      (readText files paths.hosts >>= fun text => (Hosts.ofText text).mapError .input) >>=
        fun hosts =>
      (readText files paths.services >>= fun text => (Services.ofText text).mapError .input) >>=
        fun services =>
      paths.recommendations.elim (.ok ⟨services, hosts, none, .null⟩) fun path =>
        (readText files path >>= fun text => (recommendedDefaults text).mapError .json) >>=
          fun defaults => .ok ⟨services, hosts, some defaults, .null⟩ := by
  unfold RequestFiles.load
  cases paths.recommendations <;> simp only [bind_assoc] <;> rfl

/-- Recommendations that are not asked for have nothing wrong. -/
theorem Clear.unasked (hnone : args.files.recommendations = none)
    (h : Clear args settings files (Stage.read .recommendations).place) :
    Clear args settings files Stage.act.place := by
  have hread : Clear args settings files (Stage.parse .recommendations).place := by
    apply h.succ
    intro failure hfails
    cases hfails with
    | read hpath _ =>
      rw [Part.path?, hnone] at hpath
      cases hpath
  apply hread.succ
  intro failure hfails
  cases hfails with
  | parse hpath _ _ =>
    rw [Part.path?, hnone] at hpath
    cases hpath

/-- Loading reports the first fault in the documents, if there is one. -/
theorem firstFault_or_loaded (args : Arguments) (settings : Settings) (files : Files) :
    (∃ stage failure, FirstFault args settings files stage failure ∧
        args.files.load files = .error failure) ∨
      ∃ request, args.files.load files = .ok request ∧
        Clear args settings files Stage.act.place := by
  rw [load_eq]
  rcases document_cases .hosts rfl (fun _ _ => hosts_eq_error_iff) clear_zero with
    ⟨stage, failure, hfirst, hhosts⟩ | ⟨hosts, hhosts, hclear⟩
  · rw [hhosts, error_bind]
    exact Or.inl ⟨stage, failure, hfirst, rfl⟩
  rw [hhosts, ok_bind]
  rcases document_cases .services rfl (fun _ _ => services_eq_error_iff) hclear with
    ⟨stage, failure, hfirst, hservices⟩ | ⟨services, hservices, hclear⟩
  · rw [hservices, error_bind]
    exact Or.inl ⟨stage, failure, hfirst, rfl⟩
  rw [hservices, ok_bind]
  cases hrecommendations : args.files.recommendations with
  | none => exact Or.inr ⟨_, rfl, hclear.unasked hrecommendations⟩
  | some path =>
    rw [Option.elim_some]
    rcases document_cases .recommendations hrecommendations
      (fun _ _ => recommendations_eq_error_iff) hclear with
      ⟨stage, failure, hfirst, hdefaults⟩ | ⟨defaults, hdefaults, hclear⟩
    · rw [hdefaults, error_bind]
      exact Or.inl ⟨stage, failure, hfirst, rfl⟩
    · rw [hdefaults, ok_bind]
      exact Or.inr ⟨_, rfl, hclear⟩

theorem answer_result (args : Arguments) (settings : Settings) (files : Files) :
    (answer args settings files).result =
      args.files.load files >>= fun request => request.answer settings args.action := by
  unfold answer
  cases args.files.load files <;> rfl

/-- A run reports the first fault, and answers only if nothing is wrong. -/
theorem firstFault_or_answered (args : Arguments) (settings : Settings) (files : Files) :
    (∃ stage failure, FirstFault args settings files stage failure ∧
        (answer args settings files).result = .error failure) ∨
      ∃ response, (answer args settings files).result = .ok response ∧
        Clear args settings files (Stage.act.place + 1) := by
  rw [answer_result]
  rcases firstFault_or_loaded args settings files with
    ⟨stage, failure, hfirst, hload⟩ | ⟨request, hload, hclear⟩
  · rw [hload, error_bind]
    exact Or.inl ⟨stage, failure, hfirst, rfl⟩
  rw [hload, ok_bind]
  cases hanswer : request.answer settings args.action with
  | error failure => exact Or.inl ⟨.act, failure, ⟨.act hload hanswer, hclear⟩, rfl⟩
  | ok response =>
    refine Or.inr ⟨response, rfl, hclear.succ ?_⟩
    intro failure hfails
    cases hfails with
    | act hload' hanswer' =>
      obtain rfl := Except.ok.inj (hload.symm.trans hload')
      rw [hanswer] at hanswer'
      cases hanswer'

/-- The fault that is told is the first one there is. -/
theorem result_eq_error_iff {failure : Failure} :
    (answer args settings files).result = .error failure ↔
      ∃ stage, FirstFault args settings files stage failure := by
  rcases firstFault_or_answered args settings files with
    ⟨stage, found, hfirst, hresult⟩ | ⟨response, hresult, hclear⟩
  · rw [hresult]
    constructor
    · rintro ⟨⟩
      exact ⟨stage, hfirst⟩
    · rintro ⟨stage', hfirst'⟩
      rw [hfirst.unique hfirst']
  · rw [hresult]
    constructor
    · rintro ⟨⟩
    · rintro ⟨stage, hfirst⟩
      exact absurd hfirst.fails (hclear stage stage.place_lt failure)

theorem exists_response_iff :
    (∃ response, (answer args settings files).result = .ok response) ↔
      ∀ stage failure, ¬ Fails args settings files stage failure := by
  rcases firstFault_or_answered args settings files with
    ⟨stage, failure, hfirst, hresult⟩ | ⟨response, hresult, hclear⟩
  · constructor
    · rintro ⟨response, hanswered⟩
      rw [hresult] at hanswered
      cases hanswered
    · intro hnothing
      exact absurd hfirst.fails (hnothing stage failure)
  · exact ⟨fun _ stage => hclear stage stage.place_lt, fun _ => ⟨response, hresult⟩⟩

/-- A fault is told whatever the outlet is: where an answer goes is looked at only if there is one.
-/
theorem finish_of_fault {a : Answer} {failure : Failure} (h : a.result = .error failure)
    (args : Arguments) (filter : Log.Filter) (outlets : Outlets) :
    finish args filter a outlets = broken args filter a.events failure := by
  have htext : a.text? = .error failure := by
    rw [Answer.text?, h]
    rfl
  rw [finish, htext]

/-- An answer is given only if the recommendations that are asked for have been loaded. -/
theorem recommendations_of_answered {response : Response}
    (h : (answer args settings files).result = .ok response)
    (hpath : args.files.recommendations = some path) :
    ∃ (text : String) (defaults : Configurations), files path = some text.toUTF8 ∧
      recommendedDefaults text = .ok defaults := by
  rw [answer_result, bind_eq_ok_iff] at h
  obtain ⟨request, hload, _⟩ := h
  obtain ⟨_, _, hdefaults, _⟩ := RequestFiles.load_eq_ok_iff.mp hload
  rw [hpath, Option.elim_some] at hdefaults
  obtain ⟨text, defaults, htext, hread, _⟩ := hdefaults
  exact ⟨text, defaults, readText_eq_ok_iff.mp htext, hread⟩

/-! ### What a fault depends on -/

/-- The documents that two runs read up to a stage are in the same places and hold the same, and the
action is the same if the stage is its own. -/
structure SameUpTo (stage : Stage) (args : Arguments) (files : Files) (args' : Arguments)
    (files' : Files) : Prop where
  path : ∀ part : Part, (Stage.read part).place ≤ stage.place →
    part.path? args'.files = part.path? args.files
  content : ∀ part : Part, (Stage.read part).place ≤ stage.place →
    ∀ path ∈ part.path? args.files, files' path = files path
  action : stage = .act → args'.action = args.action

section

variable {args' : Arguments} {settings' : Settings} {files' : Files} {stage : Stage}
  {failure : Failure}

theorem SameUpTo.symm (h : SameUpTo stage args files args' files') :
    SameUpTo stage args' files' args files where
  path := fun part hpart => (h.path part hpart).symm
  content := by
    intro part hpart path hpath
    rw [h.path part hpart] at hpath
    exact (h.content part hpart path hpath).symm
  action := fun hact => (h.action hact).symm

/-- Runs that agree up to a stage agree up to each earlier one. -/
theorem SameUpTo.mono {earlier : Stage} (h : SameUpTo stage args files args' files')
    (hearlier : earlier.place ≤ stage.place) : SameUpTo earlier args files args' files' where
  path := fun part hpart => h.path part (Nat.le_trans hpart hearlier)
  content := fun part hpart => h.content part (Nat.le_trans hpart hearlier)
  action := by
    rintro rfl
    apply h.action
    apply Stage.place_inj
    exact Nat.le_antisymm (Nat.le_of_lt_succ stage.place_lt) hearlier

theorem readText_congr {path path' : String} (hpath : path' = path)
    (hcontent : files' path = files path) : readText files' path' = readText files path := by
  rw [readText, readText, hpath, hcontent]

theorem SameUpTo.load_eq (h : SameUpTo .act args files args' files') :
    args'.files.load files' = args.files.load files := by
  have hhosts : readText files' args'.files.hosts = readText files args.files.hosts :=
    readText_congr (Option.some.inj (h.path .hosts (by decide)))
      (h.content .hosts (by decide) _ rfl)
  have hservices : readText files' args'.files.services = readText files args.files.services :=
    readText_congr (Option.some.inj (h.path .services (by decide)))
      (h.content .services (by decide) _ rfl)
  have hpath : args'.files.recommendations = args.files.recommendations :=
    h.path .recommendations (by decide)
  rw [CommandLine.load_eq, CommandLine.load_eq, hhosts, hservices, hpath]
  cases hrecommendations : args.files.recommendations with
  | none => rfl
  | some path =>
    have hdefaults : readText files' path = readText files path :=
      readText_congr rfl (h.content .recommendations (by decide) path hrecommendations)
    simp only [Option.elim_some, hdefaults]

/-- The settings decide which findings there are, but never whether there is an answer. -/
theorem answer_eq_error_of_settings {request : Request} {action : Action}
    (h : request.answer settings action = .error failure) (settings' : Settings) :
    request.answer settings' action = .error failure := by
  cases action with
  | validateLayout => exact h
  | validateConfigurations => cases h
  | recommendConfigurations => exact h

/-- What is wrong in a stage depends on what has been read up to it, and not on the settings. -/
theorem Fails.of_same (h : SameUpTo stage args files args' files') (settings' : Settings)
    (hfails : Fails args settings files stage failure) :
    Fails args' settings' files' stage failure := by
  cases hfails with
  | @read part path hpath hunreadable =>
    have hcontent := h.content part (Nat.le_refl _) path hpath
    refine .read ((h.path part (Nat.le_refl _)).trans hpath) ?_
    rwa [Unreadable, hcontent]
  | @parse part path text _ hpath htext hrefused =>
    have hplace : (Stage.read part).place ≤ (Stage.parse part).place := by
      rw [Stage.place_parse]
      exact Nat.le_succ _
    have hcontent := h.content part hplace path hpath
    exact .parse ((h.path part hplace).trans hpath) (hcontent.trans htext) hrefused
  | act hload hanswer =>
    refine .act (h.load_eq.trans hload) ?_
    rw [h.action rfl]
    exact answer_eq_error_of_settings hanswer settings'

/-- Documents that come later cannot change which fault is the first. -/
theorem FirstFault.of_same (h : SameUpTo stage args files args' files') (settings' : Settings)
    (hfirst : FirstFault args settings files stage failure) :
    FirstFault args' settings' files' stage failure where
  fails := hfirst.fails.of_same h settings'
  clear := by
    intro earlier hearlier other hother
    -- A fault of the other run in an earlier stage would be one of this run, too.
    have hback := (h.mono (Nat.le_of_lt hearlier)).symm
    exact hfirst.clear earlier hearlier other (hother.of_same hback settings)

end

/-- What a run tells of what is wrong. -/
structure FaultVerdict (args : Arguments) (settings : Settings) (files : Files) : Prop where
  reported : ∀ failure, (answer args settings files).result = .error failure ↔
    ∃ stage, FirstFault args settings files stage failure
  answered : (∃ response, (answer args settings files).result = .ok response) ↔
    ∀ stage failure, ¬ Fails args settings files stage failure
  /-- The run breaks off with the fault, whatever it logs and wherever it would have written. -/
  shown : ∀ failure, (answer args settings files).result = .error failure →
    ∀ filter outlets, ∃ events,
      finish args filter (answer args settings files) outlets = broken args filter events failure
  /-- Nothing that comes after the fault has a part in it. -/
  later : ∀ stage failure, FirstFault args settings files stage failure →
    ∀ args' settings' files', SameUpTo stage args files args' files' →
      (answer args' settings' files').result = .error failure
  /-- Recommendations that are asked for have to load, also for an action without a use for them. -/
  recommendations : ∀ path, args.files.recommendations = some path →
    ∀ response, (answer args settings files).result = .ok response →
      ∃ (text : String) (defaults : Configurations), files path = some text.toUTF8 ∧
        recommendedDefaults text = .ok defaults

/-- The first fault of a run is the one that is reported: in the documents in the order of hosts,
services and recommendations, each being read and then understood, and behind them in the action. -/
theorem first_fault (args : Arguments) (settings : Settings) (files : Files) :
    FaultVerdict args settings files where
  reported := fun failure => result_eq_error_iff
  answered := exists_response_iff
  shown := by
    intro failure hresult filter outlets
    exact ⟨(answer args settings files).events, finish_of_fault hresult args filter outlets⟩
  later := by
    intro stage failure hfirst args' settings' files' hsame
    rw [result_eq_error_iff]
    exact ⟨stage, hfirst.of_same hsame settings'⟩
  recommendations := by
    intro path hpath response hresult
    exact recommendations_of_answered hresult hpath

/-- Hosts that are no document are told before services that are not there. -/
example :
    (answer ⟨.validateLayout, ⟨"hosts", "services", none⟩, none, none, none⟩ Settings.default
        fun path => if path = "hosts" then some "[".toUTF8 else none).result =
      .error (.input (.deserialization "hosts document: EOF while parsing a list")) := by
  rfl

end CommandLine

end ClusterAdvisor
