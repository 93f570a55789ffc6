import ClusterAdvisor.Proofs.ConfigurationCheck
import ClusterAdvisor.Proofs.RecordMembers
import ClusterAdvisor.Proofs.Rewrites
import ClusterAdvisor.Request

/-!
Items and their JSON form. The members that tell an item may stand in any order and among others:
level and message are taken out first, then the kind of the target, then the two members that this
kind has. Nothing else is looked at, but unlike an unknown member of a record it is read as a value.
-/

namespace ClusterAdvisor

open Json

/-! ### Two members among others -/

section awaits

variable {α β γ : Type} {first second : String × γ} {a : α} {b : β}

/-- Two members are still to come, each exactly once, unless what they hold has been found. -/
inductive Awaits (first second : String × γ) (a : α) (b : β) :
    Option α → Option β → List (String × γ) → Prop where
  | done : Awaits first second a b (some a) (some b) []
  | first {found : Option β} {ms : List (String × γ)}
      (h : Awaits first second a b (some a) found ms) :
      Awaits first second a b none found (first :: ms)
  | second {found : Option α} {ms : List (String × γ)}
      (h : Awaits first second a b found (some b) ms) :
      Awaits first second a b found none (second :: ms)
  | other {one : Option α} {two : Option β} {m : String × γ} {ms : List (String × γ)}
      (hfirst : m.1 ≠ first.1) (hsecond : m.1 ≠ second.1)
      (h : Awaits first second a b one two ms) : Awaits first second a b one two (m :: ms)

/-- What is still to come of a member, given what has been found of it. -/
def Remaining (m : String × γ) (a : α) (found : Option α) (ms : List (String × γ)) : Prop :=
  found = none ∧ valuesAt m.1 ms = [m.2] ∨ found = some a ∧ valuesAt m.1 ms = []

/-- A member with another key changes nothing about what is still to come. -/
theorem Remaining.other {m n : String × γ} {found : Option α} {ms : List (String × γ)}
    (h : Remaining m a found (n :: ms)) (hne : n.1 ≠ m.1) : Remaining m a found ms := by
  unfold Remaining at h ⊢
  rwa [valuesAt_cons_other hne] at h

/-- The member that was still to come is there once, and holds what it has to hold. -/
theorem Remaining.self {m : String × γ} {v : γ} {found : Option α} {ms : List (String × γ)}
    (h : Remaining m a found ((m.1, v) :: ms)) :
    found = none ∧ v = m.2 ∧ Remaining m a (some a) ms := by
  unfold Remaining at h ⊢
  rw [valuesAt_cons_self] at h
  rcases h with ⟨rfl, hvalues⟩ | ⟨-, hvalues⟩
  · obtain ⟨rfl, hothers⟩ := List.cons_eq_cons.mp hvalues
    exact ⟨rfl, rfl, .inr ⟨rfl, hothers⟩⟩
  · cases hvalues

/-- By induction over the members: each of them is one of the two, or has another key. -/
theorem awaits_of_remaining (hne : first.1 ≠ second.1) {ms : List (String × γ)} {one : Option α}
    {two : Option β} (hone : Remaining first a one ms) (htwo : Remaining second b two ms) :
    Awaits first second a b one two ms := by
  induction ms generalizing one two with
  | nil =>
    rcases hone with ⟨-, hvalues⟩ | ⟨rfl, -⟩
    · cases hvalues
    · rcases htwo with ⟨-, hvalues⟩ | ⟨rfl, -⟩
      · cases hvalues
      · exact .done
  | cons m ms ih =>
    obtain ⟨key, v⟩ := m
    by_cases hfirst : key = first.1
    · subst hfirst
      obtain ⟨rfl, rfl, hleft⟩ := hone.self
      exact .first (ih hleft (htwo.other hne))
    · by_cases hsecond : key = second.1
      · subst hsecond
        obtain ⟨rfl, rfl, hleft⟩ := htwo.self
        exact .second (ih (hone.other hfirst) hleft)
      · exact .other hfirst hsecond (ih (hone.other hfirst) (htwo.other hsecond))

/-- Members that hold the value of either key once. -/
theorem awaits_of_values (hne : first.1 ≠ second.1) {ms : List (String × γ)}
    (hfirst : valuesAt first.1 ms = [first.2]) (hsecond : valuesAt second.1 ms = [second.2]) :
    Awaits first second a b none none ms :=
  awaits_of_remaining hne (.inl ⟨rfl, hfirst⟩) (.inl ⟨rfl, hsecond⟩)

end awaits

/-! ### Targets -/

namespace Target

theorem foldMembers_notePart {keys : String × String} {a b : String} {one two : Option String}
    {ms : List (String × Value)} (hne : keys.1 ≠ keys.2)
    (h : Awaits (keys.1, .text a) (keys.2, .text b) a b one two ms) :
    foldMembers (notePart keys) (one, two) ms = .ok (some a, some b) := by
  induction h with
  | done => rfl
  | first _ ih =>
    rw [foldMembers, notePart, if_pos rfl]
    exact ih
  | second _ ih =>
    rw [foldMembers, notePart, if_neg (Ne.symm hne), if_pos rfl]
    exact ih
  | other hfirst hsecond _ ih =>
    rw [foldMembers, notePart, if_neg hfirst, if_neg hsecond]
    exact ih

theorem Kind.ofValue_name (kind : Kind) : Kind.ofValue (.text kind.name) = .ok kind := by
  cases kind with
  | hostComponent => rfl
  | configuration => rfl

theorem Kind.keys_ne (kind : Kind) : kind.keys.1 ≠ kind.keys.2 := by
  cases kind with
  | hostComponent => decide
  | configuration => decide

theorem target_parts (t : Target) : t.kind.target t.parts.1 t.parts.2 = t := by
  cases t with
  | hostComponent component host => rfl
  | configuration site property => rfl

/-- A target is told by any members that hold its own three once. -/
theorem ofMembers_of_values {t : Target} {ms : List (String × Value)}
    (h : ∀ m ∈ t.members, valuesAt m.1 ms = [m.2]) : ofMembers ms = .ok t := by
  obtain ⟨htype, hfirst, hsecond, -⟩ : valuesAt "type" ms = [.text t.kind.name] ∧
      valuesAt t.kind.keys.1 ms = [.text t.parts.1] ∧
      valuesAt t.kind.keys.2 ms = [.text t.parts.2] ∧ True := by
    simpa [members] using h
  have hawaits : Awaits (t.kind.keys.1, .text t.parts.1) (t.kind.keys.2, .text t.parts.2)
      t.parts.1 t.parts.2 none none ms :=
    awaits_of_values t.kind.keys_ne hfirst hsecond
  rw [ofMembers, map_filter_eq_valuesAt, htype]
  simp only [Kind.ofValue_name, List.isEmpty_nil, Bool.not_true, Bool.false_eq_true, if_false,
    foldMembers_notePart t.kind.keys_ne hawaits, target_parts]

end Target

namespace Item

/-! ### Items as values -/

theorem ofValue_level (level : Severity) :
    Severity.schema.ofValue (.text level.name) = .ok level := by
  cases level with
  | error => rfl
  | warning => rfl

/-- Level and message are taken from among the members; what is left of these keeps its order, as
the target is told by it. -/
theorem foldMembers_noteMember {level : Severity} {message : String} {one : Option Severity}
    {two : Option String} {ms others : List (String × Value)}
    (h : Awaits ("level", .text level.name) ("message", .text message) level message one two ms) :
    foldMembers noteMember ⟨one, two, others⟩ ms =
      .ok ⟨some level, some message, others ++ without "message" (without "level" ms)⟩ := by
  induction h generalizing others with
  | done => simp [foldMembers, without]
  | first _ ih =>
    rw [foldMembers, noteMember, if_pos rfl, ofValue_level, without_cons_self]
    exact ih
  | second _ ih =>
    rw [foldMembers, noteMember, if_neg (by decide), if_pos rfl, without_cons_other (by decide),
      without_cons_self]
    exact ih
  | @other _ _ m _ hfirst hsecond _ ih =>
    obtain ⟨key, v⟩ := m
    rw [foldMembers, noteMember, if_neg hfirst, if_neg hsecond, without_cons_other hfirst,
      without_cons_other hsecond]
    exact ih.trans (by simp)

theorem keysOf_members (item : Item) : keysOf item.members =
    ["level", "message", "type", item.target.kind.keys.1, item.target.kind.keys.2] :=
  rfl

/-- No key of a target is one of the other three, so the members can be told by key in any order. -/
theorem nodup_keysOf_members (item : Item) : (keysOf item.members).Nodup := by
  rw [keysOf_members]
  cases item.target.kind with
  | hostComponent => decide
  | configuration => decide

/-- An item is told by any members that hold its own five once. -/
theorem ofValue_of_values {item : Item} {ms : List (String × Value)}
    (h : ∀ m ∈ item.members, valuesAt m.1 ms = [m.2]) : ofValue (.object ms) = .ok item := by
  obtain ⟨hlevel, hrest⟩ := List.forall_mem_cons.mp h
  obtain ⟨hmessage, htarget⟩ := List.forall_mem_cons.mp hrest
  have hkeys := item.nodup_keysOf_members
  -- The target is looked for in what level and message leave, which still has its own members.
  have hothers : ∀ m ∈ item.target.members,
      valuesAt m.1 (without "message" (without "level" ms)) = [m.2] := by
    intro m hm
    have hkey : m.1 ∈ keysOf item.target.members := List.mem_map.mpr ⟨m, hm, rfl⟩
    obtain ⟨hnoLevel, hleft⟩ := List.nodup_cons.mp hkeys
    obtain ⟨hnoMessage, -⟩ := List.nodup_cons.mp hleft
    have hneLevel : m.1 ≠ "level" := fun heq => hnoLevel (List.mem_cons_of_mem _ (heq ▸ hkey))
    have hneMessage : m.1 ≠ "message" := fun heq => hnoMessage (heq ▸ hkey)
    rw [valuesAt_without hneMessage, valuesAt_without hneLevel]
    exact htarget m hm
  have hawaits : Awaits ("level", .text item.level.name) ("message", .text item.message)
      item.level item.message none none ms :=
    awaits_of_values (show "level" ≠ "message" by decide) hlevel hmessage
  rw [ofValue, foldMembers_noteMember hawaits]
  simp only [Except.bind, ofDraft, List.nil_append, Target.ofMembers_of_values hothers]
  rfl

/-- The members of an item tell it in any order, with others in between that have other keys. -/
theorem ofValue_of_perm {item : Item} {members further : List (String × Value)}
    (hperm : members.Perm (item.members ++ further))
    (hnew : ∀ m ∈ further, m.1 ∉ keysOf item.members) : ofValue (.object members) = .ok item :=
  ofValue_of_values fun _ hm => valuesAt_among hperm hnew item.nodup_keysOf_members hm

/-- Sorting is one of the orders in which an item can be told. -/
theorem perm_sortEntries_members (item : Item) :
    (sortEntries item.members).Perm (item.members ++ []) := by
  rw [List.append_nil]
  exact perm_sortEntries item.nodup_keysOf_members

theorem ofValue_toValue (item : Item) : ofValue item.toValue = .ok item :=
  ofValue_of_perm item.perm_sortEntries_members fun m hm => by cases hm

theorem listOfValue_toValue (items : List Item) :
    listOfValue (.array (items.map toValue)) = .ok items :=
  convertAll_map_ok fun item _ => item.ofValue_toValue

/-! ### Items as texts -/

theorem uniform_step {room : Nat} {key : String} {found : Draft} {reader : Reader Draft}
    (h : step room key found = .ok reader) {v : List Char} (hv : WellFormed v) :
    reader.Uniform v := by
  unfold step at h
  split at h
  · split at h
    · cases h
    · cases h
      exact (Severity.schema.uniform room v hv).map _
  · split at h
    · split at h
      · cases h
      · cases h
        exact (Reader.uniform_text hv).map _
    · cases h
      exact (Reader.uniform_value room hv).map _

/-- There is room for the value, and if it is looked at no key occurs twice in it. -/
def Readable (room : Nat) (m : String × Value) : Prop :=
  m.2.depth ≤ room ∧ (m.1 ∈ ["level", "message"] → m.2.DistinctKeys)

/-- The text of a member is read as its value is taken note of. -/
theorem putText_step {room : Nat} {found : Draft} {key : String} {v : Value} {text : List Char}
    (hreadable : Readable room (key, v)) (hspells : Spells v text) :
    Reader.putText (step room) found (key, text) = (noteMember found key v.sorted).toOption := by
  obtain ⟨hdepth, hdistinct⟩ := hreadable
  rw [Reader.putText, step, noteMember]
  by_cases hlevel : key = "level"
  · rw [if_pos hlevel, if_pos hlevel]
    cases found.level with
    | some level => rfl
    | none =>
      have hagrees := Severity.schema.agrees room v ⟨hdepth, hdistinct (by simp [hlevel])⟩
      simp [Reader.whole_map, hagrees.whole_eq hspells]
  · rw [if_neg hlevel, if_neg hlevel]
    by_cases hmessage : key = "message"
    · rw [if_pos hmessage, if_pos hmessage]
      cases found.message with
      | some message => rfl
      | none => simp [Reader.whole_map, (Reader.agrees_text v).whole_eq hspells]
    · rw [if_neg hmessage, if_neg hmessage]
      have hvalue := (Reader.agrees_value room v).whole_eq hspells
      rw [toOption_within, if_pos hdepth] at hvalue
      simp [Reader.whole_map, hvalue]

/-- The members of an object are read in the order of the document. -/
theorem reads_draftReader {room : Nat} {ds : List (String × List Char)} {v : List Char}
    (h : ObjectText ds v) : (draftReader (room + 1)).Reads v
      (ds.foldlM (Reader.putText (step room)) ⟨none, none, []⟩) :=
  Reader.reads_object_keyed (fun _ _ _ hstep _ hw => uniform_step hstep hw) h

/-- Reading an item off a text is noting its members one after the other, as for a value that was
read as a whole. -/
theorem agrees_draftReader {room : Nat} {members : List (String × Value)}
    (hreadable : ∀ m ∈ members, Readable room m) :
    (draftReader (room + 1)).Agrees (.object members)
      (foldMembers noteMember ⟨none, none, []⟩ (members.map fun m => (m.1, m.2.sorted))) := by
  refine Reader.agrees_of_reads fun text hspells => ?_
  obtain ⟨ds, hobject, hentries⟩ := hspells.exists_objectText
  have hfold : ds.foldlM (Reader.putText (step room)) ⟨none, none, []⟩ =
      (foldMembers (fun found key v => noteMember found key v.sorted) ⟨none, none, []⟩
        members).toOption := by
    refine foldlM_eq_foldMembers (P := fun _ members => ∀ m ∈ members, Readable room m) ?_ ?_
      hreadable hentries
    · exact fun found key v members text hall htext =>
        putText_step (hall _ List.mem_cons_self) htext
    · exact fun found key v members next hall _ m hm => hall m (List.mem_cons_of_mem _ hm)
  rw [foldMembers_map Value.sorted, ← hfold]
  exact reads_draftReader hobject

theorem toOption_ofText (text : String) :
    (ofText text).toOption =
      ((draftReader depthLimit).document text).toOption.bind
        fun found => (ofDraft found).toOption := by
  rw [ofText, Reader.document]
  cases (draftReader depthLimit).run text.toList with
  | error fault => rfl
  | ok found =>
    obtain ⟨found, rest⟩ := found
    by_cases hrest : (skipSpace rest).isEmpty = true
    · simp only [hrest, if_true, toOption_ok, Option.bind_some]
      cases ofDraft found with
      | error fault => rfl
      | ok item => rfl
    · simp only [hrest]
      cases ofDraft found with
      | error fault => rfl
      | ok item => rfl

/-- A text that spells an object is read as the item that its members stand for. -/
theorem toOption_ofText_spelled {text : String} {members : List (String × Value)}
    (hspelled : Spelled text (.object members))
    (hreadable : ∀ m ∈ members, Readable (depthLimit - 1) m) :
    (ofText text).toOption =
      (ofValue (.object (members.map fun m => (m.1, m.2.sorted)))).toOption := by
  have hread : ((draftReader depthLimit).document text).toOption = _ :=
    (agrees_draftReader hreadable).document hspelled
  rw [toOption_ofText, hread, ofValue, toOption_bind]

theorem exists_text_of_mem_members {item : Item} {m : String × Value} (h : m ∈ item.members) :
    ∃ s, m.2 = .text s := by
  simp only [members, Target.members, List.mem_cons, List.not_mem_nil, or_false] at h
  rcases h with rfl | rfl | rfl | rfl | rfl
  all_goals exact ⟨_, rfl⟩

/-- A text that spells the members of an item is read as the item, whatever their order and whatever
else stands between them, as long as that can be read and has other keys. -/
theorem ofText_of_perm {item : Item} {members further : List (String × Value)} {text : String}
    (hperm : members.Perm (item.members ++ further))
    (hfurther : ∀ m ∈ further, m.1 ∉ keysOf item.members ∧ m.2.depth < depthLimit)
    (hspelled : Spelled text (.object members)) : ofText text = .ok item := by
  -- Level and message are texts, so only the others could be too deep, and these are not.
  have hreadable : ∀ m ∈ members, Readable (depthLimit - 1) m := by
    intro m hm
    rcases List.mem_append.mp (hperm.mem_iff.mp hm) with hown | hother
    · obtain ⟨s, hs⟩ := exists_text_of_mem_members hown
      rw [Readable, hs]
      exact ⟨Nat.zero_le _, fun _ => (Value.tidy_text s).distinct⟩
    · obtain ⟨hnew, hdepth⟩ := hfurther m hother
      refine ⟨Nat.le_sub_one_of_lt hdepth, fun hkey => absurd ?_ hnew⟩
      rw [keysOf_members]
      exact List.mem_of_mem_take (i := 2) hkey
  have hown : item.members.map (fun m => (m.1, m.2.sorted)) = item.members := rfl
  have hsorted := hperm.map fun m => (m.1, m.2.sorted)
  rw [List.map_append, hown] at hsorted
  have hvalue : ofValue (.object (members.map fun m => (m.1, m.2.sorted))) = .ok item :=
    ofValue_of_perm hsorted (List.forall_mem_map.mpr fun m hm => (hfurther m hm).1)
  apply eq_ok_of_toOption
  rw [toOption_ofText_spelled hspelled hreadable, hvalue]
  rfl

theorem holdsNoReal_members (item : Item) : (Value.object item.members).HoldsNoReal := by
  refine Value.holdsNoReal_object fun m hm => ?_
  obtain ⟨s, hs⟩ := exists_text_of_mem_members hm
  rw [hs]
  exact (Value.tidy_text s).noReal

theorem ofText_toText (item : Item) : ofText item.toText = .ok item := by
  have hperm : item.members.Perm (item.members ++ []) := by rw [List.append_nil]
  exact ofText_of_perm hperm (fun m hm => by cases hm)
    (spelled_of_mem_layouts item.holdsNoReal_members List.mem_cons_self)

/-! ### Items in an answer -/

theorem tidy_toValue (item : Item) : item.toValue.Tidy := by
  refine Value.tidy_object_iff.mpr ⟨(ascending_sortEntries _).nodup_keysOf, fun m hm => ?_⟩
  obtain ⟨s, hs⟩ := exists_text_of_mem_members (mem_of_mem_sortEntries hm)
  rw [hs]
  exact Value.tidy_text s

theorem depth_toValue_le (item : Item) : item.toValue.depth ≤ 1 := by
  refine Value.depth_object_le_iff.mpr fun m hm => ?_
  obtain ⟨s, hs⟩ := exists_text_of_mem_members (mem_of_mem_sortEntries hm)
  rw [hs]
  exact Nat.le_refl 0

theorem sorted_toValue (item : Item) : item.toValue.sorted = item.toValue := by
  have hsorted : (Value.object item.members).sorted = item.toValue := Value.sorted_object _
  rw [← hsorted, Value.sorted_sorted]

/-- Either text of an item in an answer is read as the item. -/
theorem ofText_layout (item : Item) {layout : String}
    (h : layout ∈ [item.toValue.compact, item.toValue.pretty]) : ofText layout = .ok item :=
  ofText_of_perm item.perm_sortEntries_members (fun m hm => by cases hm)
    (spelled_of_mem_layouts item.tidy_toValue.noReal h)

end Item

namespace Response

variable (found : List Item)

theorem tidy_items : (Response.items found).toValue.Tidy := by
  refine Value.tidy_object_iff.mpr ⟨List.nodup_singleton _, List.forall_mem_singleton.mpr ?_⟩
  exact Value.tidy_array_iff.mpr (List.forall_mem_map.mpr fun item _ => item.tidy_toValue)

/-- An answer with items is never deep, so there is always room for reading it. -/
theorem depth_items_le : (Response.items found).toValue.depth ≤ 3 := by
  refine Value.depth_object_le_iff.mpr (List.forall_mem_singleton.mpr ?_)
  exact Value.depth_array_le_iff.mpr (List.forall_mem_map.mpr fun item _ => item.depth_toValue_le)

theorem sorted_items : (Response.items found).toValue.sorted = (Response.items found).toValue := by
  have hitems : (Value.array (found.map Item.toValue)).sorted =
      .array (found.map Item.toValue) := by
    rw [Value.sorted_array, List.map_map]
    exact congrArg Value.array (List.map_congr_left fun item _ => item.sorted_toValue)
  rw [toValue, Value.sorted_object, List.map_singleton, hitems]
  rfl

/-- Either text of an answer with items is read as the document of the answer. -/
theorem ofText_items {text : String}
    (h : text ∈ [(Response.items found).toValue.compact, (Response.items found).toValue.pretty]) :
    Value.ofText text = .ok (Response.items found).toValue :=
  (Value.ofText_eq_ok_iff (spelled_of_mem_layouts (tidy_items found).noReal h)).mpr
    ⟨Nat.le_trans (depth_items_le found) (by decide), sorted_items found⟩

end Response

/-- What a check answers is a list of items. -/
theorem Request.exists_items {r : Request} {settings : Settings} {action : Action}
    {response : Response} (haction : action.isValidation = true)
    (h : r.answer settings action = .ok response) : ∃ found, response = .items found := by
  cases action with
  | validateLayout =>
    rw [answer] at h
    cases hcheck : Rules.checkPlacement r.placement with
    | error failure =>
      rw [hcheck] at h
      cases h
    | ok found =>
      rw [hcheck] at h
      cases h
      exact ⟨found, rfl⟩
  | validateConfigurations =>
    cases h
    exact ⟨_, rfl⟩
  | recommendConfigurations => cases haction

/-- An item comes back from its members in any order and among others with other keys, as a value
and as a text, provided that there is room for the others and each of them can be read; so it comes
back from what is written of it, and the items of a check come back from the texts of the answer. -/
theorem items_read_back :
    (∀ (item : Item) (members further : List (String × Value)),
      members.Perm (item.members ++ further) → (∀ m ∈ further, m.1 ∉ keysOf item.members) →
      Item.ofValue (.object members) = .ok item ∧
      ∀ text : String, (∀ m ∈ further, m.2.depth < depthLimit) →
        Spelled text (.object members) → Item.ofText text = .ok item) ∧
    (∀ item : Item, Item.ofText item.toText = .ok item ∧ Item.ofValue item.toValue = .ok item) ∧
    ∀ (r : Request) (settings : Settings) (action : Action) (response : Response),
      action.isValidation = true →
      r.answer settings action = .ok response →
      ∃ found, response = .items found ∧
        ∀ text ∈ [response.toValue.compact, response.toValue.pretty], ∃ document values,
          Value.ofText text = .ok document ∧ document.member? "items" = some (.array values) ∧
          Item.listOfValue (.array values) = .ok found ∧
          List.Forall₂ (fun v item => ∀ layout ∈ [v.compact, v.pretty],
            Item.ofText layout = .ok item) values found := by
  refine ⟨fun item members further hperm hnew => ⟨Item.ofValue_of_perm hperm hnew, ?_⟩,
    fun item => ⟨item.ofText_toText, item.ofValue_toValue⟩, ?_⟩
  · intro text hdepth hspelled
    exact Item.ofText_of_perm hperm (fun m hm => ⟨hnew m hm, hdepth m hm⟩) hspelled
  · intro r settings action response haction hanswer
    obtain ⟨found, rfl⟩ := Request.exists_items haction hanswer
    refine ⟨found, rfl, fun text htext => ⟨_, found.map Item.toValue,
      Response.ofText_items found htext, rfl, Item.listOfValue_toValue found, ?_⟩⟩
    rw [List.forall₂_map_left_iff, List.forall₂_same]
    exact fun item _ layout hlayout => item.ofText_layout hlayout

def smallItem : Item := ⟨.error, "m", .configuration "a" "b"⟩

/-- Members of the other kind of target, one of them twice, and a member of no kind. -/
def strayMembers : List (String × Value) :=
  [("host", .null), ("note", .object [("x", .null), ("x", .array [])]), ("host", .text "h")]

def shuffledMembers : List (String × Value) :=
  [("host", .null), ("config-name", .text "b"), ("level", .text "ERROR"),
    ("note", .object [("x", .null), ("x", .array [])]), ("type", .text "configuration"),
    ("host", .text "h"), ("message", .text "m"), ("config-type", .text "a")]

theorem perm_shuffledMembers : shuffledMembers.Perm (smallItem.members ++ strayMembers) := by
  have hpositions : [5, 4, 0, 6, 2, 7, 1, 3].Perm [0, 1, 2, 3, 4, 5, 6, 7] := by decide
  exact hpositions.map ((smallItem.members ++ strayMembers)[·]!)

theorem holdsNoReal_shuffledMembers : (Value.object shuffledMembers).HoldsNoReal := by
  have hnull : Value.null.HoldsNoReal := by
    rintro x ⟨⟩
  have hempty : (Value.array []).HoldsNoReal := (Value.tidy_array_iff.mpr (by simp)).noReal
  have hnote : (Value.object [("x", .null), ("x", .array [])]).HoldsNoReal :=
    Value.holdsNoReal_object (by simp [hnull, hempty])
  have htext (s : String) : (Value.text s).HoldsNoReal := (Value.tidy_text s).noReal
  exact Value.holdsNoReal_object (by simp [shuffledMembers, hnull, hnote, htext])

theorem items_read_back_of_sparseRequest :
    shuffledMembers.Perm (smallItem.members ++ strayMembers) ∧
      (∀ m ∈ strayMembers, m.1 ∉ keysOf smallItem.members ∧ m.2.depth < depthLimit) ∧
      Spelled ("\x7b\"host\":null,\"config-name\":\"b\",\"level\":\"ERROR\"," ++
        "\"note\":\x7b\"x\":null,\"x\":[]\x7d,\"type\":\"configuration\",\"host\":\"h\"," ++
        "\"message\":\"m\",\"config-type\":\"a\"\x7d") (.object shuffledMembers) ∧
      Item.ofText ("\x7b\"host\":null,\"config-name\":\"b\",\"level\":\"ERROR\"," ++
        "\"note\":\x7b\"x\":null,\"x\":[]\x7d,\"type\":\"configuration\",\"host\":\"h\"," ++
        "\"message\":\"m\",\"config-type\":\"a\"\x7d") = .ok smallItem ∧
      ∃ found, found ≠ [] ∧
        sparseRequest.answer Settings.default .validateLayout = .ok (.items found) ∧
        ∃ document values, Value.ofText (Response.items found).toValue.pretty = .ok document ∧
          document.member? "items" = some (.array values) ∧
          Item.listOfValue (.array values) = .ok found := by
  have hstray : ∀ m ∈ strayMembers, m.1 ∉ keysOf smallItem.members ∧ m.2.depth < depthLimit := by
    decide
  have htext : "\x7b\"host\":null,\"config-name\":\"b\",\"level\":\"ERROR\"," ++
      "\"note\":\x7b\"x\":null,\"x\":[]\x7d,\"type\":\"configuration\",\"host\":\"h\"," ++
      "\"message\":\"m\",\"config-type\":\"a\"\x7d" = (Value.object shuffledMembers).compact := by
    decide +kernel
  have hspelled : Spelled (Value.object shuffledMembers).compact (.object shuffledMembers) :=
    spelled_of_mem_layouts holdsNoReal_shuffledMembers List.mem_cons_self
  obtain ⟨hshuffled, -, hanswers⟩ := items_read_back
  have hread := (hshuffled smallItem shuffledMembers strayMembers perm_shuffledMembers
    fun m hm => (hstray m hm).1).2 _ (fun m hm => (hstray m hm).2) hspelled
  obtain ⟨response, hanswer⟩ : ∃ response,
      sparseRequest.answer Settings.default .validateLayout = .ok response := ⟨_, rfl⟩
  obtain ⟨found, rfl, hdocument⟩ := hanswers sparseRequest Settings.default .validateLayout response
    rfl hanswer
  have hfound : found ≠ [] := by
    rintro rfl
    cases hanswer
  obtain ⟨document, values, hvalue, hmember, hitems, -⟩ := hdocument _ (pretty_mem_layouts _)
  rw [htext]
  exact ⟨perm_shuffledMembers, hstray, hspelled, hread, found, hfound, hanswer, document, values,
    hvalue, hmember, hitems⟩

/-! ### Members that cannot be read -/

/-- A step that is refused in every state refuses the whole, wherever it stands. -/
theorem foldlM_eq_none_of_mem {α σ : Type} {f : σ → α → Option σ} {as : List α} {a : α}
    (hmem : a ∈ as) (hnone : ∀ state, f state a = none) (state : σ) : as.foldlM f state = none := by
  induction as generalizing state with
  | nil => cases hmem
  | cons b as ih =>
    rw [List.foldlM_cons]
    rcases List.mem_cons.mp hmem with rfl | hothers
    · rw [hnone]
      rfl
    · cases f state b with
      | none => rfl
      | some next => exact ih hothers next

/-- One member that cannot be read refuses an item, whatever its key says. -/
theorem Item.toOption_ofText_of_unread {ds : List (String × List Char)} {key : String}
    {v : List Char} (hvalues : ∀ d ∈ ds, WellFormed d.2) (hmem : (key, v) ∈ ds)
    (hkey : key ∉ ["level", "message"]) (hunread : (Reader.value (depthLimit - 1)).whole v = none) :
    (Item.ofText (String.ofList (objectChars ds))).toOption = none := by
  have hput : ∀ found, Reader.putText (step (depthLimit - 1)) found (key, v) = none := by
    intro found
    simp only [List.mem_cons, List.not_mem_nil, or_false, not_or] at hkey
    rw [Reader.putText, step, if_neg hkey.1, if_neg hkey.2]
    simp [Reader.whole_map, hunread]
  have hframed : Framed (String.ofList (objectChars ds)) (objectChars ds) :=
    ⟨[], [], by simp, blank_nil, blank_nil⟩
  have hread : ((draftReader depthLimit).document (String.ofList (objectChars ds))).toOption =
      ds.foldlM (Reader.putText (step (depthLimit - 1))) ⟨none, none, []⟩ :=
    (reads_draftReader (objectText_objectChars hvalues)).document hframed
  rw [toOption_ofText, hread, foldlM_eq_none_of_mem hmem hput]
  rfl

def hugeMembers : List (String × List Char) :=
  [("level", textChars "ERROR"), ("message", textChars "m"), ("type", textChars "configuration"),
    ("config-type", textChars "a"), ("config-name", textChars "b"), ("note", "1e999".toList)]

theorem wellFormed_hugeMembers : ∀ d ∈ hugeMembers, WellFormed d.2 := by
  have hhuge := wellFormed_hugeNumber
  simp only [hugeMembers, List.forall_mem_cons, wellFormed_textChars, hhuge, true_and]
  exact fun d hd => by cases hd

/-- A number that is too large is written right, and no item has its key; but it is read, so it is
refused, and the item with it. -/
theorem item_refused_beside_hugeNumber :
    WellFormed "1e999".toList ∧ "note" ∉ keysOf smallItem.members ∧
      Item.ofText ("\x7b\"level\":\"ERROR\",\"message\":\"m\",\"type\":\"configuration\"," ++
        "\"config-type\":\"a\",\"config-name\":\"b\"\x7d") = .ok smallItem ∧
      Item.ofText ("\x7b\"level\":\"ERROR\",\"message\":\"m\",\"type\":\"configuration\"," ++
        "\"config-type\":\"a\",\"config-name\":\"b\",\"note\":1e999\x7d") ≠ .ok smallItem := by
  have hplain : "\x7b\"level\":\"ERROR\",\"message\":\"m\",\"type\":\"configuration\"," ++
      "\"config-type\":\"a\",\"config-name\":\"b\"\x7d" = smallItem.toText := by
    decide
  have hnoted : "\x7b\"level\":\"ERROR\",\"message\":\"m\",\"type\":\"configuration\"," ++
      "\"config-type\":\"a\",\"config-name\":\"b\",\"note\":1e999\x7d" =
      String.ofList (objectChars hugeMembers) := by
    decide
  have hunread : (Reader.value (depthLimit - 1)).whole "1e999".toList = none := by
    have hscalar : wholeOf scalar "1e999".toList = none := by decide
    rw [← hscalar]
    exact (Reader.reads_valueIn_scalar wellFormedScalar_hugeNumber).whole_eq
  have hrefused := Item.toOption_ofText_of_unread wellFormed_hugeMembers
    (show ("note", "1e999".toList) ∈ hugeMembers by simp [hugeMembers]) (by decide) hunread
  rw [hplain, hnoted]
  refine ⟨wellFormed_hugeNumber, by decide, smallItem.ofText_toText, fun hread => ?_⟩
  rw [hread] at hrefused
  cases hrefused

end ClusterAdvisor
