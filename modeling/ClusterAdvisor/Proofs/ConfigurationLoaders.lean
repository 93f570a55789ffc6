import ClusterAdvisor.Proofs.ServicesDocument

/-!
A configuration comes in by two ways: as a part of the document of the services, which is read piece
by piece, and from a file of its own, which is read as a value first. Both ways accept the same texts
and give the same configuration.
-/

namespace ClusterAdvisor

open Json

/-- None of the objects in a document names a key twice, once the escapes in the keys are resolved. -/
def NamesKeysOnce (text : String) : Prop := ∃ tree, Spelled text tree ∧ tree.DistinctKeys

/-- Sorting a tree without double keys leaves nothing out, so it is as deep as before. -/
theorem Json.Value.DistinctKeys.depth_le_of_sorted {tree : Value} (h : tree.DistinctKeys) {n : Nat}
    (hdepth : tree.sorted.depth ≤ n) : tree.depth ≤ n := by
  induction tree using Value.induction generalizing n with
  | array items ih =>
    rw [Value.sorted_array] at hdepth
    cases n with
    | zero => cases hdepth
    | succ n =>
      rw [Value.depth_array_le_iff] at hdepth ⊢
      intro v hv
      exact ih v hv (h.item hv) (hdepth v.sorted (List.mem_map_of_mem hv))
  | object members ih =>
    have hkeys : (keysOf (members.map fun m => (m.1, m.2.sorted))).Nodup := by
      simpa [keysOf, Function.comp_def] using h members (.self _)
    rw [Value.sorted_object, Value.ofMembers] at hdepth
    cases n with
    | zero => cases hdepth
    | succ n =>
      rw [Value.depth_object_le_iff] at hdepth ⊢
      intro m hm
      have hsorted : (m.1, m.2.sorted) ∈ sortEntries (members.map fun m => (m.1, m.2.sorted)) :=
        (perm_sortEntries hkeys).mem_iff.mpr (List.mem_map.mpr ⟨m, hm, rfl⟩)
      exact ih m hm (h.member hm) (hdepth _ hsorted)
  | _ => exact hdepth

/-- The document of services that holds nothing but a configuration. -/
def configurationsOnly (text : String) : String := "\x7b\"configurations\": " ++ text ++ "\x7d"

theorem toList_configurationsOnly (text : String) :
    (configurationsOnly text).toList =
      '{' :: '"' :: ("configurations\"".toList ++ ':' :: ' ' :: (text.toList ++ ['}'])) := by
  have hfront : "\x7b\"configurations\": ".toList =
      '{' :: '"' :: ("configurations\"".toList ++ [':', ' ']) := by decide
  have hback : "\x7d".toList = ['}'] := by decide
  unfold configurationsOnly
  rw [String.toList_append, String.toList_append, hfront, hback]
  simp only [List.nil_append, List.cons_append, List.append_assoc]

/-- Putting a configuration into a document of services spells one tree around another, so both
loaders are compared on the same tree. -/
theorem spelled_configurationsOnly {text : String} {tree : Value} (h : Spelled text tree) :
    Spelled (configurationsOnly text) (.object [("configurations", tree)]) := by
  obtain ⟨before, spelling, after, htext, hbefore, hafter, hspells⟩ := h
  have hname : "configurations".toList.flatMap escapeChar ++ ['"'] = "configurations\"".toList := by
    decide
  have hkey : textBody "configurations\"".toList = .ok ("configurations", []) := by
    rw [← hname]
    exact textBody_escaped "configurations"
  have hblank : Blank (' ' :: before) := by
    rintro c (_ | ⟨_, hc⟩)
    · rfl
    · exact hbefore c hc
  have hmember := SpellsMembers.member (.first blank_nil) hkey blank_nil hblank hspells
    (SpellsMembers.close hafter)
  refine ⟨[], _, [], ?_, blank_nil, blank_nil, .object hmember⟩
  rw [toList_configurationsOnly, htext]
  simp only [List.nil_append, List.append_nil, List.cons_append, List.append_assoc]

/-- Converting the value of a document that holds nothing but a configuration is converting the
configuration. -/
theorem ofValue_configurationsOnly (v : Value) :
    Services.schema.ofValue (.object [("configurations", v)]) =
      (Configurations.schema.ofValue v).map fun c => ⟨[], c⟩ := by
  have hother : ("configurations" = "services") = False := by simp
  simp only [Services.schema, Schema.ofValue, foldMembers, Fields.put, Fields.unread, hother,
    if_false, if_true]
  cases Configurations.schema.ofValue v with
  | error fault => rfl
  | ok c => rfl

/-- A configuration is accepted as a part of the document of the services exactly if it is accepted
from a file of its own, and it is the same one. Its objects may name no key twice, and there has to
be room for one more pair of braces around it; a document in which the place of a recommended
configuration is taken is the answer to a recommendation, and none of these. -/
theorem configuration_loaders_agree {text : String} {v : Value}
    (hread : Value.ofText text = .ok v) (hdepth : v.depth ≤ 126) (hkeys : NamesKeysOnce text)
    (hpointer : nestedConfigurations? v = none) :
    ((∃ s, Services.ofText (configurationsOnly text) = .ok s) ↔
        ∃ c, recommendedDefaults text = .ok c) ∧
      ∀ s c, Services.ofText (configurationsOnly text) = .ok s → recommendedDefaults text = .ok c →
        s.configurations = c := by
  obtain ⟨tree, hspelled, hdistinct⟩ := hkeys
  obtain ⟨_, rfl⟩ := (Value.ofText_eq_ok_iff hspelled).mp hread
  have hfits : (Value.object [("configurations", tree)]).Fits depthLimit := by
    constructor
    · -- The braces around the configuration take the last level that there is room for.
      refine Value.depth_object_le_iff.mpr fun m hm => ?_
      obtain rfl := List.mem_singleton.mp hm
      exact hdistinct.depth_le_of_sorted hdepth
    · intro members hmembers
      cases hmembers with
      | self => exact List.nodup_singleton _
      | member hmember hwithin =>
        obtain ⟨rfl, rfl⟩ := Prod.mk.inj (List.mem_singleton.mp hmember)
        exact hdistinct members hwithin
  have hservices : (Services.schema.ofText (configurationsOnly text)).toOption =
      (Configurations.schema.ofValue tree.sorted).toOption.map fun c => ⟨[], c⟩ := by
    rw [← toOption_map, ← ofValue_configurationsOnly]
    exact Services.schema.toOption_ofText (spelled_configurationsOnly hspelled) hfits
  have hdefaults : recommendedDefaults text = Configurations.schema.ofValue tree.sorted := by
    rw [recommendedDefaults, hread]
    simp only [hpointer, Option.getD_none]
  simp only [Services.ofText_eq_ok_iff, hdefaults]
  cases hconverted : Configurations.schema.ofValue tree.sorted with
  | error fault =>
    rw [hconverted] at hservices
    obtain ⟨other, hother⟩ := exists_error_of_toOption hservices
    rw [hother]
    refine ⟨⟨?_, ?_⟩, ?_⟩
    · rintro ⟨s, ⟨⟩⟩
    · rintro ⟨c, ⟨⟩⟩
    · rintro s c ⟨⟩
  | ok c =>
    rw [hconverted] at hservices
    rw [eq_ok_of_toOption hservices]
    refine ⟨⟨fun _ => ⟨c, rfl⟩, fun _ => ⟨⟨[], c⟩, rfl⟩⟩, fun s d hs hd => ?_⟩
    cases hs
    cases hd
    rfl

/-- A configuration with a site written as an array of its one field, a number beyond the signed
ones, and a member that nobody asks for. -/
def unusualDocument : Value :=
  .object
    [("storm-site",
        .array [.object [("ui.port", .integer ⟨18446744073709551615, by decide, by decide⟩),
          ("hosts", .array [.null])]]),
      ("metron-env", .object [("comment", .array []), ("properties", .object [])])]

theorem tidy_unusualDocument : unusualDocument.Tidy := by
  have hport : (Value.integer ⟨18446744073709551615, by decide, by decide⟩).Tidy :=
    Value.tidy_of_isPlain trivial fun x h => by cases h
  have hnull : Value.null.Tidy := Value.tidy_of_isPlain trivial fun x h => by cases h
  simp [unusualDocument, Value.tidy_object_iff, Value.tidy_array_iff, keysOf, hport, hnull]

theorem configuration_loaders_agree_of_unusualDocument :
    Value.ofText unusualDocument.compact = .ok unusualDocument.sorted ∧
      unusualDocument.sorted.depth ≤ 126 ∧ NamesKeysOnce unusualDocument.compact ∧
      nestedConfigurations? unusualDocument.sorted = none ∧
      ((∃ s, Services.ofText (configurationsOnly unusualDocument.compact) = .ok s) ↔
        ∃ c, recommendedDefaults unusualDocument.compact = .ok c) ∧
      ∀ s c, Services.ofText (configurationsOnly unusualDocument.compact) = .ok s →
        recommendedDefaults unusualDocument.compact = .ok c → s.configurations = c := by
  have hspelled : Spelled unusualDocument.compact unusualDocument :=
    spelled_of_mem_layouts tidy_unusualDocument.noReal List.mem_cons_self
  have hread : Value.ofText unusualDocument.compact = .ok unusualDocument.sorted :=
    (Value.ofText_eq_ok_iff hspelled).mpr ⟨by decide, rfl⟩
  have hkeys : NamesKeysOnce unusualDocument.compact :=
    ⟨unusualDocument, hspelled, tidy_unusualDocument.distinct⟩
  exact ⟨hread, by decide, hkeys, by decide,
    configuration_loaders_agree hread (by decide) hkeys rfl⟩

end ClusterAdvisor
