import ClusterAdvisor.Proofs.ClasspathMerge
import ClusterAdvisor.Request

/-!
What the check of the Storm site reports. There is at most one item about each desired value and at
most one about the slots, and each of them depends on its own property only. A value is found wanting
exactly when it is not there or lacks one of the desired paths. What is said about a table of desired
values goes by induction over its entries, of which each may be any value of any property.
-/

namespace ClusterAdvisor

namespace Rules

namespace Desired

variable {d : Desired} {site other : Site}

/-- The check passes over a value that is the desired one before it looks for paths; as that one
lacks nothing, the shorter condition says the same. -/
theorem finding?_eq_none_iff :
    d.finding? site = none ↔
      ∃ current, site.get? d.property = some current ∧ missingPaths d.value current.display = [] := by
  unfold finding?
  cases hcurrent : site.get? d.property with
  | none => simp
  | some current =>
      by_cases hshown : current.display = d.value
      · simp [hshown, missingPaths_self]
      · simp [hshown]

/-- Only a class path is so bad to miss that every finding about it is an error. -/
theorem finding?_eq_some {finding : Finding} (hfound : d.finding? site = some finding) :
    ∃ level message, finding = ⟨d.property, level, message⟩ ∧
      (d.property = topologyClasspath → level = .error) := by
  unfold finding? at hfound
  split at hfound
  · exact ⟨_, _, (Option.some.inj hfound).symm, fun hclasspath => if_pos hclasspath⟩
  · dsimp only at hfound
    split at hfound
    · exact ⟨_, _, (Option.some.inj hfound).symm, fun _ => rfl⟩
    · cases hfound

theorem finding?_property {finding : Finding} (hfound : d.finding? site = some finding) :
    finding.property = d.property := by
  obtain ⟨level, message, rfl, _⟩ := finding?_eq_some hfound
  rfl

/-- The frame of a finding: it reads one property of the site. -/
theorem finding?_congr (hsame : site.get? d.property = other.get? d.property) :
    d.finding? site = d.finding? other := by
  unfold finding?
  rw [hsame]

end Desired

/-- A finding that speaks of one property is among those about that property, and among no others. -/
theorem filter_toList_finding {property name : String} {found : Option Finding}
    (hfound : ∀ finding, found = some finding → finding.property = property) :
    found.toList.filter (·.property = name) = if property = name then found.toList else [] := by
  cases found with
  | none => simp
  | some finding =>
    have hproperty : finding.property = property := hfound finding rfl
    simp [List.filter_cons, hproperty]

section desiredFindings

variable {table : List Desired} {d : Desired} {site other : Site} {name : String}

theorem desiredFindings_congr
    (hsame : ∀ d ∈ table, site.get? d.property = other.get? d.property) :
    desiredFindings table site = desiredFindings table other :=
  List.filterMap_congr fun d hd => Desired.finding?_congr (hsame d hd)

/-- A table says nothing about a property that it does not have. -/
theorem filter_desiredFindings_of_notMem (hname : name ∉ table.map (·.property)) (site : Site) :
    (desiredFindings table site).filter (·.property = name) = [] := by
  rw [List.filter_eq_nil_iff]
  intro finding hfinding hproperty
  obtain ⟨d, hd, hfound⟩ := List.mem_filterMap.mp hfinding
  have hsame : d.property = name := by simpa [Desired.finding?_property hfound] using hproperty
  exact hname (List.mem_map.mpr ⟨d, hd, hsame⟩)

/-- The findings of a table about one of its properties are those of one entry, if no other entry has
the same property. The induction is on the table: the entry is the first one, and then the rest has
nothing about it, or it is in the rest, and then the first one speaks of another property. -/
theorem filter_desiredFindings (hdistinct : (table.map (·.property)).Nodup) (hd : d ∈ table)
    (site : Site) :
    (desiredFindings table site).filter (·.property = d.property) = (d.finding? site).toList := by
  induction table with
  | nil => cases hd
  | cons first rest ih =>
    obtain ⟨hfirst, hrest⟩ := List.nodup_cons.mp hdistinct
    have hsplit : desiredFindings (first :: rest) site =
        (first.finding? site).toList ++ desiredFindings rest site := by
      cases hfound : first.finding? site <;> simp [desiredFindings, hfound]
    have hone : (first.finding? site).toList.filter (·.property = d.property) =
        if first.property = d.property then (first.finding? site).toList else [] :=
      filter_toList_finding fun _ => Desired.finding?_property
    rw [hsplit, List.filter_append, hone]
    rcases List.mem_cons.mp hd with rfl | hlater
    · rw [if_pos rfl, filter_desiredFindings_of_notMem hfirst, List.append_nil]
    · have hother : first.property ≠ d.property := fun hsame =>
        hfirst (List.mem_map.mpr ⟨d, hlater, hsame.symm⟩)
      rw [if_neg hother, List.nil_append, ih hrest hlater]

end desiredFindings

/-- With this, what is said about the entries of a table holds of each desired value. -/
theorem distinct_desiredValues : (desiredValues.map (·.property)).Nodup := by decide

theorem neededClasspath_mem : neededClasspath ∈ desiredValues := by decide

/-- Items about the slots and items about desired values are told apart by their properties. -/
theorem supervisorPorts_notMem_desiredValues :
    supervisorPorts ∉ desiredValues.map (·.property) := by decide

theorem slotsFinding?_eq_some {settings : Settings} {site : Site} {p : Placement}
    {finding : Finding} (hfound : slotsFinding? settings site p = some finding) :
    ∃ message, finding = ⟨supervisorPorts, .error, message⟩ := by
  unfold slotsFinding? at hfound
  dsimp only at hfound
  split at hfound
  · cases hfound
  · exact ⟨_, (Option.some.inj hfound).symm⟩

theorem slotsFinding?_property {settings : Settings} {site : Site} {p : Placement}
    {finding : Finding} (hfound : slotsFinding? settings site p = some finding) :
    finding.property = supervisorPorts := by
  obtain ⟨message, rfl⟩ := slotsFinding?_eq_some hfound
  rfl

/-- The finding about the slots looks at one property of the site, and at how many hosts supervisors
have. -/
theorem slotsFinding?_congr {site other : Site} {p q : Placement} (settings : Settings)
    (hports : site.get? supervisorPorts = other.get? supervisorPorts)
    (hcount : p.distinctHostCount supervisor = q.distinctHostCount supervisor) :
    slotsFinding? settings site p = slotsFinding? settings other q := by
  have hcapacity : stormCapacity site p = stormCapacity other q := by
    simp only [stormCapacity, hports, hcount]
  unfold slotsFinding?
  rw [hcapacity]

theorem checkStormSite_eq_append (settings : Settings) (site : Site) (p : Placement) :
    checkStormSite settings site p =
      (desiredFindings desiredValues site).map (Item.ofFinding stormSite) ++
        (slotsFinding? settings site p).toList.map (Item.ofFinding stormSite) :=
  List.map_append

/-- An item is about the property that its finding is about. -/
theorem filter_map_ofFinding (found : List Finding) (name : String) :
    (found.map (Item.ofFinding stormSite)).filter (·.property? = some name) =
      (found.filter (·.property = name)).map (Item.ofFinding stormSite) := by
  rw [List.filter_map]
  congr 2
  funext finding
  simp [Item.ofFinding, Item.property?]

theorem filter_desired_checkStormSite {d : Desired} (hd : d ∈ desiredValues)
    (settings : Settings) (site : Site) (p : Placement) :
    (checkStormSite settings site p).filter (·.property? = some d.property) =
      (d.finding? site).toList.map (Item.ofFinding stormSite) := by
  have hother : supervisorPorts ≠ d.property := fun hsame =>
    supervisorPorts_notMem_desiredValues (hsame ▸ List.mem_map_of_mem hd)
  rw [checkStormSite_eq_append, List.filter_append, filter_map_ofFinding, filter_map_ofFinding,
    filter_desiredFindings distinct_desiredValues hd,
    filter_toList_finding fun _ => slotsFinding?_property, if_neg hother, List.map_nil,
    List.append_nil]

/-- The desired values leave no trace among the items about the slots. -/
theorem filter_slots_checkStormSite (settings : Settings) (site : Site) (p : Placement) :
    (checkStormSite settings site p).filter (·.property? = some supervisorPorts) =
      (slotsFinding? settings site p).toList.map (Item.ofFinding stormSite) := by
  rw [checkStormSite_eq_append, List.filter_append, filter_map_ofFinding, filter_map_ofFinding,
    filter_desiredFindings_of_notMem supervisorPorts_notMem_desiredValues,
    filter_toList_finding fun _ => slotsFinding?_property, if_pos rfl, List.map_nil,
    List.nil_append]

theorem exists_desired_item_iff {d : Desired} (hd : d ∈ desiredValues) (settings : Settings)
    (site : Site) (p : Placement) :
    (∃ item ∈ checkStormSite settings site p, item.property? = some d.property) ↔
      d.finding? site ≠ none := by
  have hfilter := filter_desired_checkStormSite hd settings site p
  constructor
  · rintro ⟨item, hmember, hproperty⟩ hnone
    have hitem : item ∈ (checkStormSite settings site p).filter
        (·.property? = some d.property) :=
      List.mem_filter.mpr ⟨hmember, by simpa using hproperty⟩
    rw [hfilter, hnone] at hitem
    cases hitem
  · intro hsome
    obtain ⟨finding, hfinding⟩ := Option.ne_none_iff_exists'.mp hsome
    have hitem : Item.ofFinding stormSite finding ∈ (checkStormSite settings site p).filter
        (·.property? = some d.property) := by
      rw [hfilter, hfinding]
      exact List.mem_cons_self
    obtain ⟨hmember, hproperty⟩ := List.mem_filter.mp hitem
    exact ⟨_, hmember, by simpa using hproperty⟩

end Rules

/-- A Storm site that is there is checked if the defaults have one as well. -/
theorem Request.answer_validateConfigurations_of_checked {r : Request} {site : Site}
    (settings : Settings)
    (hsite : r.services.configurations.get? Rules.stormSite = some site)
    (hdefaults : r.effectiveDefaults.contains Rules.stormSite = true) :
    r.answer settings .validateConfigurations =
      .ok (.items (Rules.checkStormSite settings site r.placement)) := by
  simp [Request.answer, Rules.checkConfigurations, Rules.siteToCheck?, hdefaults, hsite]

/-- Without defaults of its own a request is checked against its own configuration. -/
theorem Request.answer_validateConfigurations {r : Request} {site : Site} (settings : Settings)
    (hdefaults : r.defaults = none)
    (hsite : r.services.configurations.get? Rules.stormSite = some site) :
    r.answer settings .validateConfigurations =
      .ok (.items (Rules.checkStormSite settings site r.placement)) := by
  apply Request.answer_validateConfigurations_of_checked settings hsite
  have heffective : r.effectiveDefaults = r.services.configurations := by
    simp [Request.effectiveDefaults, hdefaults]
  simp [heffective, Table.contains, hsite]

end ClusterAdvisor
