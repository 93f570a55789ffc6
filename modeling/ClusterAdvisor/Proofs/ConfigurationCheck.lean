import ClusterAdvisor.Proofs.Assignments
import ClusterAdvisor.Proofs.ListedHosts
import ClusterAdvisor.Proofs.SlotCapacity
import ClusterAdvisor.Proofs.StormSiteCheck

/-!
What the check of configurations answers and what it depends on. It never fails. Of a request it
sees five things: whether there is a Storm site, whether the defaults have one, two properties of
the site, and how many different hosts supervisors run on; two requests that agree on these get the
same answer.
-/

namespace ClusterAdvisor

namespace Rules

def desiredPaths : List String := ["/etc/hbase/conf", "/etc/hadoop/conf"]

/-- A class path that is not set, or in whose text one of the paths occurs nowhere. -/
def LacksDesiredPath : Option PropertyValue → Prop
  | none => True
  | some current => ∃ path ∈ desiredPaths, ¬ path.toList <:+: current.display.toList

/-- No item, or one error about a property of the Storm site. -/
def AtMostOneError (property : String) (found : List Item) : Prop :=
  found = [] ∨ ∃ message, found = [⟨.error, message, .configuration stormSite property⟩]

variable {settings : Settings} {site : Site} {p : Placement}

theorem paths_desiredClasspath :
    paths desiredClasspath.toList = desiredPaths.map String.toList := by decide

/-- Whether there is a finding about the class path, said of the paths one by one. -/
theorem finding?_ne_none_iff_lacks (site : Site) :
    neededClasspath.finding? site ≠ none ↔ LacksDesiredPath (site.get? topologyClasspath) := by
  have hproperty : neededClasspath.property = topologyClasspath := rfl
  have hvalue : neededClasspath.value = desiredClasspath := rfl
  rw [Ne, Desired.finding?_eq_none_iff, hproperty, hvalue]
  cases site.get? topologyClasspath with
  | none => simp [LacksDesiredPath]
  | some current =>
      simp only [Option.some.injEq, exists_eq_left', missingPaths_eq_nil_iff,
        paths_desiredClasspath, List.forall_mem_map, Text.occursIn_iff, LacksDesiredPath,
        not_forall, exists_prop]

/-- The class path is the only desired value, and not to have it is an error. -/
theorem desiredFindings_desiredValues (site : Site) :
    desiredFindings desiredValues site = (neededClasspath.finding? site).toList := by
  cases hfound : neededClasspath.finding? site <;> simp [desiredFindings, desiredValues, hfound]

/-- However many paths are missing, it is one error about the one property. -/
theorem neededClasspath_finding?_eq_some {finding : Finding}
    (hfound : neededClasspath.finding? site = some finding) :
    ∃ message, finding = ⟨topologyClasspath, .error, message⟩ := by
  obtain ⟨level, message, rfl, hlevel⟩ := Desired.finding?_eq_some hfound
  obtain rfl := hlevel rfl
  exact ⟨message, rfl⟩

/-- The product is the exact one, although it is computed with 64 bits: one that does not fit
becomes the greatest count, which no minimum exceeds. -/
theorem slotsFinding?_eq_none_iff (settings : Settings) (site : Site) (p : Placement) :
    slotsFinding? settings site p = none ↔
      settings.minimumSlots.toNat ≤
        slotsPerSupervisor (site.get? supervisorPorts) * p.distinctHostCount supervisor := by
  have hverdict : (stormCapacity site p).isSufficient settings.minimumSlots = true ↔
      settings.minimumSlots.toNat ≤
        slotsPerSupervisor (site.get? supervisorPorts) * p.distinctHostCount supervisor :=
    SlotCapacity.isSufficient_iff (stormCapacity site p) settings.minimumSlots
  rw [← hverdict]
  simp [slotsFinding?]

theorem atMostOneError_of_finding {property : String} {found : Option Finding}
    (hfound : ∀ finding, found = some finding →
      ∃ message, finding = ⟨property, .error, message⟩) :
    AtMostOneError property (found.toList.map (Item.ofFinding stormSite)) := by
  cases found with
  | none => exact Or.inl rfl
  | some finding =>
      obtain ⟨message, rfl⟩ := hfound finding rfl
      exact Or.inr ⟨message, rfl⟩

end Rules

open Rules

/-- A supervisor host that is listed twice, or under two services, counts once. -/
theorem Request.distinctHostCount_supervisor (r : Request) :
    r.placement.distinctHostCount supervisor =
      (r.services.listedHosts supervisor).toFinset.card := by
  rw [Placement.distinctHostCount_eq_card, r.hosts_placement (by decide)]

/-- Two requests that the check of configurations cannot tell apart. -/
structure Request.AgreesOnStorm (r other : Request) : Prop where
  current : other.services.configurations.contains stormSite =
    r.services.configurations.contains stormSite
  defaults : other.effectiveDefaults.contains stormSite = r.effectiveDefaults.contains stormSite
  classpath : other.services.configurations.property? stormSite topologyClasspath =
    r.services.configurations.property? stormSite topologyClasspath
  ports : other.services.configurations.property? stormSite supervisorPorts =
    r.services.configurations.property? stormSite supervisorPorts
  supervisors : (other.services.listedHosts supervisor).toFinset.card =
    (r.services.listedHosts supervisor).toFinset.card

/-- The gate: without a Storm site on both sides there is nothing to compare. -/
theorem Request.answer_validateConfigurations_of_unchecked {r : Request} (settings : Settings)
    (hunchecked : r.services.configurations.contains stormSite = false ∨
      r.effectiveDefaults.contains stormSite = false) :
    r.answer settings .validateConfigurations = .ok (.items []) := by
  rcases hunchecked with hcurrent | hdefaults
  · have hnone : r.services.configurations.get? stormSite = none := by
      simpa [Table.contains] using hcurrent
    simp [Request.answer, checkConfigurations, siteToCheck?, hnone]
  · simp [Request.answer, checkConfigurations, siteToCheck?, hdefaults]

theorem Request.unchecked_or_checked (r : Request) :
    (r.services.configurations.contains stormSite = false ∨
      r.effectiveDefaults.contains stormSite = false) ∨
    ∃ site, r.services.configurations.get? stormSite = some site ∧
      r.effectiveDefaults.contains stormSite = true := by
  cases hsite : r.services.configurations.get? stormSite with
  | none => exact Or.inl (Or.inl (by simp [Table.contains, hsite]))
  | some site =>
      cases hdefaults : r.effectiveDefaults.contains stormSite with
      | false => exact Or.inl (Or.inr rfl)
      | true => exact Or.inr ⟨site, rfl, rfl⟩

/-- The frame of the check: it reads nothing but what the two requests agree on. -/
theorem Request.AgreesOnStorm.answer_eq {r other : Request} (h : r.AgreesOnStorm other)
    (settings : Settings) :
    other.answer settings .validateConfigurations = r.answer settings .validateConfigurations := by
  rcases r.unchecked_or_checked with hunchecked | ⟨site, hsite, hdefaults⟩
  · have hother : other.services.configurations.contains stormSite = false ∨
        other.effectiveDefaults.contains stormSite = false := by
      rwa [h.current, h.defaults]
    rw [answer_validateConfigurations_of_unchecked settings hunchecked,
      answer_validateConfigurations_of_unchecked settings hother]
  · -- The other Storm site may differ, but not in the two properties that are looked at.
    have hcurrent := h.current
    rw [Table.contains, Table.contains, hsite] at hcurrent
    obtain ⟨site', hsite'⟩ := Option.isSome_iff_exists.mp hcurrent
    have hclasspath := h.classpath
    have hports := h.ports
    rw [Configurations.property?_of_get? hsite', Configurations.property?_of_get? hsite]
      at hclasspath hports
    have hcount : other.placement.distinctHostCount supervisor =
        r.placement.distinctHostCount supervisor := by
      rw [other.distinctHostCount_supervisor, r.distinctHostCount_supervisor, h.supervisors]
    have hdesired : ∀ d ∈ desiredValues, site'.get? d.property = site.get? d.property :=
      List.forall_mem_singleton.mpr hclasspath
    rw [answer_validateConfigurations_of_checked settings hsite hdefaults,
      answer_validateConfigurations_of_checked settings hsite' (h.defaults.trans hdefaults),
      checkStormSite, checkStormSite, desiredFindings_congr hdesired,
      slotsFinding?_congr settings hports hcount]

/-- The check of configurations never fails. It has nothing to say unless both the configuration and
the defaults have a Storm site; then it tells of the class path if that does not hold both paths,
and of the slots if there are too few, each once. Two requests that agree on the five things it
looks at have the same answer. -/
theorem validateConfigurations_answer (r : Request) (settings : Settings) :
    ∃ found, r.answer settings .validateConfigurations = .ok (.items found) ∧
      (r.services.configurations.contains stormSite = false ∨
        r.effectiveDefaults.contains stormSite = false → found = []) ∧
      (∀ site, r.services.configurations.get? stormSite = some site →
        r.effectiveDefaults.contains stormSite = true →
        ∃ classpath slots, found = classpath ++ slots ∧
          AtMostOneError topologyClasspath classpath ∧
          (classpath ≠ [] ↔ LacksDesiredPath (site.get? topologyClasspath)) ∧
          AtMostOneError supervisorPorts slots ∧
          (slots ≠ [] ↔
            slotsPerSupervisor (site.get? supervisorPorts) *
              (r.services.listedHosts supervisor).toFinset.card <
                settings.minimumSlots.toNat)) ∧
      ∀ other : Request, r.AgreesOnStorm other →
        other.answer settings .validateConfigurations = .ok (.items found) := by
  rcases r.unchecked_or_checked with hunchecked | ⟨site, hsite, hdefaults⟩
  · have hanswer := r.answer_validateConfigurations_of_unchecked settings hunchecked
    refine ⟨[], hanswer, fun _ => rfl, ?_, fun other h => (h.answer_eq settings).trans hanswer⟩
    intro site hsite hdefaults
    rcases hunchecked with hnone | hnone
    · simp [Table.contains, hsite] at hnone
    · simp [hdefaults] at hnone
  · have hanswer := r.answer_validateConfigurations_of_checked settings hsite hdefaults
    refine ⟨_, hanswer, ?_, ?_, fun other h => (h.answer_eq settings).trans hanswer⟩
    · rintro (hnone | hnone)
      · simp [Table.contains, hsite] at hnone
      · simp [hdefaults] at hnone
    intro site' hsite' _
    obtain rfl := Option.some.inj (hsite.symm.trans hsite')
    refine ⟨_, _, checkStormSite_eq_append settings site r.placement, ?_, ?_,
      atMostOneError_of_finding fun _ => slotsFinding?_eq_some, ?_⟩
    · rw [desiredFindings_desiredValues]
      exact atMostOneError_of_finding fun _ => neededClasspath_finding?_eq_some
    · rw [← finding?_ne_none_iff_lacks, desiredFindings_desiredValues]
      simp
    · rw [← r.distinctHostCount_supervisor, ← Nat.not_le, ← slotsFinding?_eq_none_iff]
      simp

/-- A Storm site with ports for two slots and without a class path. -/
def sparseStormSite : Site :=
  ((∅ : Site).insert uiPort (.integer 8744)).insert supervisorPorts (.text "[6700, 6701]")

/-- A cluster whose supervisors are listed twice, on two hosts altogether. -/
def sparseCluster : Services where
  services :=
    [⟨metron, [⟨metronParsers, metron, ["node1"]⟩, ⟨metronEnrichment, metron, ["node1"]⟩,
      ⟨metronIndexing, metron, ["node2", "node1"]⟩, ⟨metronMysql, metron, ["node1"]⟩]⟩,
    ⟨storm, [⟨supervisor, storm, ["node2", "node3", "node2"]⟩, ⟨stormUi, storm, ["node3"]⟩,
      ⟨supervisor, storm, ["node3"]⟩]⟩]
  configurations := (∅ : Configurations).insert stormSite sparseStormSite

def sparseRequest : Request := ⟨sparseCluster, ⟨["node1", "node2", "node3"]⟩, none, .null⟩

/-- Another hosts document, the defaults given as a Storm site without properties, and other data about
the cluster. -/
def sparseVariant : Request :=
  ⟨sparseCluster, ⟨[]⟩, some ((∅ : Configurations).insert stormSite ∅), .text "other"⟩

theorem validateConfigurations_answer_of_sparseRequest :
    sparseRequest.services.configurations.get? stormSite = some sparseStormSite ∧
      sparseRequest.effectiveDefaults.contains stormSite = true ∧
      sparseRequest.AgreesOnStorm sparseVariant ∧
      ∃ classpath slots,
        sparseRequest.answer Settings.default .validateConfigurations =
          .ok (.items (classpath ++ slots)) ∧
        sparseVariant.answer Settings.default .validateConfigurations =
          .ok (.items (classpath ++ slots)) ∧
        AtMostOneError topologyClasspath classpath ∧
        (classpath ≠ [] ↔ LacksDesiredPath (sparseStormSite.get? topologyClasspath)) ∧
        AtMostOneError supervisorPorts slots ∧
        (slots ≠ [] ↔
          slotsPerSupervisor (sparseStormSite.get? supervisorPorts) *
            (sparseRequest.services.listedHosts supervisor).toFinset.card <
              Settings.default.minimumSlots.toNat) := by
  have hagree : sparseRequest.AgreesOnStorm sparseVariant := ⟨rfl, rfl, rfl, rfl, rfl⟩
  obtain ⟨found, hanswer, _, hchecked, hothers⟩ :=
    validateConfigurations_answer sparseRequest Settings.default
  obtain ⟨classpath, slots, rfl, hitems⟩ := hchecked sparseStormSite rfl rfl
  exact ⟨rfl, rfl, hagree, classpath, slots, hanswer, hothers sparseVariant hagree, hitems⟩

end ClusterAdvisor
