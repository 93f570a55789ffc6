import ClusterAdvisor.Proofs.Recommending
import ClusterAdvisor.Proofs.StormSiteCheck

/-!
Adopting a recommendation: the recommended configuration takes the place of the current one. What
was recommended then holds already, so recommending again gives the same answer, and the check of
the Storm site has nothing left to say about the class path. The recommendation and the check look
for the desired paths in different texts, and still agree on whether anything has to change.
-/

namespace ClusterAdvisor

open Rules

def Request.withConfigurations (r : Request) (c : Configurations) : Request :=
  { r with services := { r.services with configurations := c } }

/-- The request without defaults of its own, so that its configuration stands in for them. -/
def Request.withoutDefaults (r : Request) : Request := { r with defaults := none }

@[simp] theorem PropertyValue.display_text (shown : String) :
    (PropertyValue.text shown).display = shown := rfl

namespace Rules

variable {s : Services} {c : Configurations}

/-- A value that a recommendation leaves as it is: it is not a class path, or it is shown as the
desired one, or it is a text that lacks no path. Only the last kind has to be a text, since no other
one is ever written. -/
def Desired.Settled (d : Desired) (held : PropertyValue) : Prop :=
  d.property ≠ topologyClasspath ∨ held.display = d.value ∨
    ∃ text, held = .text text ∧ missingPaths d.value text = []

/-- Whatever a site has, the desired value is settled behind a recommendation for that site: what is
set for it is settled, and if nothing is set, so is what is there. -/
theorem Desired.exists_settled (d : Desired) (site : Site) :
    ∃ held, d.Settled held ∧ d.after site (site.get? d.property) = some held := by
  unfold Desired.after Desired.assignment?
  cases hcurrent : site.get? d.property with
  | none => exact ⟨_, Or.inr (Or.inl rfl), rfl⟩
  | some current =>
      by_cases hclasspath : d.property = topologyClasspath
      · by_cases hshown : current.display = d.value
        · exact ⟨current, Or.inr (Or.inl hshown), by simp [hclasspath, hshown]⟩
        · exact ⟨_, Or.inr (Or.inr ⟨_, rfl, missingPaths_of_merged current.display d.value⟩),
            by simp [hclasspath, hshown]⟩
      · exact ⟨current, Or.inl hclasspath, by simp [hclasspath]⟩

/-- A settled value is set, if at all, to what it is. -/
theorem Desired.Settled.eq_of_assignment? {d : Desired} {site : Site} {held : PropertyValue}
    (h : d.Settled held) (hcurrent : site.get? d.property = some held) {a : Assignment}
    (hset : d.assignment? site = some a) : held = .text a.value := by
  rw [Desired.assignment?, hcurrent] at hset
  dsimp only at hset
  split at hset
  · next hclasspath =>
    split at hset
    · cases hset
    · next hshown =>
      obtain ⟨text, rfl, hmissing⟩ :=
        (h.resolve_left (not_not_intro hclasspath)).resolve_left hshown
      obtain rfl := Option.some.inj hset
      exact congrArg _ ((mergeClasspath_eq_current_iff text d.value).mpr hmissing).symm
  · cases hset

/-- The Storm site behind a recommendation for the configuration that it was read from: it is there,
every desired value in it is settled, and every other property is as it was. -/
theorem Recommends.storm_site {as : List Assignment} {advised : Advised} {site : Site}
    (h : Recommends s as (.ok advised)) (hsite : s.configurations.get? stormSite = some site) :
    ∃ adopted, (s.configurations.assignAll as).get? stormSite = some adopted ∧
      (∀ d ∈ desiredValues, ∃ held, adopted.get? d.property = some held ∧ d.Settled held ∧
        d.after site (site.get? d.property) = some held) ∧
      ∀ name, name ∉ desiredValues.map (·.property) → adopted.get? name = site.get? name := by
  have hbefore : s.configurations.contains stormSite = true := by simp [Table.contains, hsite]
  have hthere : (s.configurations.assignAll as).contains stormSite = true :=
    Configurations.contains_assignAll stormSite |>.mpr (Or.inl hbefore)
  obtain ⟨adopted, hadopted⟩ := Option.isSome_iff_exists.mp hthere
  refine ⟨adopted, hadopted, ?_, ?_⟩
  · intro d hd
    obtain ⟨held, hsettled, hafter⟩ := d.exists_settled site
    have hread := h.desired hsite hd s.configurations
    rw [Configurations.property?_of_get? hadopted, Configurations.property?_of_get? hsite] at hread
    exact ⟨held, hread.trans hafter, hsettled, hafter⟩
  · intro name hname
    have huntouched : name ≠ topologyClasspath := by
      rintro rfl
      exact hname (List.mem_map_of_mem neededClasspath_mem)
    have hread := h.frame s.configurations stormSite name
      (by simp [recommendedTargets, stormSite, metronEnv, huntouched])
    rwa [Configurations.property?_of_get? hadopted, Configurations.property?_of_get? hsite] at hread

/-- For an adopted configuration the same is recommended, up to the class path, and all of it holds
already. -/
theorem Recommends.again {as : List Assignment} {advised : Advised}
    (h : Recommends s as (.ok advised)) (hc : c = s.configurations.assignAll as) :
    ∃ bs, Recommends { s with configurations := c } bs (.ok advised) ∧ c.assignAll bs = c := by
  have hheld := fun a => h.property?_of_mem s.configurations (a := a)
  rw [← hc] at hheld
  cases h with
  | @withoutStorm host hmysql hnone =>
      refine ⟨_, .withoutStorm hmysql ?_, Configurations.assignAll_eq_self hheld⟩
      rw [← hnone, hc]
      exact Configurations.get?_assignAll_of_ne (by simp [metronEnv, stormSite])
  | @complete host ui site port hmysql hsite hui hport =>
      obtain ⟨adopted, hadopted, hdesired, hothers⟩ :=
        (Recommends.complete hmysql hsite hui hport).storm_site hsite
      rw [← hc] at hadopted
      -- The port is no desired value, so the address comes out as it did before.
      have hport' : adopted.get? uiPort = some port := by
        rw [hothers uiPort (by decide), hport]
      refine ⟨_, .complete hmysql hadopted hui hport', Configurations.assignAll_eq_self ?_⟩
      intro a hmember
      rcases List.mem_cons.mp hmember with rfl | hmember
      · exact hheld _ (by simp)
      rcases List.mem_cons.mp hmember with rfl | hmember
      · exact hheld _ (by simp)
      · obtain ⟨d, hd, hset⟩ := List.mem_filterMap.mp hmember
        obtain ⟨held, hheld, hsettled, _⟩ := hdesired d hd
        obtain ⟨hstorm, hproperty⟩ := Desired.assignment?_eq_some hset
        rw [hstorm, hproperty, Configurations.property?_of_get? hadopted, hheld,
          hsettled.eq_of_assignment? hheld hset]

/-- The check misses something in a value exactly when recommending changes how the value is shown,
or leaves it alone although it lacks a path. The second never happens to a class path. -/
theorem Desired.finding?_ne_none_iff {d : Desired} {site : Site} :
    d.finding? site ≠ none ↔
      (d.after site (site.get? d.property)).map PropertyValue.display ≠
          (site.get? d.property).map PropertyValue.display ∨
        d.property ≠ topologyClasspath ∧ ∃ current, site.get? d.property = some current ∧
          missingPaths d.value current.display ≠ [] := by
  rw [Ne, Desired.finding?_eq_none_iff, Desired.after, Desired.assignment?]
  cases hcurrent : site.get? d.property with
  | none => simp
  | some current =>
      by_cases hclasspath : d.property = topologyClasspath
      · by_cases hshown : current.display = d.value
        · simp [hclasspath, hshown, missingPaths_self]
        · have hmerged := mergeClasspath_eq_current_iff current.display d.value
          simp [hclasspath, hshown, hmerged]
      · simp [hclasspath]

/-- The check has nothing to say about a class path that a recommendation leaves as it is. -/
theorem Desired.Settled.finding?_eq_none {d : Desired} {site : Site} {held : PropertyValue}
    (h : d.Settled held) (hclasspath : d.property = topologyClasspath)
    (hcurrent : site.get? d.property = some held) : d.finding? site = none := by
  refine Desired.finding?_eq_none_iff.mpr ⟨held, hcurrent, ?_⟩
  rcases h.resolve_left (not_not_intro hclasspath) with hshown | ⟨text, rfl, hmissing⟩
  · rw [hshown]
    exact missingPaths_self d.value
  · exact hmissing

end Rules

/-- The answer to a recommendation is the current configuration with the assignments made in it. -/
theorem Request.answer_recommend_ok_iff {r : Request} {settings : Settings}
    {response : Response} :
    r.answer settings .recommendConfigurations = .ok response ↔
      ∃ as advised, Recommends r.services as (.ok advised) ∧
        response = .recommended (r.services.configurations.assignAll as) := by
  obtain ⟨as, outcome, h⟩ := exists_recommends r.services
  rw [h.answer_eq settings]
  constructor
  · intro hok
    cases outcome with
    | error failure => cases hok
    | ok advised => exact ⟨as, advised, h, (Except.ok.inj hok).symm⟩
  · rintro ⟨bs, advised, hother, rfl⟩
    have hsame := h.eq_recommendation.symm.trans hother.eq_recommendation
    obtain ⟨rfl, rfl⟩ := Recommendation.mk.inj hsame
    rfl

/-- Recommending again for an adopted recommendation gives the same answer. -/
theorem recommend_adopted (r : Request) (settings : Settings) (response : Response)
    (hok : r.answer settings .recommendConfigurations = .ok response) :
    ∃ c, response = .recommended c ∧
      (r.withConfigurations c).answer settings .recommendConfigurations = .ok response := by
  obtain ⟨as, advised, h, rfl⟩ := Request.answer_recommend_ok_iff.mp hok
  refine ⟨_, rfl, Request.answer_recommend_ok_iff.mpr ?_⟩
  obtain ⟨bs, hagain, hheld⟩ := h.again rfl
  exact ⟨bs, advised, hagain, congrArg Response.recommended hheld.symm⟩

/-- A request about the small cluster, whose class path is a list that lacks a path. -/
def smallRequest : Request := ⟨smallCluster, ⟨["node1", "node2", "node3"]⟩, none, .null⟩

def smallRecommendation : Configurations := (recommend smallCluster smallCluster.configurations).1

theorem recommend_adopted_of_smallRequest :
    smallRequest.answer Settings.default .recommendConfigurations =
        .ok (.recommended smallRecommendation) ∧
      ∃ c, Response.recommended smallRecommendation = .recommended c ∧
        (smallRequest.withConfigurations c).answer Settings.default .recommendConfigurations =
          .ok (.recommended smallRecommendation) :=
  ⟨rfl, recommend_adopted smallRequest Settings.default (.recommended smallRecommendation) rfl⟩

/-- The check of the Storm site has an item about the class path exactly when recommending changes
how the class path is shown. For the adopted recommendation it has no such item any more, and about
the slots it says what it said before. -/
theorem check_agrees_with_recommendation (r : Request) (settings : Settings) (c : Configurations)
    (hstorm : r.services.configurations.contains stormSite = true)
    (hok : r.answer settings .recommendConfigurations = .ok (.recommended c)) :
    ∃ before after,
      r.withoutDefaults.answer settings .validateConfigurations = .ok (.items before) ∧
      (r.withConfigurations c).withoutDefaults.answer settings .validateConfigurations =
        .ok (.items after) ∧
      ((∃ item ∈ before, item.property? = some topologyClasspath) ↔
        (c.property? stormSite topologyClasspath).map PropertyValue.display ≠
          (r.services.configurations.property? stormSite topologyClasspath).map
            PropertyValue.display) ∧
      (∀ item ∈ after, item.property? ≠ some topologyClasspath) ∧
      after.filter (·.property? = some supervisorPorts) =
        before.filter (·.property? = some supervisorPorts) := by
  obtain ⟨site, hsite⟩ := Option.isSome_iff_exists.mp hstorm
  obtain ⟨as, advised, h, hresponse⟩ := Request.answer_recommend_ok_iff.mp hok
  obtain rfl := Response.recommended.inj hresponse
  obtain ⟨adopted, hadopted, hdesired, hothers⟩ := h.storm_site hsite
  obtain ⟨classpath, hclasspath, hsettled, hafter⟩ := hdesired neededClasspath neededClasspath_mem
  have hsilent : neededClasspath.finding? adopted = none := hsettled.finding?_eq_none rfl hclasspath
  have hagree : neededClasspath.finding? site ≠ none ↔
      (some classpath).map PropertyValue.display ≠
        (site.get? topologyClasspath).map PropertyValue.display := by
    rw [Desired.finding?_ne_none_iff, hafter]
    exact or_iff_left fun hother => hother.1 rfl
  have hports : adopted.get? supervisorPorts = site.get? supervisorPorts :=
    hothers supervisorPorts (by decide)
  refine ⟨checkStormSite settings site r.placement, checkStormSite settings adopted r.placement,
    Request.answer_validateConfigurations (r := r.withoutDefaults) settings rfl hsite,
    Request.answer_validateConfigurations (r := (r.withConfigurations _).withoutDefaults) settings
      rfl hadopted,
    ?_, ?_, ?_⟩
  · rw [Configurations.property?_of_get? hadopted, Configurations.property?_of_get? hsite]
    exact (exists_desired_item_iff neededClasspath_mem settings site r.placement).trans
      (hclasspath ▸ hagree)
  · intro item hmember hproperty
    exact (exists_desired_item_iff neededClasspath_mem settings adopted r.placement).mp
      ⟨item, hmember, hproperty⟩ hsilent
  · rw [filter_slots_checkStormSite, filter_slots_checkStormSite,
      slotsFinding?_congr settings hports rfl]

theorem check_agrees_with_recommendation_of_smallRequest :
    smallCluster.configurations.contains stormSite = true ∧
      smallRequest.answer Settings.default .recommendConfigurations =
        .ok (.recommended smallRecommendation) ∧
      ∃ before after,
        smallRequest.withoutDefaults.answer Settings.default .validateConfigurations =
          .ok (.items before) ∧
        (smallRequest.withConfigurations smallRecommendation).withoutDefaults.answer
          Settings.default .validateConfigurations = .ok (.items after) ∧
        ((∃ item ∈ before, item.property? = some topologyClasspath) ↔
          (smallRecommendation.property? stormSite topologyClasspath).map PropertyValue.display ≠
            (smallCluster.configurations.property? stormSite topologyClasspath).map
              PropertyValue.display) ∧
        (∀ item ∈ after, item.property? ≠ some topologyClasspath) ∧
        after.filter (·.property? = some supervisorPorts) =
          before.filter (·.property? = some supervisorPorts) :=
  ⟨rfl, rfl,
    check_agrees_with_recommendation smallRequest Settings.default smallRecommendation rfl rfl⟩

end ClusterAdvisor
