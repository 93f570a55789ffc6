import ClusterAdvisor.Proofs.Adoption
import ClusterAdvisor.Proofs.ConfigurationCheck
import ClusterAdvisor.Proofs.LayoutCheck

/-!
What happens to the answers when a component is added. It goes somewhere into the middle of the list
of all components, behind those of the first service of its name, or to the end with a service of
its own. In front of a host that was listed first nothing is put unless the component has the same
name, and within a service nothing is ever put in front of anything; so a recommendation stays as it
is, and the checks only get milder where the component is one of which some host has to be near.
-/

namespace ClusterAdvisor

open Rules

def Request.push (r : Request) (d : Component) : Request :=
  { r with services := r.services.push d }

def flagged (found : List Item) : List String := found.filterMap Item.property?

namespace Services

/-- A component goes in at one place of all components, wherever its service stands among the
others. -/
theorem exists_flatMap_addComponent (d : Component) (services : List Service) :
    ∃ front back, services.flatMap (·.components) = front ++ back ∧
      (addComponent d services).flatMap (·.components) = front ++ d :: back := by
  induction services with
  | nil => exact ⟨[], [], rfl, rfl⟩
  | cons service rest ih =>
    by_cases hname : service.name = d.service
    · exact ⟨service.components, rest.flatMap (·.components), rfl, by simp [addComponent, hname]⟩
    · obtain ⟨front, back, hbefore, hbehind⟩ := ih
      refine ⟨service.components ++ front, back, ?_, ?_⟩
      · simp [hbefore]
      · simp [addComponent, hname, hbehind]

/-- Adding a component puts it somewhere into the list of all components and moves no other. -/
theorem exists_components_push (s : Services) (d : Component) :
    ∃ front back, s.components = front ++ back ∧ (s.push d).components = front ++ d :: back :=
  exists_flatMap_addComponent d s.services

/-- The hosts of a new component go in at one place of those that are listed for its name. -/
theorem exists_listedHosts_push (s : Services) (d : Component) (name : String) :
    ∃ front back, s.listedHosts name = front ++ back ∧
      (s.push d).listedHosts name = front ++ (d.hostsFor name ++ back) := by
  obtain ⟨front, back, hbefore, hbehind⟩ := s.exists_components_push d
  refine ⟨front.flatMap (·.hostsFor name), back.flatMap (·.hostsFor name), ?_, ?_⟩
  · rw [listedHosts_eq_flatMap, hbefore, List.flatMap_append]
  · rw [listedHosts_eq_flatMap, hbehind, List.flatMap_append, List.flatMap_cons]

theorem listedHosts_push_of_ne (s : Services) {d : Component} {name : String}
    (hne : d.name ≠ name) : (s.push d).listedHosts name = s.listedHosts name := by
  obtain ⟨front, back, hbefore, hbehind⟩ := s.exists_listedHosts_push d name
  have hnone : d.hostsFor name = [] := if_neg hne
  rw [hbefore, hbehind, hnone, List.nil_append]

/-- Nothing goes away, which is all that the rules about neighbours look at. -/
theorem listedHosts_subset_push (s : Services) (d : Component) (name : String) :
    s.listedHosts name ⊆ (s.push d).listedHosts name := by
  obtain ⟨front, back, hbefore, hbehind⟩ := s.exists_listedHosts_push d name
  rw [hbefore, hbehind]
  intro host hhost
  rcases List.mem_append.mp hhost with hfront | hback
  · exact List.mem_append_left _ hfront
  · exact List.mem_append_right _ (List.mem_append_right _ hback)

/-- A service that is looked up is the same with the component behind its components, or is new, or
is another service altogether. -/
theorem find?_addComponent (d : Component) (services : List Service) (name : String) :
    (addComponent d services).find? (·.name = name) =
      if d.service = name then
        some ⟨name, ((services.find? (·.name = name)).elim [] (·.components)) ++ [d]⟩
      else services.find? (·.name = name) := by
  induction services with
  | nil =>
    by_cases hname : d.service = name
    · simp [addComponent, hname]
    · simp [addComponent, hname]
  | cons service rest ih =>
    -- If this service takes the component, the search ends here or never sees the component.
    by_cases hservice : service.name = d.service
    · by_cases hname : d.service = name
      · simp [addComponent, hservice, hname]
      · simp [addComponent, hservice, hname]
    · by_cases hname : service.name = name
      · subst hname
        simp [addComponent, hservice, Ne.symm hservice]
      · simp [addComponent, hservice, hname, ih]

/-- In its own service a new component comes last, so a first host stays the first one. -/
theorem serviceHosts_push (s : Services) (d : Component) (service name : String) :
    (s.push d).serviceHosts service name =
      s.serviceHosts service name ++ if d.service = service then d.hostsFor name else [] := by
  have hfound := find?_addComponent d s.services service
  unfold serviceHosts service? push
  by_cases hservice : d.service = service
  · rw [if_pos hservice] at hfound ⊢
    rw [hfound]
    cases s.services.find? (·.name = service) with
    | none => simp [Service.hostsOf, flatMap_filter_name]
    | some found => simp [Service.hostsOf, flatMap_filter_name]
  · rw [if_neg hservice] at hfound ⊢
    rw [hfound, List.append_nil]

theorem FirstHost.push {s : Services} {service name host : String}
    (h : s.FirstHost service name host) (d : Component) :
    (s.push d).FirstHost service name host := by
  rw [firstHost_iff_head?] at h ⊢
  rw [serviceHosts_push, List.head?_append, h, Option.some_or]

end Services

namespace Rules

variable {s : Services} {hosts more : String → List String}

/-- A recommendation reads first hosts and the configuration, and both stay. -/
theorem Recommends.push {as : List Assignment} {advised : Advised}
    (h : Recommends s as (.ok advised)) (d : Component) :
    Recommends (s.push d) as (.ok advised) := by
  cases h with
  | withoutStorm hmysql hsite => exact .withoutStorm (hmysql.push d) hsite
  | complete hmysql hsite hui hport => exact .complete (hmysql.push d) hsite (hui.push d) hport

theorem grows_push_of_neighbour (s : Services) {d : Component}
    (hneighbour : d.name ∈ neighbourComponents) :
    Grows s.listedHosts (s.push d).listedHosts where
  first name hname := by
    have hne : d.name ≠ name := by
      rintro rfl
      have hapart : ∀ name ∈ metronComponents, name ∉ neighbourComponents := by decide
      exact hapart d.name hname hneighbour
    rw [s.listedHosts_push_of_ne hne]
  neighbours name _ := s.listedHosts_subset_push d name

theorem listedHosts_push_of_notMem (s : Services) {d : Component}
    (hother : d.name ∉ layoutComponents) {name : String} (hname : name ∈ layoutComponents) :
    (s.push d).listedHosts name = s.listedHosts name :=
  s.listedHosts_push_of_ne fun h => hother (h ▸ hname)

theorem flagged_append (found others : List Item) :
    flagged (found ++ others) = flagged found ++ flagged others :=
  List.filterMap_append

theorem flagged_finding {property : String} {found : Option Finding}
    (hfound : ∀ finding, found = some finding → finding.property = property) :
    flagged (found.toList.map (Item.ofFinding stormSite)) =
      if found = none then [] else [property] := by
  cases found with
  | none => rfl
  | some finding =>
      have hproperty : (Item.ofFinding stormSite finding).property? = some property :=
        congrArg some (hfound finding rfl)
      simp [flagged, hproperty]

/-- With more supervisors the check flags the same properties or fewer. -/
theorem flagged_checkStormSite_sublist (settings : Settings) (site : Site) {p q : Placement}
    (hcount : p.distinctHostCount supervisor ≤ q.distinctHostCount supervisor) :
    (flagged (checkStormSite settings site q)).Sublist
      (flagged (checkStormSite settings site p)) := by
  have henough (hnone : slotsFinding? settings site p = none) :
      slotsFinding? settings site q = none := by
    rw [slotsFinding?_eq_none_iff] at hnone ⊢
    exact hnone.trans (Nat.mul_le_mul_left _ hcount)
  rw [checkStormSite_eq_append, checkStormSite_eq_append, flagged_append, flagged_append]
  refine List.Sublist.append (List.Sublist.refl _) ?_
  rw [flagged_finding fun _ => slotsFinding?_property,
    flagged_finding fun _ => slotsFinding?_property]
  by_cases hq : slotsFinding? settings site q = none
  · rw [if_pos hq]
    exact List.nil_sublist _
  · rw [if_neg hq, if_neg (mt henough hq)]

end Rules

/-- A component can only add hosts of supervisors, and more of them never make the slots too few. -/
theorem Request.exists_flagged_push (r : Request) (settings : Settings) (d : Component) :
    ∃ before after, r.answer settings .validateConfigurations = .ok (.items before) ∧
      (r.push d).answer settings .validateConfigurations = .ok (.items after) ∧
      (flagged after).Sublist (flagged before) := by
  rcases r.unchecked_or_checked with hunchecked | ⟨site, hsite, hdefaults⟩
  · exact ⟨[], [], r.answer_validateConfigurations_of_unchecked settings hunchecked,
      (r.push d).answer_validateConfigurations_of_unchecked settings hunchecked,
      List.Sublist.refl _⟩
  · refine ⟨_, _, r.answer_validateConfigurations_of_checked settings hsite hdefaults,
      (r.push d).answer_validateConfigurations_of_checked settings hsite hdefaults, ?_⟩
    apply flagged_checkStormSite_sublist
    rw [r.distinctHostCount_supervisor, (r.push d).distinctHostCount_supervisor]
    apply Finset.card_le_card
    intro host hhost
    rw [List.mem_toFinset] at hhost ⊢
    exact r.services.listedHosts_subset_push d supervisor hhost

/-- Adding a component never makes an answer worse. One that has to be near others leaves the failure
of the check of a layout as it was, takes items away at most, and makes the check of configurations
flag no new property; one that no rule speaks of changes neither check; and whatever it is, a
recommendation that succeeds stays the same. -/
theorem answer_push (r : Request) (settings : Settings) (d : Component) :
    (d.name ∈ neighbourComponents →
      (∀ failure, (r.push d).answer settings .validateLayout = .error failure ↔
        r.answer settings .validateLayout = .error failure) ∧
      (∀ before, r.answer settings .validateLayout = .ok (.items before) →
        ∃ after, (r.push d).answer settings .validateLayout = .ok (.items after) ∧
          after.Sublist before) ∧
      ∃ before after, r.answer settings .validateConfigurations = .ok (.items before) ∧
        (r.push d).answer settings .validateConfigurations = .ok (.items after) ∧
        (flagged after).Sublist (flagged before)) ∧
    (d.name ∉ layoutComponents →
      (r.push d).answer settings .validateLayout = r.answer settings .validateLayout ∧
      (r.push d).answer settings .validateConfigurations =
        r.answer settings .validateConfigurations) ∧
    ∀ response, r.answer settings .recommendConfigurations = .ok response →
      (r.push d).answer settings .recommendConfigurations = .ok response := by
  refine ⟨?_, ?_, ?_⟩
  · intro hneighbour
    have hgrows : Grows r.services.listedHosts (r.push d).services.listedHosts :=
      grows_push_of_neighbour r.services hneighbour
    obtain ⟨hfailure, hitems⟩ := Request.answer_validateLayout_grow settings hgrows
    exact ⟨hfailure, hitems, r.exists_flagged_push settings d⟩
  · intro hother
    have hsame {name : String} (hname : name ∈ layoutComponents) :
        (r.push d).services.listedHosts name = r.services.listedHosts name :=
      listedHosts_push_of_notMem r.services hother hname
    constructor
    · exact Request.answer_validateLayout_congr settings (Grows.of_eq fun _ => hsame)
        (Grows.of_eq fun _ hname => (hsame hname).symm)
    · have hagrees : r.AgreesOnStorm (r.push d) :=
        ⟨rfl, rfl, rfl, rfl, by rw [hsame (by decide)]⟩
      exact hagrees.answer_eq settings
  · intro response hok
    obtain ⟨as, advised, h, rfl⟩ := Request.answer_recommend_ok_iff.mp hok
    exact Request.answer_recommend_ok_iff.mpr ⟨as, advised, h.push d, rfl⟩

/-- A supervisor on the host of the parsers, which the sparse cluster lacks. -/
def localSupervisor : Component := ⟨supervisor, storm, ["node1"]⟩

/-- A component that no rule speaks of, of a service that the sparse cluster lacks. -/
def metricsMonitor : Component := ⟨"METRICS_MONITOR", "AMBARI_METRICS", ["node1", "node2"]⟩

def sparseMisplacements : List Item :=
  misplacements sparseCluster.listedHosts ⟨"node1", "node1", "node2", "node1"⟩

def sparseRecommendation : Configurations :=
  (recommend sparseCluster sparseCluster.configurations).1

theorem answer_push_of_sparseRequest :
    localSupervisor.name ∈ neighbourComponents ∧ metricsMonitor.name ∉ layoutComponents ∧
      sparseRequest.answer Settings.default .validateLayout = .ok (.items sparseMisplacements) ∧
      (∃ after, (sparseRequest.push localSupervisor).answer Settings.default .validateLayout =
          .ok (.items after) ∧ after.Sublist sparseMisplacements) ∧
      (sparseRequest.push metricsMonitor).answer Settings.default .validateLayout =
        sparseRequest.answer Settings.default .validateLayout ∧
      sparseRequest.answer Settings.default .recommendConfigurations =
        .ok (.recommended sparseRecommendation) ∧
      (sparseRequest.push localSupervisor).answer Settings.default .recommendConfigurations =
        .ok (.recommended sparseRecommendation) := by
  have hneighbour : localSupervisor.name ∈ neighbourComponents := by decide
  have hother : metricsMonitor.name ∉ layoutComponents := by decide
  have hmisplaced : sparseRequest.answer Settings.default .validateLayout =
      .ok (.items sparseMisplacements) := rfl
  have hrecommended : sparseRequest.answer Settings.default .recommendConfigurations =
      .ok (.recommended sparseRecommendation) := rfl
  obtain ⟨hnear, _, hrecommend⟩ := answer_push sparseRequest Settings.default localSupervisor
  obtain ⟨_, hunrelated, _⟩ := answer_push sparseRequest Settings.default metricsMonitor
  obtain ⟨_, hitems, _⟩ := hnear hneighbour
  exact ⟨hneighbour, hother, hmisplaced, hitems _ hmisplaced, (hunrelated hother).1, hrecommended,
    hrecommend _ hrecommended⟩

end ClusterAdvisor
