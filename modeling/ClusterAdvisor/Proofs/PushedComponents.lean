import ClusterAdvisor.Proofs.Growth

/-!
Services that are built component by component. Each service has one entry, which a component joins
at the end; so the services stand in the order in which their names appear first, and the components
of each of them in the order in which they came.
-/

namespace ClusterAdvisor

namespace Services

/-- The services that some components make, added in order to no services at all. -/
def ofComponents (ds : List Component) : Services := ds.foldl push ⟨[], ∅⟩

theorem ofComponents_concat (ds : List Component) (d : Component) :
    ofComponents (ds ++ [d]) = (ofComponents ds).push d := by
  rw [ofComponents, List.foldl_concat, ofComponents]

/-- The names of the services of some components, in the order of their first appearance. -/
def namesOf (ds : List Component) : List String := (ds.map (·.service)).eraseDups

/-- One service for each name, with the components of that name. -/
def grouped (ds : List Component) : List Service :=
  (namesOf ds).map fun name => ⟨name, ds.filter (·.service = name)⟩

theorem mem_namesOf {ds : List Component} {name : String} :
    name ∈ namesOf ds ↔ ∃ d ∈ ds, d.service = name := by
  rw [namesOf, List.mem_eraseDups, List.mem_map]

/-- A name is new only where it appears first. -/
theorem namesOf_concat (ds : List Component) (d : Component) :
    namesOf (ds ++ [d]) = namesOf ds ++ if d.service ∈ namesOf ds then [] else [d.service] := by
  rw [namesOf, List.map_append, List.map_singleton, List.eraseDups_append, ← namesOf]
  congr 1
  simp only [mem_namesOf]
  by_cases hname : ∃ other ∈ ds, other.service = d.service
  · simp [List.removeAll, hname]
  · simp [List.removeAll, hname, List.eraseDups_cons]

/-- A name that appears earlier stands earlier. -/
theorem pairwise_namesOf (ds : List Component) :
    (namesOf ds).Pairwise fun name other =>
      (ds.map (·.service)).idxOf name < (ds.map (·.service)).idxOf other := by
  induction ds using List.reverseRecOn with
  | nil => exact List.Pairwise.nil
  | append_singleton ds d ih =>
    have hold {name : String} (hname : name ∈ namesOf ds) :
        ((ds ++ [d]).map (·.service)).idxOf name = (ds.map (·.service)).idxOf name := by
      rw [List.map_append]
      exact List.idxOf_append_of_mem (List.mem_eraseDups.mp hname)
    rw [namesOf_concat, List.pairwise_append]
    refine ⟨ih.imp_of_mem fun hname hother => ?_, ?_, ?_⟩
    · rw [hold hname, hold hother]
      exact id
    · split <;> simp
    · intro name hname other hother
      split at hother
      · cases hother
      · rename_i hnew
        obtain rfl := List.mem_singleton.mp hother
        have hunseen : d.service ∉ ds.map (·.service) := mt List.mem_eraseDups.mpr hnew
        rw [hold hname, List.map_append, List.idxOf_append_of_notMem hunseen]
        exact Nat.lt_add_right _ (List.idxOf_lt_length_of_mem (List.mem_eraseDups.mp hname))

/-- A component joins the group of its name; if there is none, it makes a group of its own. -/
theorem addComponent_map {names : List String} (hnames : names.Nodup) (d : Component)
    (members : String → List Component) :
    addComponent d (names.map fun name => ⟨name, members name⟩) =
      (names.map fun name => ⟨name, members name ++ if d.service = name then [d] else []⟩) ++
        if d.service ∈ names then [] else [⟨d.service, [d]⟩] := by
  induction names with
  | nil => rfl
  | cons name rest ih =>
    obtain ⟨hnew, hrest⟩ := List.nodup_cons.mp hnames
    by_cases hname : name = d.service
    · -- The search ends here, and no service behind has the same name.
      subst hname
      have hothers : rest.map (fun name => (⟨name, members name⟩ : Service)) =
          rest.map fun name => ⟨name, members name ++ if d.service = name then [d] else []⟩ := by
        apply List.map_congr_left
        intro other hother
        have hne : d.service ≠ other := fun heq => hnew (heq ▸ hother)
        simp [hne]
      simp [addComponent, hothers]
    · simp [addComponent, hname, Ne.symm hname, ih hrest]

/-- The step of the induction over the components: one more goes to its group, or starts a group at
the end. -/
theorem addComponent_grouped (ds : List Component) (d : Component) :
    addComponent d (grouped ds) = grouped (ds ++ [d]) := by
  have hmembers (name : String) : (ds ++ [d]).filter (·.service = name) =
      ds.filter (·.service = name) ++ if d.service = name then [d] else [] := by
    rw [List.filter_append, List.filter_singleton]
    simp
  have hnames : (namesOf ds).Nodup := nodup_eraseDups _
  rw [grouped, addComponent_map hnames, grouped, namesOf_concat, List.map_append]
  simp only [hmembers]
  split
  · rfl
  · rename_i hnew
    have hnone : ds.filter (·.service = d.service) = [] := by
      rw [List.filter_eq_nil_iff]
      intro other hother hsame
      exact hnew (mem_namesOf.mpr ⟨other, hother, of_decide_eq_true hsame⟩)
    simp [hnone]

theorem services_ofComponents (ds : List Component) : (ofComponents ds).services = grouped ds := by
  induction ds using List.reverseRecOn with
  | nil => rfl
  | append_singleton ds d ih =>
    rw [ofComponents_concat, ← addComponent_grouped, ← ih]
    rfl

/-- Grouping loses nothing and repeats nothing. -/
theorem components_ofComponents_perm (ds : List Component) :
    (ofComponents ds).components.Perm ds := by
  induction ds using List.reverseRecOn with
  | nil => exact .refl _
  | append_singleton ds d ih =>
    obtain ⟨front, back, hbefore, hbehind⟩ := (ofComponents ds).exists_components_push d
    rw [ofComponents_concat, hbehind]
    rw [hbefore] at ih
    exact (List.perm_middle.trans (ih.cons d)).trans (List.perm_append_singleton d ds).symm

theorem serviceHosts_ofComponents (ds : List Component) (service name : String) :
    (ofComponents ds).serviceHosts service name =
      (ds.filter fun d => d.service = service ∧ d.name = name).flatMap (·.hosts) := by
  induction ds using List.reverseRecOn with
  | nil => rfl
  | append_singleton ds d ih =>
    rw [ofComponents_concat, serviceHosts_push, ih, List.filter_append, List.flatMap_append]
    by_cases hservice : d.service = service <;> by_cases hname : d.name = name <;>
      simp [hservice, hname, Component.hostsFor]

/-- Components that are added one by one are grouped by their services and none is lost: there is
one service for each name, in the order in which the names appear first, and it has the components
of that name in the order in which they were added. So a host is found under a service and a
component exactly if it was listed with both names. -/
theorem pushed_components_grouped (ds : List Component) :
    (ofComponents ds).services =
        (namesOf ds).map (fun name => ⟨name, ds.filter (·.service = name)⟩) ∧
      (namesOf ds).Nodup ∧
      (∀ name, name ∈ namesOf ds ↔ ∃ d ∈ ds, d.service = name) ∧
      ((namesOf ds).Pairwise fun name other =>
        (ds.map (·.service)).idxOf name < (ds.map (·.service)).idxOf other) ∧
      (ofComponents ds).components =
        (namesOf ds).flatMap (fun name => ds.filter (·.service = name)) ∧
      (ofComponents ds).components.Perm ds ∧
      ∀ service name, (ofComponents ds).serviceHosts service name =
        (ds.filter fun d => d.service = service ∧ d.name = name).flatMap (·.hosts) := by
  refine ⟨services_ofComponents ds, nodup_eraseDups _, fun _ => mem_namesOf, pairwise_namesOf ds,
    ?_, components_ofComponents_perm ds, serviceHosts_ofComponents ds⟩
  rw [components, services_ofComponents, grouped, List.flatMap_map]

end Services

end ClusterAdvisor
