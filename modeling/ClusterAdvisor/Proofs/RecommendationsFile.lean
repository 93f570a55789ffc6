import ClusterAdvisor.Proofs.Adoption
import ClusterAdvisor.Proofs.ConfigurationCheck
import ClusterAdvisor.Proofs.ServicesDocument

/-!
Files of recommended defaults: a configuration by itself, or a whole answer to a recommendation. The
two are never taken for each other, whatever the sites are named, and each is read back as the
configuration that it holds. The answer has three levels of braces more, so that it may be too deep
where the configuration by itself is not.
-/

namespace ClusterAdvisor

open Json Rules

/-- A configuration by itself is never taken for an answer: a site has no member but its
properties. -/
theorem nestedConfigurations?_toValue (c : Configurations) :
    nestedConfigurations? c.toValue.sorted = none := by
  let sites := c.entries.map fun site => (site.1, (Site.schema.toValue site.2).sorted)
  have hascending : Ascending sites := by
    simpa [sites, Ascending, List.pairwise_map] using c.ascending
  have hsorted : c.toValue.sorted = .object sites := by
    rw [Configurations.toValue, Configurations.schema, Schema.toValue, Value.sorted_object,
      Value.ofMembers, List.map_map]
    exact congrArg Value.object (sortEntries_eq_self hascending)
  rw [hsorted, nestedConfigurations?, Value.member?]
  cases hlookup : sites.lookup "recommendations" with
  | none => rfl
  | some v =>
    -- Even the site of that name has its properties and no member called `blueprint`.
    obtain ⟨site, _, heq⟩ :=
      List.mem_map.mp ((lookup_eq_some_iff_mem hascending.nodup_keysOf).mp hlookup)
    obtain ⟨_, rfl⟩ := Prod.mk.inj heq
    rfl

/-- What a document of recommended defaults is read as. -/
theorem recommendedDefaults_of_tidy {c : Configurations} {v : Value} {text : String} (htidy : v.Tidy)
    (hdepth : v.depth ≤ depthLimit) (htext : text ∈ [v.compact, v.pretty])
    (hfound : (nestedConfigurations? v.sorted).getD v.sorted = c.toValue.sorted)
    (hreturns : Configurations.schema.Returns c) : recommendedDefaults text = .ok c := by
  have hread := (Value.ofText_eq_ok_iff (spelled_of_mem_layouts htidy.noReal htext)).mpr ⟨hdepth, rfl⟩
  rw [recommendedDefaults, hread]
  simp only [hfound]
  exact Configurations.schema.ofValue_toValue hreturns

/-- A configuration by itself has three levels of its own around a property. -/
theorem recommendedDefaults_configuration {c : Configurations} (h : c.Loadable 3) {text : String}
    (htext : text ∈ [c.toValue.compact, c.toValue.pretty]) : recommendedDefaults text = .ok c := by
  have htidy : c.toValue.Tidy := Configurations.schema.tidy_toValue h.returns
  refine recommendedDefaults_of_tidy htidy (h.depth_le (n := 124) rfl) htext ?_ h.returns
  rw [nestedConfigurations?_toValue, Option.getD_none]

theorem tidy_response {c : Configurations} (h : c.toValue.Tidy) :
    (Response.recommended c).toValue.Tidy := by
  simp [Response.toValue, Value.tidy_object_iff, keysOf, h]

/-- An answer has three more levels around a configuration, which is why it needs more room. -/
theorem depth_response (c : Configurations) :
    (Response.recommended c).toValue.depth = c.toValue.depth + 3 := by
  simp [Response.toValue, Value.depth, Value.depthMembers]

/-- The configuration is looked for where an answer holds it, before the whole is taken for a
configuration. -/
theorem recommendedDefaults_response {c : Configurations} (h : c.Loadable 6) {text : String}
    (htext : text ∈ [(Response.recommended c).toValue.compact,
      (Response.recommended c).toValue.pretty]) :
    recommendedDefaults text = .ok c := by
  have htidy : c.toValue.Tidy := Configurations.schema.tidy_toValue h.returns
  refine recommendedDefaults_of_tidy (tidy_response htidy) ?_ htext rfl h.returns
  rw [depth_response]
  exact Nat.add_le_add_right (h.depth_le (n := 121) rfl) 3

/-- A document that is too deep is refused, whatever it holds. -/
theorem recommendedDefaults_of_deep {v : Value} {text : String} (hreal : v.HoldsNoReal)
    (hdeep : depthLimit < v.depth) (htext : text ∈ [v.compact, v.pretty]) :
    (recommendedDefaults text).toOption = none := by
  have hspelled : Spelled text v := spelled_of_mem_layouts hreal htext
  rw [recommendedDefaults]
  cases hread : Value.ofText text with
  | error fault => rfl
  | ok found =>
    have hdepth := ((Value.ofText_eq_ok_iff hspelled).mp hread).1
    exact absurd hdepth (Nat.not_le_of_lt hdeep)

/-! ### Checking against the recommendation -/

/-- Recommending keeps the Storm site where it is and sets up none. -/
theorem Rules.Recommends.contains_stormSite {s : Services} {as : List Assignment}
    {advised : Advised} (h : Recommends s as (.ok advised)) :
    (s.configurations.assignAll as).contains stormSite = s.configurations.contains stormSite := by
  rw [Bool.eq_iff_iff, Configurations.contains_assignAll]
  constructor
  · rintro (hbefore | ⟨a, hmember, hsite⟩)
    · exact hbefore
    · cases h with
      | withoutStorm hmysql hnone =>
        obtain rfl := List.mem_singleton.mp hmember
        exact absurd (show metronEnv = stormSite from hsite) (by decide)
      | complete hmysql hsome hui hport => simp [Table.contains, hsome]
  · exact Or.inl

/-- The check looks at the defaults only for whether they have a Storm site. -/
theorem Request.answer_validateConfigurations_recommended {r : Request} {settings : Settings}
    {c : Configurations} (hdefaults : r.defaults = none)
    (hok : r.answer settings .recommendConfigurations = .ok (.recommended c)) :
    { r with defaults := some c }.answer settings .validateConfigurations =
      r.answer settings .validateConfigurations := by
  obtain ⟨as, advised, h, hresponse⟩ := Request.answer_recommend_ok_iff.mp hok
  obtain rfl := Response.recommended.inj hresponse
  apply Request.AgreesOnStorm.answer_eq
  have hsites : r.effectiveDefaults = r.services.configurations := by
    rw [Request.effectiveDefaults, hdefaults, Option.getD_none]
  exact ⟨rfl, by rw [hsites]; exact h.contains_stormSite, rfl, rfl, rfl⟩

/-- A request is loaded if every file can be read and its document is understood. -/
theorem RequestFiles.load_eq_ok_iff {paths : RequestFiles} {files : Files} {r : Request} :
    paths.load files = .ok r ↔
      (∃ text, readText files paths.hosts = .ok text ∧ Hosts.ofText text = .ok r.hosts) ∧
      (∃ text, readText files paths.services = .ok text ∧
        Services.ofText text = .ok r.services) ∧
      (paths.recommendations.elim (r.defaults = none) fun path => ∃ text c,
        readText files path = .ok text ∧ recommendedDefaults text = .ok c ∧
          r.defaults = some c) ∧
      r.clusterData = .null := by
  obtain ⟨services, hosts, defaults, clusterData⟩ := r
  simp only [load, bind_eq_ok_iff, mapError_eq_ok_iff]
  cases paths.recommendations with
  | none =>
    constructor
    · rintro ⟨hostsText, hhostsText, found, hhosts, servicesText, hservicesText, read, hservices, hr⟩
      cases hr
      exact ⟨⟨hostsText, hhostsText, hhosts⟩, ⟨servicesText, hservicesText, hservices⟩, rfl, rfl⟩
    · rintro ⟨⟨hostsText, hhostsText, hhosts⟩, ⟨servicesText, hservicesText, hservices⟩, rfl, rfl⟩
      exact ⟨hostsText, hhostsText, hosts, hhosts, servicesText, hservicesText, services, hservices,
        rfl⟩
  | some path =>
    simp only [bind_eq_ok_iff, mapError_eq_ok_iff]
    constructor
    · rintro ⟨hostsText, hhostsText, found, hhosts, servicesText, hservicesText, read, hservices,
        text, htext, c, hc, hr⟩
      cases hr
      exact ⟨⟨hostsText, hhostsText, hhosts⟩, ⟨servicesText, hservicesText, hservices⟩,
        ⟨text, c, htext, hc, rfl⟩, rfl⟩
    · rintro ⟨⟨hostsText, hhostsText, hhosts⟩, ⟨servicesText, hservicesText, hservices⟩,
        ⟨text, c, htext, hc, rfl⟩, rfl⟩
      exact ⟨hostsText, hhostsText, hosts, hhosts, servicesText, hservicesText, services, hservices,
        text, htext, c, hc, rfl⟩

/-- A request with a file of defaults is the request without it, with the defaults of the file. -/
theorem RequestFiles.load_recommendations {paths : RequestFiles} {files : Files} {r : Request}
    {path text : String} {c : Configurations}
    (h : { paths with recommendations := none }.load files = .ok r)
    (htext : readText files path = .ok text) (hc : recommendedDefaults text = .ok c) :
    r.defaults = none ∧
      { paths with recommendations := some path }.load files = .ok { r with defaults := some c } := by
  obtain ⟨hhosts, hservices, hnone, hdata⟩ := load_eq_ok_iff.mp h
  exact ⟨hnone, load_eq_ok_iff.mpr ⟨hhosts, hservices, ⟨text, c, htext, hc, rfl⟩, hdata⟩⟩

/-- What is recommended for services that have been read can be read as well, if the answer is not
too deep: every value is one that was read, or a text. -/
theorem Request.loadable_recommended {r : Request} {settings : Settings} {c : Configurations}
    {source : String} (hsource : Services.ofText source = .ok r.services)
    (hok : r.answer settings .recommendConfigurations = .ok (.recommended c))
    (hreal : c.HoldsNoReal) (hdepth : (Response.recommended c).toValue.depth ≤ depthLimit) :
    c.Loadable 6 := by
  obtain ⟨as, advised, _, hresponse⟩ := Request.answer_recommend_ok_iff.mp hok
  obtain rfl := Response.recommended.inj hresponse
  rw [depth_response] at hdepth
  have hshallow := (Configurations.depth_toValue_le_iff (n := 121)).mp
    (Nat.le_of_add_le_add_right hdepth)
  intro site name p hproperty
  rcases Configurations.property?_assignAll_cases hproperty with hbefore | ⟨a, _, rfl⟩
  · obtain ⟨hproducible, _⟩ := PropertyValue.producible_of_reads
      (Services.reads_of_ofText hsource hbefore) (by decide)
    obtain ⟨found, hsite, hentry⟩ := Configurations.property?_eq_some_iff.mp hproperty
    exact ⟨hproducible, hreal site name p hproperty,
      Nat.add_le_add_right (hshallow _ hsite _ hentry) 6⟩
  · exact PropertyValue.loads_text a.value (by decide)

/-- A configuration is read back from its own document and from an answer that recommends it, as long
as there is room in the document that is read. A request for which it is recommended then gets the
same answer from the check, whether that answer is its file of defaults or it has none. -/
theorem recommendations_load_back (c : Configurations) :
    (c.Loadable 3 → ∀ text ∈ [c.toValue.compact, c.toValue.pretty],
      recommendedDefaults text = .ok c) ∧
    (c.Loadable 6 → ∀ text ∈ [(Response.recommended c).toValue.compact,
      (Response.recommended c).toValue.pretty], recommendedDefaults text = .ok c) ∧
    ∀ (paths : RequestFiles) (files : Files) (r : Request) (settings : Settings),
      { paths with recommendations := none }.load files = .ok r →
      r.answer settings .recommendConfigurations = .ok (.recommended c) →
      c.HoldsNoReal → (Response.recommended c).toValue.depth ≤ depthLimit →
      ∀ path, ∀ text ∈ [(Response.recommended c).toValue.compact,
          (Response.recommended c).toValue.pretty], readText files path = .ok text →
        ∃ other, { paths with recommendations := some path }.load files = .ok other ∧
          other.answer settings .validateConfigurations =
            r.answer settings .validateConfigurations := by
  refine ⟨fun h text htext => recommendedDefaults_configuration h htext,
    fun h text htext => recommendedDefaults_response h htext, ?_⟩
  intro paths files r settings hload hok hreal hdepth path text htext hfile
  obtain ⟨_, ⟨source, _, hsource⟩, _⟩ := RequestFiles.load_eq_ok_iff.mp hload
  have hloadable : c.Loadable 6 := Request.loadable_recommended hsource hok hreal hdepth
  obtain ⟨hdefaults, hother⟩ :=
    RequestFiles.load_recommendations hload hfile (recommendedDefaults_response hloadable htext)
  exact ⟨_, hother, Request.answer_validateConfigurations_recommended hdefaults hok⟩

theorem readText_toUTF8 {files : Files} {path text : String} (h : files path = some text.toUTF8) :
    readText files path = .ok text := by
  have hback : String.fromUTF8? text.toUTF8 = some text := by
    simp only [String.fromUTF8?, Option.dite_none_right_eq_some]
    exact ⟨text.isValidUTF8, rfl⟩
  rw [readText, h, Option.bind_some, hback]

theorem loadable_smallCluster : smallCluster.configurations.Loadable 4 := by
  have hvalues : smallCluster.configurations.values =
      [.list [.text "/opt/lib", .text "/etc/hbase/conf"], .text "8744"] := rfl
  rw [Configurations.loadable_iff_values, hvalues]
  simp only [List.forall_mem_cons, List.not_mem_nil, false_implies, implies_true, and_true]
  have hpaths : (Value.array [.text "/opt/lib", .text "/etc/hbase/conf"]).Tidy := by
    simp [Value.tidy_array_iff, Value.tidy_text]
  exact ⟨PropertyValue.loads_ofValue rfl hpaths (by decide), PropertyValue.loads_text _ (by decide)⟩

theorem loadable_smallRecommendation : smallRecommendation.Loadable 6 := by
  have hvalues : smallRecommendation.values =
      [.text "node3", .text "node1:8744", .text "/opt/lib,/etc/hbase/conf:/etc/hadoop/conf",
        .text "8744"] := rfl
  rw [Configurations.loadable_iff_values, hvalues]
  simp only [List.forall_mem_cons, List.not_mem_nil, false_implies, implies_true, and_true]
  exact ⟨PropertyValue.loads_text _ (by decide), PropertyValue.loads_text _ (by decide),
    PropertyValue.loads_text _ (by decide), PropertyValue.loads_text _ (by decide)⟩

/-- The documents of the small request, and the answer that recommends a configuration for it. -/
def smallFiles : Files
  | "hosts" => some (Hosts.schema.toValue smallRequest.hosts).pretty.toUTF8
  | "services" => some (Services.schema.toValue smallCluster).pretty.toUTF8
  | "recommended" => some (Response.recommended smallRecommendation).toValue.pretty.toUTF8
  | _ => none

theorem load_smallFiles :
    RequestFiles.load ⟨"hosts", "services", none⟩ smallFiles = .ok smallRequest := by
  have hhosts : Hosts.ofText (Hosts.schema.toValue smallRequest.hosts).pretty =
      .ok smallRequest.hosts := by
    have hreturns : Hosts.schema.Returns smallRequest.hosts := by
      simp [Hosts.schema, Hosts.hostSchema, Schema.Returns, Fields.Returns, Fields.keys]
    have hread := Hosts.schema.ofText_toValue hreturns (by decide) (pretty_mem_layouts _)
    rw [Hosts.ofText, parseDocument, hread]
  have hservices : Services.ofText (Services.schema.toValue smallCluster).pretty =
      .ok smallCluster :=
    Services.ofText_toValue loadable_smallCluster (pretty_mem_layouts _)
  have hhostsText : readText smallFiles "hosts" =
      .ok (Hosts.schema.toValue smallRequest.hosts).pretty :=
    readText_toUTF8 (by simp only [smallFiles])
  have hservicesText : readText smallFiles "services" =
      .ok (Services.schema.toValue smallCluster).pretty :=
    readText_toUTF8 (by simp only [smallFiles])
  exact RequestFiles.load_eq_ok_iff.mpr
    ⟨⟨_, hhostsText, hhosts⟩, ⟨_, hservicesText, hservices⟩, rfl, rfl⟩

theorem recommendations_load_back_of_smallRequest :
    smallRecommendation.Loadable 3 ∧ smallRecommendation.Loadable 6 ∧
      recommendedDefaults smallRecommendation.toValue.compact = .ok smallRecommendation ∧
      recommendedDefaults (Response.recommended smallRecommendation).toValue.compact =
        .ok smallRecommendation ∧
      RequestFiles.load ⟨"hosts", "services", none⟩ smallFiles = .ok smallRequest ∧
      smallRequest.answer Settings.default .recommendConfigurations =
        .ok (.recommended smallRecommendation) ∧
      smallRecommendation.HoldsNoReal ∧
      (Response.recommended smallRecommendation).toValue.depth ≤ depthLimit ∧
      readText smallFiles "recommended" =
        .ok (Response.recommended smallRecommendation).toValue.pretty ∧
      ∃ other, RequestFiles.load ⟨"hosts", "services", some "recommended"⟩ smallFiles = .ok other ∧
        other.answer Settings.default .validateConfigurations =
          smallRequest.answer Settings.default .validateConfigurations := by
  have hbare : smallRecommendation.Loadable 3 := loadable_smallRecommendation.mono (by decide)
  have hreal := loadable_smallRecommendation.holdsNoReal
  have hdepth : (Response.recommended smallRecommendation).toValue.depth ≤ depthLimit := by decide
  have hfile : readText smallFiles "recommended" =
      .ok (Response.recommended smallRecommendation).toValue.pretty :=
    readText_toUTF8 (by simp only [smallFiles])
  obtain ⟨hown, hanswer, hrequest⟩ := recommendations_load_back smallRecommendation
  exact ⟨hbare, loadable_smallRecommendation, hown hbare _ List.mem_cons_self,
    hanswer loadable_smallRecommendation _ List.mem_cons_self, load_smallFiles, rfl, hreal, hdepth,
    hfile, hrequest ⟨"hosts", "services", none⟩ smallFiles smallRequest Settings.default
      load_smallFiles rfl hreal hdepth "recommended" _ (pretty_mem_layouts _) hfile⟩

/-! ### An answer that is too deep -/

def nestedArrays : (levels : Nat) → Value
  | 0 => .array []
  | levels + 1 => .array [nestedArrays levels]

theorem depth_nestedArrays (levels : Nat) : (nestedArrays levels).depth = levels + 1 := by
  induction levels with
  | zero => rfl
  | succ levels ih => simp [nestedArrays, Value.depth, Value.depthItems, ih]

theorem tidy_nestedArrays (levels : Nat) : (nestedArrays levels).Tidy := by
  induction levels with
  | zero => simp [nestedArrays, Value.tidy_array_iff]
  | succ levels ih => simp [nestedArrays, Value.tidy_array_iff, ih]

theorem sorted_nestedArrays (levels : Nat) : (nestedArrays levels).sorted = nestedArrays levels := by
  induction levels with
  | zero => rfl
  | succ levels ih => simp [nestedArrays, ih]

/-- A cluster with a property nested so deep that the document of the services has room for it, and
the answer to a recommendation has not. -/
def deepCluster : Services where
  services := [⟨metron, [⟨metronMysql, metron, ["node1"]⟩]⟩]
  configurations := (∅ : Configurations).put "deep-site" "nested" (.list [nestedArrays 120])

def deepRequest : Request := ⟨deepCluster, ⟨[]⟩, none, .null⟩

def deepRecommendation : Configurations :=
  deepCluster.configurations.put metronEnv mysqlHost (.text "node1")

theorem loads_nestedArrays : (PropertyValue.list [nestedArrays 120]).Loads 4 := by
  refine PropertyValue.loads_ofValue (sorted_nestedArrays 121) (tidy_nestedArrays 121) ?_
  rw [depth_nestedArrays]
  decide

theorem loadable_deepCluster : deepCluster.configurations.Loadable 4 := by
  rw [Configurations.loadable_iff_values]
  exact List.forall_mem_singleton.mpr loads_nestedArrays

theorem loadable_deepRecommendation : deepRecommendation.Loadable 4 := by
  rw [Configurations.loadable_iff_values]
  exact List.forall_mem_cons.mpr ⟨loads_nestedArrays,
    List.forall_mem_singleton.mpr (PropertyValue.loads_text "node1" (by decide))⟩

/-- The property with the arrays is what the answer has no room for. -/
theorem depthLimit_lt_depth_deepAnswer :
    depthLimit < (Response.recommended deepRecommendation).toValue.depth := by
  rw [depth_response, Nat.lt_iff_add_one_le]
  by_contra hroom
  have hshallow : deepRecommendation.toValue.depth ≤ 121 + 3 := by
    have : depthLimit = 127 := rfl
    omega
  rw [Configurations.depth_toValue_le_iff] at hshallow
  have hnested : (nestedArrays 121).depth ≤ 121 :=
    hshallow _ List.mem_cons_self _ List.mem_cons_self
  rw [depth_nestedArrays] at hnested
  omega

/-- The deep cluster is read from its document, recommending succeeds for it, and what is recommended
is read back from its own document, but not from the answer. With the answer as the file of defaults,
no request is loaded. -/
theorem deep_answer_not_loaded_back :
    Services.ofText (Services.schema.toValue deepCluster).pretty = .ok deepCluster ∧
      deepRequest.answer Settings.default .recommendConfigurations =
        .ok (.recommended deepRecommendation) ∧
      deepRecommendation.Loadable 4 ∧
      recommendedDefaults deepRecommendation.toValue.pretty = .ok deepRecommendation ∧
      (recommendedDefaults (Response.recommended deepRecommendation).toValue.pretty).toOption =
        none ∧
      ∀ (paths : RequestFiles) (files : Files) (path : String) (other : Request),
        readText files path = .ok (Response.recommended deepRecommendation).toValue.pretty →
        { paths with recommendations := some path }.load files ≠ .ok other := by
  have htidy : (Response.recommended deepRecommendation).toValue.Tidy :=
    tidy_response (Configurations.schema.tidy_toValue loadable_deepRecommendation.returns)
  have hrefused := recommendedDefaults_of_deep htidy.noReal depthLimit_lt_depth_deepAnswer
    (pretty_mem_layouts _)
  refine ⟨Services.ofText_toValue loadable_deepCluster (pretty_mem_layouts _), rfl,
    loadable_deepRecommendation,
    recommendedDefaults_configuration (loadable_deepRecommendation.mono (by decide))
      (pretty_mem_layouts _),
    hrefused, fun paths files path other htext hload => ?_⟩
  obtain ⟨-, -, ⟨found, c, hfound, hread, -⟩, -⟩ := RequestFiles.load_eq_ok_iff.mp hload
  obtain rfl := Except.ok.inj (htext.symm.trans hfound)
  rw [hread] at hrefused
  cases hrefused

end ClusterAdvisor
