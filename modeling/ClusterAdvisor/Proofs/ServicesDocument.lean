import ClusterAdvisor.Proofs.ReadValues
import ClusterAdvisor.Proofs.SchemaRoundTrip
import ClusterAdvisor.RequestFiles

/-!
Documents of services and of configurations, written and read back. Only the values of properties
stand in the way: they have to be values that reading can give, without real numbers.
-/

namespace ClusterAdvisor

open Json

namespace PropertyValue

theorem toValue_signed {n : Integer} {i : Int64} (h : signed? n = some i) :
    (PropertyValue.integer i).toValue = .integer n := by
  unfold signed? at h
  split at h
  · rename_i hupper
    cases h
    have hval : (Int64.ofInt n.val).toInt = n.val :=
      Int64.toInt_ofInt_of_le n.lower hupper
    rw [toValue]
    congr
  · cases h

/-- Nothing of a value is lost when it becomes the value of a property. -/
theorem toValue_ofValue (v : Value) : (ofValue v).toValue = v := by
  cases v with
  | integer n =>
    rw [ofValue]
    split
    · rename_i hsigned
      exact toValue_signed hsigned
    · rfl
  | _ => rfl

/-- Some text is read as the value. -/
def Producible (p : PropertyValue) : Prop := ∃ text, schema.ofText text = .ok p

end PropertyValue

theorem Json.Reader.document_map {α β : Type} (f : α → β) (reader : Reader α) (text : String) :
    (reader.map f).document text = (reader.document text).map f := by
  unfold Reader.document
  simp only [Reader.map]
  cases reader.run text.toList with
  | error fault => rfl
  | ok found =>
    simp only
    split
    · rfl
    · rfl

namespace PropertyValue

/-- What is read as the value of a property is a sorted value, taken as it is. -/
theorem producible_iff {p : PropertyValue} :
    p.Producible ↔ ∃ text v, Value.ofText text = .ok v ∧ ofValue v = p := by
  have hread : ∀ text, schema.ofText text = (Value.ofText text).map ofValue := fun text =>
    Reader.document_map ofValue (Reader.value depthLimit) text
  constructor
  · rintro ⟨text, h⟩
    rw [hread] at h
    cases hvalue : Value.ofText text with
    | error fault =>
      rw [hvalue] at h
      cases h
    | ok v =>
      rw [hvalue] at h
      exact ⟨text, v, hvalue, Except.ok.inj h⟩
  · rintro ⟨text, v, hvalue, rfl⟩
    refine ⟨text, ?_⟩
    rw [hread, hvalue]
    rfl

/-- What is read as part of a document could be read by itself, and is not deeper than the room that
there was for it. -/
theorem producible_of_reads {room : Nat} {p : PropertyValue} (h : schema.Reads room p)
    (hroom : room ≤ depthLimit) : p.Producible ∧ p.toValue.depth ≤ room := by
  rw [schema, Schema.Reads] at h
  obtain ⟨v, hv, rfl⟩ := h
  obtain ⟨text, htext⟩ := hv.exists_ofText hroom
  rw [toValue_ofValue]
  exact ⟨producible_iff.mpr ⟨text, v, htext, rfl⟩, hv.depth_le⟩

/-- The value can be read, holds no real number, and leaves room for some levels of brackets around
it. -/
structure Loads (levels : Nat) (p : PropertyValue) : Prop where
  producible : p.Producible
  noReal : p.toValue.HoldsNoReal
  depth_le : p.toValue.depth + levels ≤ depthLimit

theorem Loads.mono {levels fewer : Nat} {p : PropertyValue} (h : p.Loads levels)
    (hfewer : fewer ≤ levels) : p.Loads fewer :=
  ⟨h.producible, h.noReal, Nat.le_trans (Nat.add_le_add_left hfewer _) h.depth_le⟩

theorem Loads.returns {levels : Nat} {p : PropertyValue} (h : p.Loads levels) : schema.Returns p := by
  obtain ⟨text, v, hvalue, rfl⟩ := producible_iff.mp h.producible
  obtain ⟨tree, _, _, rfl⟩ := exists_spelled_of_ofText hvalue
  have hback := toValue_ofValue tree.sorted
  rw [schema, Schema.Returns]
  exact ⟨by rw [hback], by rw [hback, tree.sorted_sorted], h.noReal⟩

/-- A sorted value without real numbers can be read, as it can be written down. -/
theorem loads_ofValue {levels : Nat} {v : Value} (hsorted : v.sorted = v) (htidy : v.Tidy)
    (hdepth : v.depth + levels ≤ depthLimit) : (ofValue v).Loads levels := by
  have hspelled : Spelled v.compact v := spelled_of_mem_layouts htidy.noReal List.mem_cons_self
  have hread := (Value.ofText_eq_ok_iff hspelled).mpr ⟨by omega, hsorted⟩
  refine ⟨producible_iff.mpr ⟨v.compact, v, hread, rfl⟩, ?_, ?_⟩
  · rw [toValue_ofValue]
    exact htidy.noReal
  · rw [toValue_ofValue]
    exact hdepth

theorem loads_text {levels : Nat} (s : String) (h : levels ≤ depthLimit) : (text s).Loads levels :=
  loads_ofValue rfl (Value.tidy_text s) (by simpa [Value.depth] using h)

end PropertyValue

namespace Configurations

/-- The value of every property loads, with as many levels of brackets around it. -/
def Loadable (levels : Nat) (c : Configurations) : Prop :=
  ∀ site name p, c.property? site name = some p → p.Loads levels

/-- No property has a real number in its value. -/
def HoldsNoReal (c : Configurations) : Prop :=
  ∀ site name p, c.property? site name = some p → p.toValue.HoldsNoReal

variable {c : Configurations} {levels : Nat}

theorem Loadable.holdsNoReal (h : c.Loadable levels) : c.HoldsNoReal :=
  fun site name p hproperty => (h site name p hproperty).noReal

theorem Loadable.mono {fewer : Nat} (h : c.Loadable levels) (hfewer : fewer ≤ levels) :
    c.Loadable fewer :=
  fun site name p hproperty => (h site name p hproperty).mono hfewer

theorem property?_eq_some_iff {site name : String} {p : PropertyValue} :
    c.property? site name = some p ↔
      ∃ found, (site, found) ∈ c.entries ∧ (name, p) ∈ found.entries := by
  rw [property?, Option.bind_eq_some_iff]
  refine exists_congr fun found => and_congr ?_ ?_
  · exact lookup_eq_some_iff_mem c.ascending.nodup_keysOf
  · exact lookup_eq_some_iff_mem found.ascending.nodup_keysOf

theorem loadable_iff_entries :
    c.Loadable levels ↔ ∀ site ∈ c.entries, ∀ entry ∈ site.2.entries, entry.2.Loads levels := by
  constructor
  · rintro h ⟨site, found⟩ hsite ⟨name, p⟩ hentry
    exact h site name p (property?_eq_some_iff.mpr ⟨found, hsite, hentry⟩)
  · intro h site name p hproperty
    obtain ⟨found, hsite, hentry⟩ := property?_eq_some_iff.mp hproperty
    exact h (site, found) hsite (name, p) hentry

def values (c : Configurations) : List PropertyValue :=
  c.entries.flatMap fun site => site.2.entries.map Prod.snd

/-- Where a value stands makes no difference for whether it loads. -/
theorem loadable_iff_values : c.Loadable levels ↔ ∀ p ∈ c.values, p.Loads levels := by
  rw [loadable_iff_entries, values]
  constructor
  · intro h p hp
    obtain ⟨site, hsite, hmem⟩ := List.mem_flatMap.mp hp
    obtain ⟨entry, hentry, rfl⟩ := List.mem_map.mp hmem
    exact h site hsite entry hentry
  · intro h site hsite entry hentry
    exact h entry.2 (List.mem_flatMap.mpr ⟨site, hsite, List.mem_map_of_mem hentry⟩)

theorem Loadable.returns (h : c.Loadable levels) : Configurations.schema.Returns c := by
  rw [Configurations.schema, Schema.Returns]
  intro site hsite
  rw [Site.schema, Schema.Returns]
  refine ⟨rfl, List.nodup_singleton _, ?_⟩
  rw [Fields.Returns, Schema.Returns]
  exact ⟨fun entry hentry => (loadable_iff_entries.mp h site hsite entry hentry).returns, trivial⟩

/-- Around a property stand the braces of all properties of the site, of the site and of all
sites. -/
theorem depth_toValue_le_iff {n : Nat} :
    c.toValue.depth ≤ n + 3 ↔
      ∀ site ∈ c.entries, ∀ entry ∈ site.2.entries, entry.2.toValue.depth ≤ n := by
  have hsite : ∀ site : Site, (Site.schema.toValue site).depth ≤ n + 2 ↔
      ∀ entry ∈ site.entries, entry.2.toValue.depth ≤ n := by
    intro site
    have hproperties : ((Schema.table PropertyValue.schema).toValue site).depth ≤ n + 1 ↔
        ∀ entry ∈ site.entries, entry.2.toValue.depth ≤ n := by
      rw [Schema.toValue, Value.depth_object_le_iff, List.forall_mem_map]
      rfl
    refine Iff.trans Value.depth_object_le_iff (Iff.trans ?_ hproperties)
    exact List.forall_mem_singleton
  refine Iff.trans Value.depth_object_le_iff (Iff.trans List.forall_mem_map ?_)
  exact forall₂_congr fun site _ => hsite site.2

/-- The deepest property decides how deep a configuration is. -/
theorem Loadable.depth_le {n : Nat} (h : c.Loadable levels) (hlevels : n + levels = depthLimit) :
    c.toValue.depth ≤ n + 3 := by
  refine depth_toValue_le_iff.mpr fun site hsite entry hentry => ?_
  have := (loadable_iff_entries.mp h site hsite entry hentry).depth_le
  omega

end Configurations

theorem Component.returns (c : Component) : Component.entrySchema.Returns c := by
  simp [Component.entrySchema, Component.schema, Schema.Returns, Fields.Returns, Fields.keys]

theorem Service.returns (s : Service) : Service.schema.Returns s := by
  simp [Service.schema, Service.nameSchema, Schema.Returns, Fields.Returns, Fields.keys,
    Component.returns]

theorem Component.depth_toValue_le (c : Component) : (Component.entrySchema.toValue c).depth ≤ 3 := by
  have hfields : (Component.schema.toValue c).depth ≤ 2 := by
    refine Value.depth_object_le_iff.mpr fun m hm => ?_
    simp only [Fields.toMembers, List.mem_cons, List.not_mem_nil, or_false] at hm
    rcases hm with rfl | rfl | rfl
    · exact Nat.zero_le 1
    · exact Nat.zero_le 1
    · exact Schema.depth_texts_le c.hosts
  refine Value.depth_object_le_iff.mpr fun m hm => ?_
  obtain rfl := List.mem_singleton.mp hm
  exact hfields

theorem Service.depth_toValue_le (s : Service) : (Service.schema.toValue s).depth ≤ 5 := by
  have hname : (Service.nameSchema.toValue s.name).depth ≤ 4 := by
    refine Value.depth_object_le_iff.mpr fun m hm => ?_
    obtain rfl := List.mem_singleton.mp hm
    exact Nat.zero_le 3
  have hcomponents : ((Schema.list Component.entrySchema).toValue s.components).depth ≤ 4 := by
    rw [Schema.toValue, Value.depth_array_le_iff]
    intro v hv
    obtain ⟨c, _, rfl⟩ := List.mem_map.mp hv
    exact c.depth_toValue_le
  refine Value.depth_object_le_iff.mpr fun m hm => ?_
  simp only [Fields.toMembers, List.mem_cons, List.not_mem_nil, or_false] at hm
  rcases hm with rfl | rfl
  · exact hname
  · exact hcomponents

namespace Services

variable {s : Services}

/-- A document has no open parts but the values of properties. -/
theorem returns (h : Configurations.schema.Returns s.configurations) : Services.schema.Returns s := by
  rw [Services.schema, Schema.Returns]
  refine ⟨rfl, by decide, ?_⟩
  simp only [Fields.Returns, Schema.Returns]
  exact ⟨fun service _ => service.returns, h, trivial⟩

theorem depth_toValue_le {n : Nat} (hsmall : 6 ≤ n) (h : s.configurations.toValue.depth ≤ n) :
    (Services.schema.toValue s).depth ≤ n + 1 := by
  have hservices : ((Schema.list Service.schema).toValue s.services).depth ≤ n := by
    obtain ⟨fewer, rfl⟩ : ∃ fewer, n = fewer + 1 := ⟨n - 1, by omega⟩
    rw [Schema.toValue, Value.depth_array_le_iff]
    intro v hv
    obtain ⟨service, _, rfl⟩ := List.mem_map.mp hv
    have := service.depth_toValue_le
    omega
  refine Value.depth_object_le_iff.mpr fun m hm => ?_
  simp only [Fields.toMembers, List.mem_cons, List.not_mem_nil, or_false] at hm
  rcases hm with rfl | rfl
  · exact hservices
  · exact h

theorem ofText_eq_ok_iff {text : String} :
    Services.ofText text = .ok s ↔ Services.schema.ofText text = .ok s := by
  unfold Services.ofText parseDocument
  cases Services.schema.ofText text with
  | error fault => simp
  | ok found => simp

/-- The four levels are the braces of the document, the configurations, the site and its properties.
-/
theorem ofText_toValue (h : s.configurations.Loadable 4) {text : String}
    (htext : text ∈ [(Services.schema.toValue s).compact, (Services.schema.toValue s).pretty]) :
    Services.ofText text = .ok s := by
  have hdepth : (Services.schema.toValue s).depth ≤ depthLimit :=
    depth_toValue_le (n := 126) (by decide) (h.depth_le rfl)
  exact ofText_eq_ok_iff.mpr (Services.schema.ofText_toValue (returns h.returns) hdepth htext)

/-- Around the values of the properties stand the braces of the document, of all sites, of the site
and of its properties. -/
theorem reads_of_ofText {source : String} (h : Services.ofText source = .ok s) {site name : String}
    {p : PropertyValue} (hproperty : s.configurations.property? site name = some p) :
    PropertyValue.schema.Reads (depthLimit - 4) p := by
  have hread := Services.schema.reads_ofText (ofText_eq_ok_iff.mp h)
  rw [Services.schema, Schema.Reads] at hread
  obtain ⟨⟨services, configurations, ⟨⟩⟩, rfl, hfields⟩ := hread
  obtain ⟨found, hsite, hentry⟩ := Configurations.property?_eq_some_iff.mp hproperty
  simp only [Fields.Reads, Configurations.schema, Schema.Reads] at hfields
  rcases hfields.2.1 with hblank | hsites
  · obtain rfl := Option.some.inj hblank
    cases hsite
  · have hfound := hsites _ hsite
    rw [Site.schema, Schema.Reads] at hfound
    obtain ⟨⟨properties, ⟨⟩⟩, rfl, hproperties⟩ := hfound
    simp only [Fields.Reads, Schema.Reads] at hproperties
    rcases hproperties.1 with hblank | hvalues
    · obtain rfl := Option.some.inj hblank
      cases hentry
    · exact hvalues _ hentry

/-- What has been read fits where it was read, so it can be written there again. -/
theorem loadable_of_ofText {source : String} (h : Services.ofText source = .ok s)
    (hreal : s.configurations.HoldsNoReal) : s.configurations.Loadable 4 := by
  intro site name p hproperty
  obtain ⟨hproducible, hdepth⟩ := PropertyValue.producible_of_reads (reads_of_ofText h hproperty)
    (by decide)
  exact ⟨hproducible, hreal site name p hproperty, Nat.add_le_add_right hdepth 4⟩

end Services

/-- A document of services is read back from either of its texts, as long as there is room for the
four levels of braces around each property. If it has been read from some text, there is. -/
theorem services_document_round_trip (s : Services) :
    (s.configurations.Loadable 4 →
      ∀ text ∈ [(Services.schema.toValue s).compact, (Services.schema.toValue s).pretty],
        Services.ofText text = .ok s) ∧
    ∀ source, Services.ofText source = .ok s → s.configurations.HoldsNoReal →
      ∀ text ∈ [(Services.schema.toValue s).compact, (Services.schema.toValue s).pretty],
        Services.ofText text = .ok s :=
  ⟨fun h _ htext => Services.ofText_toValue h htext, fun _ hsource hreal _ htext =>
    Services.ofText_toValue (Services.loadable_of_ofText hsource hreal) htext⟩

/-- A site with a value of each kind, some of them with characters that have to be escaped. -/
def mixedSite : Site :=
  ⟨[("supervisor.slots.ports", .list [.text "6700", .text "6\"701"]),
    ("topology\n.classpath", .text "a\\b\t"), ("ui.port", .integer 8744),
    ("unset", .other .null)], by unfold Ascending; decide⟩

def mixedCluster : Services where
  services := [⟨"METRON", [⟨"METRON_ENRICHMENT_MYSQL_SERVER", "METRON", ["node1", "né\u0001"]⟩]⟩]
  configurations := ⟨[("storm-site", mixedSite)], List.pairwise_singleton _ _⟩

theorem loadable_mixedCluster : mixedCluster.configurations.Loadable 4 := by
  have hvalues : mixedCluster.configurations.values =
      [.list [.text "6700", .text "6\"701"], .text "a\\b\t", .integer 8744, .other .null] := rfl
  rw [Configurations.loadable_iff_values, hvalues]
  simp only [List.forall_mem_cons, List.not_mem_nil, false_implies, implies_true, and_true]
  have hports : (Value.array [.text "6700", .text "6\"701"]).Tidy := by
    simp [Value.tidy_array_iff, Value.tidy_text]
  have hport : (Value.integer ⟨8744, by decide, by decide⟩).Tidy :=
    Value.tidy_of_isPlain trivial fun x h => by cases h
  have hnull : Value.null.Tidy := Value.tidy_of_isPlain trivial fun x h => by cases h
  exact ⟨PropertyValue.loads_ofValue rfl hports (by decide), PropertyValue.loads_text _ (by decide),
    PropertyValue.loads_ofValue rfl hport (by decide),
    PropertyValue.loads_ofValue rfl hnull (by decide)⟩

theorem services_document_round_trip_of_mixedCluster :
    mixedCluster.configurations.Loadable 4 ∧
      Services.ofText (Services.schema.toValue mixedCluster).compact = .ok mixedCluster ∧
      mixedCluster.configurations.HoldsNoReal ∧
      Services.ofText (Services.schema.toValue mixedCluster).pretty = .ok mixedCluster := by
  obtain ⟨hwritten, hagain⟩ := services_document_round_trip mixedCluster
  have hsource := hwritten loadable_mixedCluster _ List.mem_cons_self
  have hreal := loadable_mixedCluster.holdsNoReal
  exact ⟨loadable_mixedCluster, hsource, hreal,
    hagain _ hsource hreal _ (pretty_mem_layouts _)⟩

end ClusterAdvisor
