import ClusterAdvisor.Rules.Recommendation

/-!
What assignments do to a configuration. Only their targets change, and no site appears that none of
them names; with targets that differ from each other every assignment can be read back. Assignments
that hold already change nothing at all, not even the order of anything.
-/

namespace ClusterAdvisor

/-- Putting an entry that is there already gives the same entries, so a table stays as it is and not
merely equivalent to what it was. Without the order the entry could be put in front of its place. -/
theorem putEntry_eq_self {α : Type} {key : String} {value : α} {entries : List (String × α)}
    (hsorted : Ascending entries) (hthere : entries.lookup key = some value) :
    putEntry key value entries = entries := by
  induction entries with
  | nil => simp at hthere
  | cons head rest ih =>
    obtain ⟨k, v⟩ := head
    obtain ⟨hbelow, hrest⟩ := List.pairwise_cons.mp hsorted
    by_cases hkey : key = k
    · subst hkey
      have hvalue : v = value := by simpa using hthere
      simp [putEntry, hvalue]
    · have htest : (key == k) = false := beq_eq_false_iff_ne.mpr hkey
      have hfar : rest.lookup key = some value := by
        simpa only [List.lookup_cons, htest] using hthere
      obtain ⟨front, back, hsplit, _⟩ := List.lookup_eq_some_iff.mp hfar
      have hlt : k < key := hbelow (key, value) (by simp [hsplit])
      have hnot : ¬ key < k := fun h => String.lt_irrefl k (String.lt_trans hlt h)
      simp only [putEntry, hnot, hkey, if_false]
      rw [ih hrest hfar]

namespace Table

variable {α : Type}

theorem insert_eq_self {t : Table α} {key : String} {value : α}
    (hthere : t.get? key = some value) : t.insert key value = t :=
  Table.ext (putEntry_eq_self t.ascending hthere)

theorem contains_insert (t : Table α) (key other : String) (value : α) :
    (t.insert key value).contains other = true ↔ other = key ∨ t.contains other = true := by
  unfold contains
  by_cases hkey : other = key
  · subst hkey
    simp
  · rw [get?_insert_of_ne t value hkey]
    simp [hkey]

end Table

def Assignment.target (a : Assignment) : String × String := (a.site, a.property)

namespace Configurations

variable {c : Configurations} {as : List Assignment}

theorem property?_of_get? {site : String} {found : Site} (hsite : c.get? site = some found)
    (name : String) : c.property? site name = found.get? name := by
  simp [property?, hsite]

@[simp] theorem property?_put_self (c : Configurations) (site name : String)
    (value : PropertyValue) : (c.put site name value).property? site name = some value := by
  simp [property?, put]

/-- The frame of one assignment: a property is touched only if both its site and its name agree. -/
theorem property?_put_of_ne (c : Configurations) {site name other key : String}
    (value : PropertyValue) (hne : (other, key) ≠ (site, name)) :
    (c.put site name value).property? other key = c.property? other key := by
  unfold property? put
  by_cases hsite : other = site
  · subst hsite
    have hkey : key ≠ name := fun h => hne (by rw [h])
    rw [Table.get?_insert_self, Option.bind_some, Table.get?_insert_of_ne _ value hkey]
    cases c.get? other with
    | none => rfl
    | some found => rfl
  · rw [Table.get?_insert_of_ne c _ hsite]

/-- Putting a value where it is already changes nothing, not even the order of the entries. -/
theorem put_eq_self {site name : String} {value : PropertyValue}
    (hthere : c.property? site name = some value) : c.put site name value = c := by
  obtain ⟨found, hsite, hvalue⟩ := Option.bind_eq_some_iff.mp hthere
  have hsame : found.insert name value = found := Table.insert_eq_self hvalue
  simp only [put, hsite, Option.getD_some, hsame]
  exact Table.insert_eq_self hsite

theorem contains_put (c : Configurations) (site name other : String) (value : PropertyValue) :
    (c.put site name value).contains other = true ↔ other = site ∨ c.contains other = true :=
  Table.contains_insert c site other _

/-- The frame of a run of assignments: what none of them writes keeps its value. -/
theorem property?_assignAll_of_not_mem {site name : String}
    (huntouched : (site, name) ∉ as.map Assignment.target) :
    (c.assignAll as).property? site name = c.property? site name := by
  induction as generalizing c with
  | nil => rfl
  | cons a rest ih =>
    simp only [List.map_cons, List.mem_cons, not_or] at huntouched
    have hrest := ih (c := c.assign a) huntouched.2
    calc
      (c.assignAll (a :: rest)).property? site name =
          (c.assign a).property? site name := hrest
      _ = c.property? site name := property?_put_of_ne c (.text a.value) huntouched.1

/-- A site that no assignment names is left alone as a whole. -/
theorem get?_assignAll_of_ne {site : String} (hunnamed : ∀ a ∈ as, a.site ≠ site) :
    (c.assignAll as).get? site = c.get? site := by
  induction as generalizing c with
  | nil => rfl
  | cons a rest ih =>
    have hfirst : site ≠ a.site := (hunnamed a List.mem_cons_self).symm
    have hrest := ih (c := c.assign a) fun b hb => hunnamed b (List.mem_cons_of_mem a hb)
    calc
      (c.assignAll (a :: rest)).get? site = (c.assign a).get? site := hrest
      _ = c.get? site := Table.get?_insert_of_ne c _ hfirst

/-- Each of several assignments with different targets can be read back behind all of them. -/
theorem property?_assignAll_of_mem {a : Assignment}
    (hdistinct : (as.map Assignment.target).Nodup) (hmember : a ∈ as) :
    (c.assignAll as).property? a.site a.property = some (.text a.value) := by
  induction as generalizing c with
  | nil => simp at hmember
  | cons first rest ih =>
    obtain ⟨hfirst, hrest⟩ := List.nodup_cons.mp hdistinct
    rcases List.mem_cons.mp hmember with rfl | hlater
    · calc
        (c.assignAll (a :: rest)).property? a.site a.property =
            (c.assign a).property? a.site a.property :=
          property?_assignAll_of_not_mem (c := c.assign a) hfirst
        _ = some (.text a.value) := property?_put_self c a.site a.property (.text a.value)
    · exact ih (c := c.assign first) hrest hlater

/-- Behind a run of assignments a property has the value that it had, or a text of one of them. -/
theorem property?_assignAll_cases {site name : String} {value : PropertyValue}
    (h : (c.assignAll as).property? site name = some value) :
    c.property? site name = some value ∨ ∃ a ∈ as, value = .text a.value := by
  induction as generalizing c with
  | nil => exact Or.inl h
  | cons first rest ih =>
    rcases ih (c := c.assign first) h with hbefore | ⟨a, hmember, hvalue⟩
    · by_cases htarget : (site, name) = first.target
      · obtain ⟨rfl, rfl⟩ := Prod.mk.inj htarget
        rw [assign, property?_put_self] at hbefore
        exact Or.inr ⟨first, List.mem_cons_self, (Option.some.inj hbefore).symm⟩
      · have huntouched := property?_put_of_ne c (.text first.value) htarget
        exact Or.inl (huntouched.symm.trans hbefore)
    · exact Or.inr ⟨a, List.mem_cons_of_mem first hmember, hvalue⟩

/-- The sites behind a run of assignments are those before it and those that it names. -/
theorem contains_assignAll (site : String) :
    (c.assignAll as).contains site = true ↔
      c.contains site = true ∨ ∃ a ∈ as, a.site = site := by
  induction as generalizing c with
  | nil => simp [assignAll]
  | cons a rest ih =>
    have hstep : (c.assign a).contains site = true ↔ site = a.site ∨ c.contains site = true :=
      contains_put c a.site a.property site (.text a.value)
    change ((c.assign a).assignAll rest).contains site = true ↔ _
    rw [ih, hstep]
    simp only [List.mem_cons, exists_eq_or_imp]
    constructor
    · rintro ((hsite | hbefore) | hrest)
      · exact Or.inr (Or.inl hsite.symm)
      · exact Or.inl hbefore
      · exact Or.inr (Or.inr hrest)
    · rintro (hbefore | hsite | hrest)
      · exact Or.inl (Or.inr hbefore)
      · exact Or.inl (Or.inl hsite.symm)
      · exact Or.inr hrest

/-- What makes a second recommendation a step without effect. -/
theorem assignAll_eq_self
    (hhold : ∀ a ∈ as, c.property? a.site a.property = some (.text a.value)) :
    c.assignAll as = c := by
  induction as with
  | nil => rfl
  | cons a rest ih =>
    have hfirst : c.assign a = c := put_eq_self (hhold a List.mem_cons_self)
    change (c.assign a).assignAll rest = c
    rw [hfirst]
    exact ih fun b hb => hhold b (List.mem_cons_of_mem a hb)

end Configurations

end ClusterAdvisor
