import ClusterAdvisor.Proofs.SchemaRoundTrip

/-!
The members of a record. A record that is written as an object takes each field from the members
with the key of the field, wherever they stand: none leaves the field blank, one is read, and more
are refused. So whatever keeps the values under each key keeps the record.
-/

namespace ClusterAdvisor.Json

/-! ### Members by key -/

section members

variable {α : Type} {key other : String} {ds es : List (String × α)} {v : α}

/-- The values of the members with a key, in order. -/
def valuesAt (key : String) (ds : List (String × α)) : List α :=
  ds.filterMap fun d => if d.1 = key then some d.2 else none

def without (key : String) (ds : List (String × α)) : List (String × α) :=
  ds.filter fun d => d.1 ≠ key

theorem valuesAt_cons_self (key : String) (v : α) (ds : List (String × α)) :
    valuesAt key ((key, v) :: ds) = v :: valuesAt key ds := by
  simp [valuesAt]

theorem valuesAt_cons_other (h : other ≠ key) (v : α) (ds : List (String × α)) :
    valuesAt key ((other, v) :: ds) = valuesAt key ds := by
  simp [valuesAt, h]

theorem without_cons_self (key : String) (v : α) (ds : List (String × α)) :
    without key ((key, v) :: ds) = without key ds := by
  simp [without]

theorem without_cons_other (h : other ≠ key) (v : α) (ds : List (String × α)) :
    without key ((other, v) :: ds) = (other, v) :: without key ds := by
  simp [without, h]

theorem map_filter_eq_valuesAt (key : String) (ds : List (String × α)) :
    (ds.filter (·.1 = key)).map (·.2) = valuesAt key ds := by
  induction ds with
  | nil => rfl
  | cons d ds ih =>
    obtain ⟨name, v⟩ := d
    by_cases hname : name = key
    · subst hname
      rw [valuesAt_cons_self, List.filter_cons_of_pos (by simp), List.map_cons, ih]
    · rw [valuesAt_cons_other hname, List.filter_cons_of_neg (by simpa using hname), ih]

theorem valuesAt_append (key : String) (ds es : List (String × α)) :
    valuesAt key (ds ++ es) = valuesAt key ds ++ valuesAt key es :=
  List.filterMap_append

theorem valuesAt_insert_self (key : String) (ds : List (String × α)) (v : α)
    (es : List (String × α)) :
    valuesAt key (ds ++ (key, v) :: es) = valuesAt key ds ++ v :: valuesAt key es := by
  rw [valuesAt_append, valuesAt_cons_self]

theorem valuesAt_insert_other (h : other ≠ key) (ds : List (String × α)) (v : α)
    (es : List (String × α)) :
    valuesAt key (ds ++ (other, v) :: es) = valuesAt key (ds ++ es) := by
  rw [valuesAt_append, valuesAt_cons_other h, valuesAt_append]

theorem valuesAt_perm (h : ds.Perm es) (key : String) : (valuesAt key ds).Perm (valuesAt key es) :=
  h.filterMap _

/-- Members that were taken out leave the other keys as they were. -/
theorem valuesAt_without (h : key ≠ other) : valuesAt key (without other ds) = valuesAt key ds := by
  induction ds with
  | nil => rfl
  | cons d ds ih =>
    obtain ⟨name, v⟩ := d
    by_cases hname : name = other
    · subst hname
      rw [without_cons_self, valuesAt_cons_other (Ne.symm h), ih]
    · rw [without_cons_other hname]
      by_cases hkey : name = key
      · subst hkey
        rw [valuesAt_cons_self, valuesAt_cons_self, ih]
      · rw [valuesAt_cons_other hkey, valuesAt_cons_other hkey, ih]

theorem mem_valuesAt : v ∈ valuesAt key ds ↔ (key, v) ∈ ds := by
  rw [valuesAt, List.mem_filterMap]
  constructor
  · rintro ⟨⟨name, w⟩, hmem, hvalue⟩
    split at hvalue
    · rename_i hname
      cases hvalue
      rwa [← hname]
    · cases hvalue
  · exact fun h => ⟨(key, v), h, if_pos rfl⟩

theorem valuesAt_eq_nil (h : key ∉ keysOf ds) : valuesAt key ds = [] := by
  refine List.eq_nil_iff_forall_not_mem.mpr fun v hv => h ?_
  exact List.mem_map.mpr ⟨(key, v), mem_valuesAt.mp hv, rfl⟩

/-- The value with a key that is named once. -/
theorem valuesAt_of_nodup (hnodup : (keysOf ds).Nodup) (h : (key, v) ∈ ds) :
    valuesAt key ds = [v] := by
  induction ds with
  | nil => cases h
  | cons d ds ih =>
    obtain ⟨name, w⟩ := d
    obtain ⟨hnew, hothers⟩ := List.nodup_cons.mp hnodup
    rcases List.mem_cons.mp h with heq | hmem
    · cases heq
      rw [valuesAt_cons_self, valuesAt_eq_nil hnew]
    · have hne : name ≠ key := fun heq => hnew (heq ▸ List.mem_map.mpr ⟨(key, v), hmem, rfl⟩)
      rw [valuesAt_cons_other hne, ih hothers hmem]

/-- Members with other keys in between, and any change of the order, leave a key its one value. -/
theorem valuesAt_among {own further : List (String × α)} (hperm : ds.Perm (own ++ further))
    (hnew : ∀ d ∈ further, d.1 ∉ keysOf own) (hnodup : (keysOf own).Nodup) (h : (key, v) ∈ own) :
    valuesAt key ds = [v] := by
  have hfurther : key ∉ keysOf further := by
    intro hkey
    obtain ⟨d, hd, rfl⟩ := List.mem_map.mp hkey
    exact hnew d hd (List.mem_map.mpr ⟨_, h, rfl⟩)
  have hvalues := valuesAt_perm hperm key
  rw [valuesAt_append, valuesAt_of_nodup hnodup h, valuesAt_eq_nil hfurther] at hvalues
  exact List.perm_singleton.mp hvalues

end members

/-! ### One field -/

section field

variable {α : Type} {read : List Char → Option α} {blank : Option α}

/-- What a field is read as, given the values of its members. -/
def fieldOf (read : List Char → Option α) (blank : Option α) : List (List Char) → Option α
  | [] => blank
  | [v] => read v
  | _ :: _ :: _ => none

def readOnce (read : List Char → Option α) (found : Option α) (v : List Char) :
    Option (Option α) :=
  if found.isSome then none else (read v).map some

/-- A field with two values is refused and one with a single value has no order. -/
theorem fieldOf_perm {vs ws : List (List Char)} (h : vs.Perm ws) :
    fieldOf read blank vs = fieldOf read blank ws := by
  match vs, ws, h with
  | [], ws, h => rw [List.nil_perm.mp h]
  | [v], ws, h => rw [List.singleton_perm.mp h]
  | _ :: _ :: _, [], h => cases h.length_eq
  | _ :: _ :: _, [_], h => cases h.length_eq
  | _ :: _ :: _, _ :: _ :: _, _ => rfl

/-- Reading the values one after the other, with a refusal of the second, looks at all of them. -/
theorem fieldOf_eq_foldlM (vs : List (List Char)) :
    fieldOf read blank vs = (vs.foldlM (readOnce read) none).bind fun found => found.or blank := by
  match vs with
  | [] => rfl
  | [v] =>
    rw [List.foldlM_cons, fieldOf]
    cases hread : read v with
    | none => simp [readOnce, hread]
    | some a => simp [readOnce, hread]
  | v :: w :: vs =>
    rw [List.foldlM_cons, fieldOf]
    cases hread : read v with
    | none => simp [readOnce, hread]
    | some a => simp [readOnce, hread]

/-- A field with a value among others is read only if there are no others. -/
theorem fieldOf_among {front back : List (List Char)} {v : List Char} {a : α}
    (h : fieldOf read blank (front ++ v :: back) = some a) : front = [] ∧ back = [] := by
  match front, back with
  | [], [] => exact ⟨rfl, rfl⟩
  | [], _ :: _ => cases h
  | [_], [] => cases h
  | [_], _ :: _ => cases h
  | _ :: _ :: _, _ => cases h

/-- A field that is read has one value at most, so any value of it is the one that was read. -/
theorem read_of_fieldOf {vs : List (List Char)} {v : List Char} {a : α}
    (h : fieldOf read blank vs = some a) (hv : v ∈ vs) : read v = some a := by
  obtain ⟨front, back, rfl⟩ := List.append_of_mem hv
  obtain ⟨rfl, rfl⟩ := fieldOf_among h
  exact h

end field

/-! ### All fields -/

namespace Fields

def gather (room : Nat) : {σ α : Type} → Fields σ α → List (String × List Char) → Option α
  | _, _, .nil, _ => some ()
  | _, _, .cons key item blank rest, ds =>
    (fieldOf (item.reader room).whole blank (valuesAt key ds)).bind fun a =>
      (rest.gather room ds).map (a, ·)

/-- A record depends on the values of its own keys, and not on how members with different keys are
mixed. -/
theorem gather_congr {room : Nat} {ds es : List (String × List Char)} : {σ α : Type} →
    {fields : Fields σ α} → (∀ key ∈ fields.keys, valuesAt key ds = valuesAt key es) →
    fields.gather room ds = fields.gather room es
  | _, _, .nil, _ => rfl
  | _, _, .cons key item blank rest, h => by
    rw [keys, List.forall_mem_cons] at h
    rw [gather, gather, h.1, gather_congr h.2]

/-- Members with the key of the first field go to it, all others to the other fields. -/
theorem foldlM_putText_cons {σ α β : Type} {room : Nat} {name : String} {item : Schema α}
    {blank : Option α} {rest : Fields σ β} (ds : List (String × List Char)) (found : Option α)
    (others : σ) :
    ds.foldlM (Reader.putText ((Fields.cons name item blank rest).step room)) (found, others) =
      ((valuesAt name ds).foldlM (readOnce (item.reader room).whole) found).bind fun found =>
        ((without name ds).foldlM (Reader.putText (rest.step room)) others).map (found, ·) := by
  induction ds generalizing found others with
  | nil => rfl
  | cons d ds ih =>
    obtain ⟨key, v⟩ := d
    rw [List.foldlM_cons, putText_cons]
    by_cases hkey : key = name
    · subst hkey
      rw [if_pos rfl, valuesAt_cons_self, without_cons_self, List.foldlM_cons]
      cases found with
      | some a => rfl
      | none =>
        cases hread : (item.reader room).whole v with
        | none => simp [readOnce, hread]
        | some a => simpa [readOnce, hread] using ih (some a) others
    · rw [if_neg hkey, valuesAt_cons_other hkey, without_cons_other hkey, List.foldlM_cons]
      cases Reader.putText (rest.step room) others (key, v) with
      | none => cases (valuesAt name ds).foldlM (readOnce (item.reader room).whole) found <;> rfl
      | some others => exact ih found others

theorem toOption_finish_cons {σ α β : Type} {name : String} {item : Schema α} {blank : Option α}
    {rest : Fields σ β} (found : Option α) (others : σ) :
    ((Fields.cons name item blank rest).finish (found, others)).toOption =
      (found.or blank).bind fun a => (rest.finish others).toOption.map (a, ·) := by
  rw [finish]
  cases found.or blank with
  | none => rfl
  | some a =>
    cases rest.finish others with
    | error fault => rfl
    | ok b => rfl

/-- Reading the members of an object one after the other gathers the fields. -/
theorem foldlM_putText (room : Nat) : {σ α : Type} → (fields : Fields σ α) →
    fields.keys.Nodup → (ds : List (String × List Char)) → (∀ d ∈ ds, WellFormed d.2) →
    ((ds.foldlM (Reader.putText (fields.step room)) fields.unread).bind fun state =>
      (fields.finish state).toOption) = fields.gather room ds
  | _, _, .nil, _, ds, hds => by
    have hskip : ds.foldlM (Reader.putText (Fields.nil.step room)) () = some () := by
      induction ds with
      | nil => rfl
      | cons d ds ih =>
        obtain ⟨hd, hothers⟩ := List.forall_mem_cons.mp hds
        have hvalue : Reader.putText (Fields.nil.step room) () d = some () :=
          (Reader.reads_skip hd).whole_eq
        rw [List.foldlM_cons, hvalue]
        exact ih hothers
    rw [unread, hskip]
    rfl
  | _, _, .cons key item blank rest, hkeys, ds, hds => by
    obtain ⟨hnew, hrest⟩ := List.nodup_cons.mp hkeys
    have hothers := rest.foldlM_putText room hrest (without key ds) fun d hd =>
      hds d (List.mem_of_mem_filter hd)
    have hsame : rest.gather room (without key ds) = rest.gather room ds :=
      gather_congr fun name hname => valuesAt_without fun heq => hnew (heq ▸ hname)
    rw [unread, foldlM_putText_cons, gather, fieldOf_eq_foldlM, ← hsame, ← hothers]
    generalize (valuesAt key ds).foldlM (readOnce (item.reader room).whole) none = first
    generalize (without key ds).foldlM (Reader.putText (rest.step room)) rest.unread = second
    cases first with
    | none => rfl
    | some found =>
      cases second with
      | none => cases hfound : found.or blank <;> simp [hfound]
      | some others => exact toOption_finish_cons found others

/-- What the field with a key makes of some values, it makes of the others. -/
def Keeps (room : Nat) (key : String) (vs ws : List (List Char)) : {σ α : Type} → Fields σ α → Prop
  | _, _, .nil => True
  | _, _, .cons name item blank rest =>
    if key = name then
      ∀ a, fieldOf (item.reader room).whole blank vs = some a →
        fieldOf (item.reader room).whole blank ws = some a
    else rest.Keeps room key vs ws

theorem keeps_of_perm {room : Nat} {key : String} {vs ws : List (List Char)} (h : vs.Perm ws) :
    {σ α : Type} → (fields : Fields σ α) → fields.Keeps room key vs ws
  | _, _, .nil => trivial
  | _, _, .cons name item blank rest => by
    rw [Keeps]
    split
    · intro a ha
      rwa [← fieldOf_perm h]
    · exact keeps_of_perm h rest

theorem keeps_of_unknown {room : Nat} {key : String} {vs ws : List (List Char)} : {σ α : Type} →
    {fields : Fields σ α} → key ∉ fields.keys → fields.Keeps room key vs ws
  | _, _, .nil, _ => trivial
  | _, _, .cons name item blank rest, h => by
    rw [keys, List.mem_cons, not_or] at h
    rw [Keeps, if_neg h.1]
    exact keeps_of_unknown h.2

/-- A field that keeps what it makes of one value keeps it among others, as these are refused. -/
theorem Keeps.among {room : Nat} {key : String} {v : List Char} {ws front back : List (List Char)} :
    {σ α : Type} → {fields : Fields σ α} → fields.Keeps room key [v] ws →
    fields.Keeps room key (front ++ v :: back) (front ++ (ws ++ back))
  | _, _, .nil, _ => trivial
  | _, _, .cons name item blank rest, h => by
    rw [Keeps] at h ⊢
    split at h
    · rename_i hname
      rw [if_pos hname]
      intro a ha
      obtain ⟨rfl, rfl⟩ := fieldOf_among ha
      rw [List.nil_append, List.append_nil]
      exact h a ha
    · rename_i hname
      rw [if_neg hname]
      exact Keeps.among h

/-- What every field keeps, the record keeps. -/
theorem gather_of_keeps {room : Nat} {ds es : List (String × List Char)} : {σ α : Type} →
    {fields : Fields σ α} → fields.keys.Nodup →
    (∀ key, fields.Keeps room key (valuesAt key ds) (valuesAt key es)) → {found : α} →
    fields.gather room ds = some found → fields.gather room es = some found
  | _, _, .nil, _, _, _, hgather => hgather
  | _, _, .cons name item blank rest, hkeys, hkeeps, found, hgather => by
    obtain ⟨hnew, hrest⟩ := List.nodup_cons.mp hkeys
    rw [gather] at hgather
    obtain ⟨a, ha, hgather⟩ := Option.bind_eq_some_iff.mp hgather
    obtain ⟨b, hb, rfl⟩ := Option.map_eq_some_iff.mp hgather
    have hfirst := hkeeps name
    rw [Keeps, if_pos rfl] at hfirst
    have hothers : ∀ key, rest.Keeps room key (valuesAt key ds) (valuesAt key es) := by
      intro key
      by_cases hname : key = name
      · subst hname
        exact keeps_of_unknown hnew
      · have hkey := hkeeps key
        rwa [Keeps, if_neg hname] at hkey
    rw [gather, hfirst a ha, gather_of_keeps hrest hothers hb]
    rfl

end Fields

/-- A record that is read as an object is gathered key by key; the order of its members is gone from
here on. -/
theorem Schema.whole_record {σ α β : Type} {name : String} {fields : Fields σ α} {make : α → β}
    {split : β → α} {room : Nat} {ds : List (String × List Char)} {v : List Char}
    (h : ObjectText ds v) (hnodup : fields.keys.Nodup) :
    ((Schema.record name fields make split).reader (room + 1)).whole v =
      (fields.gather room ds).map make := by
  rw [(Schema.reads_record_members h).whole_eq,
    fields.foldlM_putText room hnodup ds h.forall_wellFormed]

end ClusterAdvisor.Json
