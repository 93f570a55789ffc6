import ClusterAdvisor.Proofs.RecordMembers
import ClusterAdvisor.Proofs.Rewrites
import ClusterAdvisor.Proofs.ServicesDocument
import Mathlib.Logic.Relation

/-!
Presentation independence. One rewrite of a document keeps what the type of the document reads, and
so does any sequence of rewrites: whoever writes down the services of a cluster need not care how the
document is presented.
-/

namespace ClusterAdvisor.Json

/-! ### Steps keep what is read -/

mutual

/-- There is room for the brackets of the type, and the defaults of its records can be written and
read back in the room that they have. -/
def Schema.Settled : {α : Type} → Schema α → (room : Nat) → Prop
  | _, .text, _ => True
  | _, .list item, room =>
    match room with
    | 0 => False
    | room + 1 => item.Settled room
  | _, .table item, room =>
    match room with
    | 0 => False
    | room + 1 => item.Settled room
  | _, .record _ fields _ _, room =>
    match room with
    | 0 => False
    | room + 1 => fields.keys.Nodup ∧ fields.Settled room
  | _, .any _ _, _ => True
  | _, .choice _ _, _ => True

def Fields.Settled : {σ α : Type} → Fields σ α → (room : Nat) → Prop
  | _, _, .nil, _ => True
  | _, _, .cons _ item blank rest, room =>
    (∀ a ∈ blank, item.Returns a ∧ (item.toValue a).depth ≤ room) ∧ item.Settled room ∧
      rest.Settled room

end

/-- A spelling of what is written of a type is read as what it was. -/
theorem Schema.whole_of_spells {α : Type} (schema : Schema α) {a : α} (h : schema.Returns a)
    {room : Nat} (hdepth : (schema.toValue a).depth ≤ room) {v : List Char}
    (hspells : Spells (schema.toValue a) v) : (schema.reader room).whole v = some a := by
  have hagrees := schema.agrees room _ ⟨hdepth, (schema.tidy_toValue h).distinct⟩
  rw [hagrees.whole_eq hspells, schema.ofValue_toValue h]
  rfl

/-- If one item of an array is read as before, so is the array. -/
theorem mapM_replacesOne {α : Type} {read : List Char → Option α}
    {R : List Char → List Char → Prop}
    (hR : ∀ v w a, R v w → read v = some a → read w = some a) {vs ws : List (List Char)}
    (h : ReplacesOne R vs ws) {as : List α} (hread : vs.mapM read = some as) :
    ws.mapM read = some as := by
  cases h with
  | @mk front back v w hvw =>
    rw [List.mapM_append] at hread ⊢
    obtain ⟨first, hfirst, hrest⟩ := Option.bind_eq_some_iff.mp hread
    obtain ⟨others, hothers, hsame⟩ := Option.bind_eq_some_iff.mp hrest
    rw [List.mapM_cons] at hothers
    obtain ⟨a, ha, hback⟩ := Option.bind_eq_some_iff.mp hothers
    have hlast : (w :: back).mapM read = some others := by
      rw [List.mapM_cons, hR v w a hvw ha]
      exact hback
    rw [hfirst, hlast]
    exact hsame

/-- The same for members, which are put together step by step. -/
theorem foldlM_replacesOne {A σ : Type} {put : σ → A → Option σ} {R : A → A → Prop}
    (hR : ∀ state a b next, R a b → put state a = some next → put state b = some next)
    {as bs : List A} (h : ReplacesOne R as bs) {state final : σ}
    (hfold : as.foldlM put state = some final) : bs.foldlM put state = some final := by
  cases h with
  | @mk front back a b hab =>
    rw [List.foldlM_append] at hfold ⊢
    obtain ⟨before, hbefore, hrest⟩ := Option.bind_eq_some_iff.mp hfold
    rw [List.foldlM_cons] at hrest
    obtain ⟨next, hnext, hback⟩ := Option.bind_eq_some_iff.mp hrest
    rw [hbefore]
    refine Option.bind_eq_some_iff.mpr ⟨before, rfl, ?_⟩
    rw [List.foldlM_cons, hR before a b next hab hnext]
    exact hback

/-- Rows with different keys may change places, whether they can be read or not. -/
theorem Schema.putRow_comm {α : Type} (item : Schema α) (room : Nat) (found : Table α)
    (m n : String × List Char) (hne : m.1 ≠ n.1) :
    ((item.putRow room found m).bind fun next => item.putRow room next n) =
      (item.putRow room found n).bind fun next => item.putRow room next m := by
  simp only [Schema.putRow, Option.bind_map, Function.comp_def]
  rw [bind_map_comm]
  simp only [Table.insert_comm found _ _ hne]

/-- A table in any order, or with a value read as before, is read as before. -/
theorem TableRearranges.foldlM_putRow {α : Type} {item : Schema α} {room : Nat}
    {R : List Char → List Char → Prop}
    (hR : ∀ v w a, R v w → (item.reader room).whole v = some a → (item.reader room).whole w = some a)
    {ds es : List (String × List Char)} (h : TableRearranges R ds es) {t : Table α}
    (hread : ds.foldlM (item.putRow room) ∅ = some t) :
    es.foldlM (item.putRow room) ∅ = some t := by
  cases h with
  | reorder hkeys hperm => rwa [← foldlM_perm (item.putRow_comm room) hperm hkeys]
  | within hone =>
    refine foldlM_replacesOne ?_ hone hread
    rintro found ⟨key, v⟩ ⟨_, w⟩ next ⟨rfl, hvw⟩ hput
    obtain ⟨a, ha, rfl⟩ := Option.map_eq_some_iff.mp hput
    exact Option.map_eq_some_iff.mpr ⟨a, hR v w a hvw ha, rfl⟩

namespace Fields

/-- A default that is written out is read as if it was left out, and the other way round. -/
theorem keeps_blank {room : Nat} {key : String} {v : List Char} : {σ α : Type} →
    {fields : Fields σ α} → fields.Settled room → fields.SpellsBlank key v →
    fields.Keeps room key [] [v] ∧ fields.Keeps room key [v] []
  | _, _, .nil, _, h => h.elim
  | _, _, .cons name item blank rest, hsettled, h => by
    rw [Settled] at hsettled
    rw [SpellsBlank] at h
    rw [Keeps, Keeps]
    split at h
    · rename_i hname
      obtain ⟨a, rfl, hspells⟩ := h
      obtain ⟨hreturns, hdepth⟩ := hsettled.1 a rfl
      have hwhole := item.whole_of_spells hreturns hdepth hspells
      rw [if_pos hname, if_pos hname]
      simp only [fieldOf, hwhole, imp_self, implies_true, and_self]
    · rename_i hname
      rw [if_neg hname, if_neg hname]
      exact keeps_blank hsettled.2.2 h

/-- Members put another way are read as before, if the value of each field is. -/
theorem Rearranges.gather {σ α : Type} {fields : Fields σ α} {room : Nat}
    {R : String → List Char → List Char → Prop} (hnodup : fields.keys.Nodup)
    (hsettled : fields.Settled room) (hR : ∀ key v w, R key v w → fields.Keeps room key [v] [w])
    {ds es : List (String × List Char)} (h : fields.Rearranges R ds es) {found : α}
    (hread : fields.gather room ds = some found) : fields.gather room es = some found := by
  refine gather_of_keeps hnodup (fun key => ?_) hread
  cases h with
  | reorder hperm => exact keeps_of_perm (valuesAt_perm hperm key) fields
  | @addUnknown front back name v hname =>
    by_cases hkey : name = key
    · subst hkey
      exact keeps_of_unknown hname
    · rw [valuesAt_insert_other hkey]
      exact keeps_of_perm (List.Perm.refl _) fields
  | @addDefault front back name v hnew hv =>
    by_cases hkey : name = key
    · subst hkey
      have hnone := valuesAt_eq_nil hnew
      have hparts := List.append_eq_nil_iff.mp ((valuesAt_append name front back).symm.trans hnone)
      rw [hnone, valuesAt_insert_self, hparts.1, hparts.2]
      exact (keeps_blank hsettled hv).1
    · rw [valuesAt_insert_other hkey]
      exact keeps_of_perm (List.Perm.refl _) fields
  | @dropDefault front back name v hv =>
    by_cases hkey : name = key
    · subst hkey
      rw [valuesAt_insert_self, valuesAt_append]
      exact (keeps_blank hsettled hv).2.among
    · rw [valuesAt_insert_other hkey]
      exact keeps_of_perm (List.Perm.refl _) fields
  | within hone =>
    cases hone with
    | @mk front back d e hde =>
      obtain ⟨name, v⟩ := d
      obtain ⟨other, w⟩ := e
      obtain ⟨rfl, hvw⟩ := hde
      by_cases hkey : name = key
      · subst hkey
        rw [valuesAt_insert_self, valuesAt_insert_self]
        exact (hR name v w hvw).among
      · rw [valuesAt_insert_other hkey, valuesAt_insert_other hkey]
        exact keeps_of_perm (List.Perm.refl _) fields

/-- The row of all field values is read as the record. -/
theorem rowOf_of_asRow {room : Nat} {ds : List (String × List Char)} : {σ α : Type} →
    {fields : Fields σ α} → fields.Settled room → {values : List (List Char)} →
    fields.AsRow ds values → {found : α} → fields.gather room ds = some found →
    fields.rowOf room values = some found
  | _, _, .nil, _, _, h, _, hread => by
    rw [AsRow] at h
    subst h
    exact hread
  | _, _, .cons name item blank rest, hsettled, values, h, found, hread => by
    rw [Settled] at hsettled
    obtain ⟨v, others, rfl, hothers, hv⟩ := h
    rw [gather] at hread
    obtain ⟨a, ha, hread⟩ := Option.bind_eq_some_iff.mp hread
    obtain ⟨b, hb, rfl⟩ := Option.map_eq_some_iff.mp hread
    have hwhole : (item.reader room).whole v = some a := by
      split at hv
      · exact read_of_fieldOf ha (mem_valuesAt.mpr hv)
      · rename_i hnew
        obtain ⟨default, rfl, hspells⟩ := hv
        obtain ⟨hreturns, hdepth⟩ := hsettled.1 default rfl
        rw [valuesAt_eq_nil hnew, fieldOf] at ha
        rw [item.whole_of_spells hreturns hdepth hspells, ha]
    rw [rowOf, hwhole, Option.bind_some, rowOf_of_asRow hsettled.2.2 hothers hb]
    rfl

/-- The first field of a record, apart from the induction over its fields. -/
theorem keeps_of_restatesMember_cons {σ α β : Type} {room : Nat} {name key : String}
    {item : Schema α} {blank : Option α} {rest : Fields σ β} {v w : List Char}
    (hitem : item.Restates v w → ∀ a, (item.reader room).whole v = some a →
      (item.reader room).whole w = some a)
    (hrest : rest.RestatesMember key v w → rest.Keeps room key [v] [w])
    (h : (Fields.cons name item blank rest).RestatesMember key v w) :
    (Fields.cons name item blank rest).Keeps room key [v] [w] := by
  rw [RestatesMember] at h
  rw [Keeps]
  split at h
  · rename_i hname
    rw [if_pos hname]
    exact hitem h
  · rename_i hname
    rw [if_neg hname]
    exact hrest h

theorem rowOf_of_restatesRow_cons {σ α β : Type} {room : Nat} {name : String} {item : Schema α}
    {blank : Option α} {rest : Fields σ β} {vs ws : List (List Char)}
    (hitem : ∀ v w, item.Restates v w → ∀ a, (item.reader room).whole v = some a →
      (item.reader room).whole w = some a)
    (hrest : ∀ vs ws, rest.RestatesRow vs ws → ∀ b, rest.rowOf room vs = some b →
      rest.rowOf room ws = some b)
    (h : (Fields.cons name item blank rest).RestatesRow vs ws) {found : α × β}
    (hread : (Fields.cons name item blank rest).rowOf room vs = some found) :
    (Fields.cons name item blank rest).rowOf room ws = some found := by
  rw [RestatesRow] at h
  rcases h with ⟨v, w, others, rfl, rfl, hvw⟩ | ⟨v, others, more, rfl, rfl, hothers⟩
  · rw [rowOf] at hread ⊢
    obtain ⟨a, ha, hleft⟩ := Option.bind_eq_some_iff.mp hread
    rw [hitem v w hvw a ha]
    exact hleft
  · rw [rowOf] at hread ⊢
    obtain ⟨a, ha, hleft⟩ := Option.bind_eq_some_iff.mp hread
    obtain ⟨b, hb, rfl⟩ := Option.map_eq_some_iff.mp hleft
    rw [ha, Option.bind_some, hrest others more hothers b hb]
    rfl

end Fields

mutual

/-- A value presented in another way is read as before. -/
theorem Schema.whole_of_restates : {α : Type} → (schema : Schema α) → {room : Nat} →
    schema.Settled room → {v w : List Char} → schema.Restates v w → (a : α) →
    (schema.reader room).whole v = some a → (schema.reader room).whole w = some a
  | _, .text, _, _, _, _, h, _, _ => by
    rw [Schema.Restates] at h
    exact h.elim
  | _, .list item, 0, hsettled, _, _, _, _, _ => by
    rw [Schema.Settled] at hsettled
    exact hsettled.elim
  | _, .list item, room + 1, hsettled, _, _, h, as, hread => by
    rw [Schema.Settled] at hsettled
    rw [Schema.Restates] at h
    obtain ⟨hv, hw, hone⟩ := h
    rw [(Schema.reads_list hv).whole_eq] at hread
    rw [(Schema.reads_list hw).whole_eq]
    refine mapM_replacesOne (R := item.Restates) (fun v w a hvw => ?_) hone hread
    exact item.whole_of_restates hsettled hvw a
  | _, .table item, 0, hsettled, _, _, _, _, _ => by
    rw [Schema.Settled] at hsettled
    exact hsettled.elim
  | _, .table item, room + 1, hsettled, _, _, h, t, hread => by
    rw [Schema.Settled] at hsettled
    rw [Schema.Restates] at h
    obtain ⟨hv, hw, hrearranges⟩ := h
    rw [(Schema.reads_table hv).whole_eq] at hread
    rw [(Schema.reads_table hw).whole_eq]
    refine hrearranges.foldlM_putRow (fun v w a hvw => ?_) hread
    exact item.whole_of_restates hsettled hvw a
  | _, .record name fields make split, 0, hsettled, _, _, _, _, _ => by
    rw [Schema.Settled] at hsettled
    exact hsettled.elim
  | _, .record name fields make split, room + 1, hsettled, _, _, h, b, hread => by
    rw [Schema.Settled] at hsettled
    rw [Schema.Restates] at h
    obtain ⟨hnodup, hfields⟩ := hsettled
    rcases h with ⟨hv, hw, hrearranges⟩ | ⟨hv, hw, hrow⟩ | ⟨hv, hw, hrow⟩
    · rw [Schema.whole_record hv hnodup] at hread
      obtain ⟨a, ha, rfl⟩ := Option.map_eq_some_iff.mp hread
      have hkeeps := fun key v w => @Fields.keeps_of_restatesMember _ _ fields room hfields key v w
      rw [Schema.whole_record hw hnodup, hrearranges.gather hnodup hfields hkeeps ha]
      rfl
    · rw [Schema.whole_record hv hnodup] at hread
      obtain ⟨a, ha, rfl⟩ := Option.map_eq_some_iff.mp hread
      rw [(Schema.reads_record_row hw).whole_eq, Fields.rowOf_of_asRow hfields hrow ha]
      rfl
    · rw [(Schema.reads_record_row hv).whole_eq] at hread
      obtain ⟨a, ha, rfl⟩ := Option.map_eq_some_iff.mp hread
      rw [(Schema.reads_record_row hw).whole_eq, fields.rowOf_of_restatesRow hfields hrow a ha]
      rfl
  | _, .any _ _, _, _, _, _, h, _, _ => by
    rw [Schema.Restates] at h
    exact h.elim
  | _, .choice _ _, _, _, _, _, h, _, _ => by
    rw [Schema.Restates] at h
    exact h.elim

/-- By induction over the fields, together with the one over the schemas of their values. -/
theorem Fields.keeps_of_restatesMember : {σ α : Type} → (fields : Fields σ α) → {room : Nat} →
    fields.Settled room → {key : String} → {v w : List Char} → fields.RestatesMember key v w →
    fields.Keeps room key [v] [w]
  | _, _, .nil, _, _, _, _, _, _ => trivial
  | _, _, .cons name item blank rest, _, hsettled, _, _, _, h => by
    rw [Fields.Settled] at hsettled
    exact Fields.keeps_of_restatesMember_cons (item.whole_of_restates hsettled.2.1)
      (rest.keeps_of_restatesMember hsettled.2.2) h

theorem Fields.rowOf_of_restatesRow : {σ α : Type} → (fields : Fields σ α) → {room : Nat} →
    fields.Settled room → {vs ws : List (List Char)} → fields.RestatesRow vs ws → (found : α) →
    fields.rowOf room vs = some found → fields.rowOf room ws = some found
  | _, _, .nil, _, _, _, _, h, _, _ => by
    rw [Fields.RestatesRow] at h
    exact h.elim
  | _, _, .cons name item blank rest, _, hsettled, _, _, h, _, hread => by
    rw [Fields.Settled] at hsettled
    exact Fields.rowOf_of_restatesRow_cons
      (fun _ _ hvw => item.whole_of_restates hsettled.2.1 hvw)
      (fun _ _ hrow => rest.rowOf_of_restatesRow hsettled.2.2 hrow) h hread

end

/-! ### Documents -/

/-- One rewrite of a document keeps what it is read as. -/
theorem Schema.ofText_of_rewrites {α : Type} {schema : Schema α}
    (hsettled : schema.Settled depthLimit) {source target : String}
    (h : schema.Rewrites source target) {a : α} (hread : schema.ofText source = .ok a) :
    schema.ofText target = .ok a := by
  obtain ⟨v, w, hsource, htarget, hrestates⟩ := h
  obtain ⟨hv, hw⟩ := hrestates.wellFormed
  have hbefore := (schema.uniform depthLimit v hv).document hsource
  have hbehind := (schema.uniform depthLimit w hw).document htarget
  rw [Schema.ofText] at hread
  rw [hread, toOption_ok] at hbefore
  exact eq_ok_of_toOption
    (hbehind.trans (schema.whole_of_restates hsettled hrestates a hbefore.symm))

end ClusterAdvisor.Json

namespace ClusterAdvisor

open Json

theorem Component.settled (room : Nat) : Component.entrySchema.Settled (room + 4) := by
  simp [Component.entrySchema, Component.schema, Schema.Settled, Fields.Settled, Fields.keys,
    Schema.Returns, Schema.toValue, Value.depth, Value.depthItems]

theorem Service.settled (room : Nat) : Service.schema.Settled (room + 6) := by
  simp [Service.schema, Service.nameSchema, Schema.Settled, Fields.Settled, Fields.keys,
    Schema.Returns, Fields.Returns, Schema.toValue, Fields.toMembers, Value.depth, Value.depthItems,
    Value.depthMembers, Component.settled]

theorem Site.settled (room : Nat) : Site.schema.Settled (room + 2) := by
  have hnone : (∅ : Site).entries = [] := rfl
  simp [Site.schema, PropertyValue.schema, Schema.Settled, Fields.Settled, Fields.keys,
    Schema.Returns, Schema.toValue, Value.depth, Value.depthMembers, hnone]

/-- A document of services needs less room than there is, so each of its parts may stand in any of
its forms. -/
theorem Services.settled : Services.schema.Settled depthLimit := by
  have hnone : (∅ : Configurations).entries = [] := rfl
  simp [Services.schema, Configurations.schema, depthLimit, Schema.Settled, Fields.Settled,
    Fields.keys, Schema.Returns, Schema.toValue, Value.depth, Value.depthItems, Value.depthMembers,
    Service.settled, Site.settled, hnone]

/-- A document of services says the same after any sequence of rewrites. -/
theorem services_presentation_independent {source target : String} {s : Services}
    (hread : Services.ofText source = .ok s)
    (hrewrites : Relation.ReflTransGen Services.schema.Rewrites source target) :
    Services.ofText target = .ok s := by
  induction hrewrites with
  | refl => exact hread
  | tail _ hstep ih =>
    rw [Services.ofText_eq_ok_iff] at ih ⊢
    exact Schema.ofText_of_rewrites Services.settled hstep ih

/-- The texts of a small service, with and without its default and as an array. -/
def smallName : List Char := objectChars [("service_name", textChars "S")]

def plainEntry : List Char :=
  objectChars [("StackServices", smallName), ("components", arrayChars [])]

def bareEntry : List Char := objectChars [("StackServices", smallName)]

def rowEntry : List Char := arrayChars [smallName, arrayChars []]

def smallMembers (entry : List Char) : List (String × List Char) :=
  [("services", arrayChars [entry]), ("configurations", objectChars [])]

theorem wellFormed_smallName : WellFormed smallName :=
  wellFormed_objectChars (by simp [wellFormed_textChars])

theorem restates_plainEntry : Service.schema.Restates plainEntry bareEntry := by
  have hspells : Spells (.array []) (arrayChars []) := .array (.close blank_nil)
  refine .inl (.mk (objectText_objectChars ?_) (objectText_objectChars ?_)
    (.dropDefault [("StackServices", smallName)] [] ?_))
  · simp [wellFormed_smallName, hspells.wellFormed]
  · simp [wellFormed_smallName]
  · simpa [Fields.SpellsBlank, Schema.toValue] using hspells

theorem restates_bareEntry : Service.schema.Restates bareEntry rowEntry := by
  have hspells : Spells (.array []) (arrayChars []) := .array (.close blank_nil)
  refine .inr (.inl (.mk (objectText_objectChars ?_) (arrayText_arrayChars ?_) ?_))
  · simp [wellFormed_smallName]
  · simp [wellFormed_smallName, hspells.wellFormed]
  · simpa [Fields.AsRow, Schema.toValue, keysOf] using hspells

theorem wellFormed_smallMembers {entry : List Char} (h : WellFormed entry) :
    ∀ d ∈ smallMembers entry, WellFormed d.2 := by
  have harray : WellFormed (arrayChars [entry]) := wellFormed_arrayChars (by simpa using h)
  have hobject : WellFormed (objectChars []) := wellFormed_objectChars (by simp)
  simp [smallMembers, harray, hobject]

theorem restates_smallMembers {v w : List Char} (h : Service.schema.Restates v w) :
    Services.schema.Restates (objectChars (smallMembers v)) (objectChars (smallMembers w)) := by
  obtain ⟨hv, hw⟩ := h.wellFormed
  refine .inl (.mk (objectText_objectChars (wellFormed_smallMembers hv))
    (objectText_objectChars (wellFormed_smallMembers hw))
    (.within (.mk [] [("configurations", objectChars [])] ⟨rfl, ?_⟩)))
  exact .mk (arrayText_arrayChars (by simpa using hv)) (arrayText_arrayChars (by simpa using hw))
    (.mk [] [] h)

/-- The service becomes an array without its default, then a member that nobody knows comes in, and
at last the members change places. -/
theorem services_presentation_independent_of_smallDocument :
    Services.ofText ("\x7b\"services\":[\x7b\"StackServices\":\x7b\"service_name\":\"S\"\x7d," ++
        "\"components\":[]\x7d],\"configurations\":\x7b\x7d\x7d") = .ok ⟨[⟨"S", []⟩], ∅⟩ ∧
      Relation.ReflTransGen Services.schema.Rewrites
        ("\x7b\"services\":[\x7b\"StackServices\":\x7b\"service_name\":\"S\"\x7d," ++
          "\"components\":[]\x7d],\"configurations\":\x7b\x7d\x7d")
        ("\x7b\"configurations\":\x7b\x7d,\"note\":1e999," ++
          "\"services\":[[\x7b\"service_name\":\"S\"\x7d,[]]]\x7d") ∧
      Services.ofText ("\x7b\"configurations\":\x7b\x7d,\"note\":1e999," ++
        "\"services\":[[\x7b\"service_name\":\"S\"\x7d,[]]]\x7d") = .ok ⟨[⟨"S", []⟩], ∅⟩ := by
  have hsource : "\x7b\"services\":[\x7b\"StackServices\":\x7b\"service_name\":\"S\"\x7d," ++
        "\"components\":[]\x7d],\"configurations\":\x7b\x7d\x7d" =
      String.ofList (objectChars (smallMembers plainEntry)) := by
    decide
  have htarget : "\x7b\"configurations\":\x7b\x7d,\"note\":1e999," ++
        "\"services\":[[\x7b\"service_name\":\"S\"\x7d,[]]]\x7d" =
      String.ofList (objectChars [("configurations", objectChars []), ("note", "1e999".toList),
        ("services", arrayChars [rowEntry])]) := by
    decide
  have hread : Services.ofText (String.ofList (objectChars (smallMembers plainEntry))) =
      .ok ⟨[⟨"S", []⟩], ∅⟩ := by
    apply Services.ofText_toValue
    · intro site name p hp
      cases hp
    · exact List.mem_cons_self
  have hrow : WellFormed rowEntry := restates_bareEntry.wellFormed.2
  have hnoted : ∀ d ∈ ("note", "1e999".toList) :: smallMembers rowEntry, WellFormed d.2 :=
    List.forall_mem_cons.mpr ⟨wellFormed_hugeNumber, wellFormed_smallMembers hrow⟩
  have hadd : Services.schema.Restates (objectChars (smallMembers rowEntry))
      (objectChars (("note", "1e999".toList) :: smallMembers rowEntry)) :=
    .inl (.mk (objectText_objectChars (wellFormed_smallMembers hrow)) (objectText_objectChars hnoted)
      (.addUnknown [] _ _ (by decide)))
  have hreorder : Services.schema.Restates
      (objectChars (("note", "1e999".toList) :: smallMembers rowEntry))
      (objectChars [("configurations", objectChars []), ("note", "1e999".toList),
        ("services", arrayChars [rowEntry])]) := by
    have hperm : (("note", "1e999".toList) :: smallMembers rowEntry).Perm
        [("configurations", objectChars []), ("note", "1e999".toList),
          ("services", arrayChars [rowEntry])] := by
      decide
    exact .inl (.mk (objectText_objectChars hnoted)
      (objectText_objectChars fun d hd => hnoted d (hperm.mem_iff.mpr hd)) (.reorder hperm))
  rw [hsource, htarget]
  have hrewrites := (((Relation.ReflTransGen.single
    (Schema.rewrites_ofList (restates_smallMembers restates_plainEntry))).tail
    (Schema.rewrites_ofList (restates_smallMembers restates_bareEntry))).tail
    (Schema.rewrites_ofList hadd)).tail (Schema.rewrites_ofList hreorder)
  exact ⟨hread, hrewrites, services_presentation_independent hread hrewrites⟩

end ClusterAdvisor
