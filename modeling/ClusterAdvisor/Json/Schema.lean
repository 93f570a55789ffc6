import ClusterAdvisor.Json.Skip

/-!
How the types of a program are written in JSON. One description of a type gives three functions: a
reader that takes a document piece by piece, a conversion from a value that has been read as a
whole, and a conversion to a value. A record may be written as an object or as an array of its
fields; in an object unknown members are passed over and no field may occur twice.
-/

namespace ClusterAdvisor.Json

mutual

/-- The JSON form of a type. -/
inductive Schema : Type → Type 1 where
  | text : Schema String
  | list {α : Type} (item : Schema α) : Schema (List α)
  /-- An object with any keys; of two members with one key the later one stays. -/
  | table {α : Type} (item : Schema α) : Schema (Table α)
  /-- A record with a name and fields. -/
  | record {σ α β : Type} (name : String) (fields : Fields σ α) (make : α → β) (split : β → α) :
      Schema β
  /-- A type that takes any value. -/
  | any {α : Type} (ofValue : Value → α) (toValue : α → Value) : Schema α
  /-- One of some names, as a text or as an object with this one member, which is null. -/
  | choice {α : Type} (variants : List (String × α)) (name : α → String) : Schema α

/-- The fields of a record, in order. The first index is the type of what has been read so far, the
second the type of all fields. -/
inductive Fields : Type → Type → Type 1 where
  | nil : Fields Unit Unit
  /-- A field; if it may be absent, `blank` is the value that it has then. -/
  | cons {α σ β : Type} (key : String) (item : Schema α) (blank : Option α) (rest : Fields σ β) :
      Fields (Option α × σ) (α × β)

end

def findVariant {α : Type} (variants : List (String × α)) (name : String) : Except Fault α :=
  match variants.lookup name with
  | some a => .ok a
  | none => .error (.unknownVariant name (variants.map (·.1)))

namespace Reader

variable {α β σ : Type}

def unit : Reader Unit :=
  spaced
    (fun
      | 'n' :: rest =>
        match word "ull".toList rest with
        | .ok rest => .ok ((), rest)
        | .error fault => .error fault
      | text => .error (mismatch .unit text))
    (by
      intro text a rest h
      split at h
      · split at h
        · rename_i hword
          have := word_length_le hword
          simp only [Except.ok.injEq, Prod.mk.injEq] at h
          simp only [← h.2, List.length_cons]
          omega
        · cases h
      · cases h)

def variantName (variants : List (String × α)) (text : List Char) :
    Except Fault (α × List Char) :=
  match textBody text with
  | .error fault => .error fault
  | .ok (name, rest) =>
    match findVariant variants name with
    | .ok a => .ok (a, rest)
    | .error fault => .error fault

theorem variantName_length {variants : List (String × α)} {text rest : List Char} {a : α}
    (h : variantName variants text = .ok (a, rest)) : rest.length < text.length := by
  unfold variantName at h
  split at h
  · cases h
  · rename_i hbody
    split at h
    · simp only [Except.ok.injEq, Prod.mk.injEq] at h
      rw [← h.2]
      exact textBody_length hbody
    · cases h

def closingBrace (text : List Char) : Except Fault (List Char) :=
  match skipSpace text with
  | [] => .error (.cut .object)
  | '}' :: rest => .ok rest
  | _ => .error .noValue

def variantObject (variants : List (String × α)) (text : List Char) :
    Except Fault (α × List Char) :=
  match skipSpace text with
  | [] => .error (.cut .object)
  | '"' :: rest =>
    match variantName variants rest with
    | .error fault => .error fault
    | .ok (a, rest) =>
      match colon rest with
      | .error fault => .error fault
      | .ok rest =>
        match unit.run rest with
        | .error fault => .error fault
        | .ok (_, rest) =>
          match closingBrace rest with
          | .error fault => .error fault
          | .ok rest => .ok (a, rest)
  | '}' :: _ => .error .noValue
  | _ => .error .keyNotText

theorem closingBrace_length {text rest : List Char} (h : closingBrace text = .ok rest) :
    rest.length < text.length := by
  unfold closingBrace at h
  split at h
  · cases h
  · rename_i hspace
    cases h
    exact length_lt_of_skipSpace hspace
  · cases h

theorem variantObject_length {variants : List (String × α)} {text rest : List Char} {a : α}
    (h : variantObject variants text = .ok (a, rest)) : rest.length < text.length := by
  unfold variantObject at h
  split at h
  · cases h
  · rename_i hspace
    have := length_lt_of_skipSpace hspace
    split at h
    · cases h
    · rename_i hname
      have := variantName_length hname
      split at h
      · cases h
      · rename_i hcolon
        have := colon_length hcolon
        split at h
        · cases h
        · rename_i hunit
          have := unit.shortens hunit
          split at h
          · cases h
          · rename_i hbrace
            have := closingBrace_length hbrace
            simp only [Except.ok.injEq, Prod.mk.injEq] at h
            rw [← h.2]
            omega
  · cases h
  · cases h

def choice (variants : List (String × α)) (room : Nat) : Reader α :=
  spaced
    (fun
      | '"' :: rest => variantName variants rest
      | '{' :: rest => if room = 0 then .error .tooDeep else variantObject variants rest
      | _ => .error .noValue)
    (by
      intro text a rest h
      split at h
      · have := variantName_length h
        simp only [List.length_cons]
        omega
      · split at h
        · cases h
        · have := variantObject_length h
          simp only [List.length_cons]
          omega
      · cases h)

/-- The bracket that closes a record whose fields all have a value. -/
def closingBracket : Reader Unit where
  run text :=
    match skipSpace text with
    | [] => .error (.cut .list)
    | ']' :: rest => .ok ((), rest)
    | ',' :: rest =>
      match skipSpace rest with
      | ']' :: _ => .error .trailingComma
      | _ => .error .trailingText
    | _ => .error .trailingText
  shortens := by
    intro text a rest h
    split at h
    · cases h
    · rename_i hspace
      cases h
      exact length_lt_of_skipSpace hspace
    · split at h <;> cases h
    · cases h

/-- A field of a record written as an array, and all fields behind it, up to the closing bracket;
`absent` stands for all of them if the array ends before. -/
def field (first : Bool) (absent : Except Fault (α × β)) (item : Reader α) (others : Reader β) :
    Reader (α × β) where
  run text :=
    match nextItem first text with
    | .error fault => .error fault
    | .ok (.done rest) =>
      match absent with
      | .ok found => .ok (found, rest)
      | .error fault => .error fault
    | .ok (.more start) =>
      match item.run start with
      | .error fault => .error fault
      | .ok (a, rest) =>
        match others.run rest with
        | .error fault => .error fault
        | .ok (b, rest) => .ok ((a, b), rest)
  shortens := by
    intro text a rest h
    split at h
    · cases h
    · rename_i hnext
      split at h
      · simp only [Except.ok.injEq, Prod.mk.injEq] at h
        rw [← h.2]
        exact nextItem_done_length hnext
      · cases h
    · rename_i hnext
      have := nextItem_more_length hnext
      split at h
      · cases h
      · rename_i hitem
        have := item.shortens hitem
        split at h
        · cases h
        · rename_i hothers
          have := others.shortens hothers
          simp only [Except.ok.injEq, Prod.mk.injEq] at h
          rw [← h.2]
          omega

/-- A record: an array of its fields, or an object whose members are put together by `step` and
completed by `finish`. -/
def record (name : String) (row : Reader α) (step : String → σ → Except Fault (Reader σ))
    (start : σ) (finish : σ → Except Fault α) (room : Nat) : Reader α :=
  spaced
    (fun
      | '[' :: rest => if room = 0 then .error .tooDeep else row.run rest
      | '{' :: rest =>
        if room = 0 then .error .tooDeep
        else
          match members step true start rest with
          | .error fault => .error fault
          | .ok (state, rest) =>
            match finish state with
            | .ok a => .ok (a, rest)
            | .error fault => .error fault
      | text => .error (mismatch (.record name) text))
    (by
      intro text a rest h
      split at h
      · split at h
        · cases h
        · have := row.shortens h
          simp only [List.length_cons]
          omega
      · split at h
        · cases h
        · split at h
          · cases h
          · rename_i hmembers
            have := members_length hmembers
            split at h
            · simp only [Except.ok.injEq, Prod.mk.injEq] at h
              simp only [← h.2, List.length_cons]
              omega
            · cases h
      · cases h)

end Reader

namespace Fields

variable {σ α : Type}

def unread : {σ α : Type} → Fields σ α → σ
  | _, _, .nil => ()
  | _, _, .cons _ _ _ rest => (none, rest.unread)

def count : {σ α : Type} → Fields σ α → Nat
  | _, _, .nil => 0
  | _, _, .cons _ _ _ rest => rest.count + 1

/-- The fields of a record that was read as an object; the first required one that is missing is
the fault. -/
def finish : {σ α : Type} → Fields σ α → σ → Except Fault α
  | _, _, .nil, _ => .ok ()
  | _, _, .cons key _ blank rest, (found, others) =>
    match found.or blank with
    | none => .error (.missing key)
    | some a =>
      match rest.finish others with
      | .ok b => .ok (a, b)
      | .error fault => .error fault

/-- Fields that an array is too short for; `index` counts the fields before them. -/
def absent (record : String) (total : Nat) : {σ α : Type} → Fields σ α → (index : Nat) →
    Except Fault α
  | _, _, .nil, _ => .ok ()
  | _, _, .cons _ _ blank rest, index =>
    match blank with
    | none => .error (.tooShort index record total)
    | some a =>
      match rest.absent record total (index + 1) with
      | .ok b => .ok (a, b)
      | .error fault => .error fault

end Fields

mutual

def Schema.reader : {α : Type} → Schema α → (room : Nat) → Reader α
  | _, .text, _ => Reader.text
  | _, .list item, room =>
    match room with
    | 0 => Reader.list none
    | room + 1 => Reader.list (some (item.reader room))
  | _, .table item, room =>
    match room with
    | 0 => Reader.object none ∅ .map
    | room + 1 =>
      Reader.object
        (some fun key found => .ok ((item.reader room).map fun a => found.insert key a)) ∅ .map
  | _, .record name fields make _, room =>
    (Reader.record name (fields.row name fields.count (room - 1) 0) (fields.step (room - 1))
      fields.unread fields.finish room).map make
  | _, .any ofValue _, room => (Reader.value room).map ofValue
  | _, .choice variants _, room => Reader.choice variants room

def Fields.row (record : String) (total : Nat) : {σ α : Type} → Fields σ α → (room : Nat) →
    (index : Nat) → Reader α
  | _, _, .nil, _, _ => Reader.closingBracket
  | _, _, .cons key item blank rest, room, index =>
    Reader.field (index == 0) ((Fields.cons key item blank rest).absent record total index)
      (item.reader room) (rest.row record total room (index + 1))

/-- How the member of an object with a key is read: a known field only once, any other is passed
over. -/
def Fields.step : {σ α : Type} → Fields σ α → (room : Nat) → (key : String) → σ →
    Except Fault (Reader σ)
  | _, _, .nil, _, _, _ => .ok Reader.skip
  | _, _, .cons name item _ rest, room, key, (found, others) =>
    if key = name then
      match found with
      | some _ => .error (.duplicate key)
      | none => .ok ((item.reader room).map fun a => (some a, others))
    else
      match rest.step room key others with
      | .ok reader => .ok (reader.map fun others => (found, others))
      | .error fault => .error fault

end

def convertAll {α : Type} (convert : Value → Except Fault α) : List Value → Except Fault (List α)
  | [] => .ok []
  | v :: rest =>
    match convert v with
    | .error fault => .error fault
    | .ok a =>
      match convertAll convert rest with
      | .ok as => .ok (a :: as)
      | .error fault => .error fault

def foldMembers {σ : Type} (step : σ → String → Value → Except Fault σ) :
    σ → List (String × Value) → Except Fault σ
  | state, [] => .ok state
  | state, (key, v) :: rest =>
    match step state key v with
    | .ok state => foldMembers step state rest
    | .error fault => .error fault

mutual

def Schema.ofValue : {α : Type} → Schema α → Value → Except Fault α
  | _, .text, v =>
    match v with
    | .text s => .ok s
    | v => .error (.wrongKind v.found .text)
  | _, .list item, v =>
    match v with
    | .array values => convertAll item.ofValue values
    | v => .error (.wrongKind v.found .sequence)
  | _, .table item, v =>
    match v with
    | .object entries =>
      foldMembers (fun found key v => (item.ofValue v).map (found.insert key ·)) ∅ entries
    | v => .error (.wrongKind v.found .map)
  | _, .record name fields make _, v =>
    match v with
    | .array values => (fields.ofRow name fields.count values.length values 0).map make
    | .object entries =>
      ((foldMembers (fun found key v => fields.put key v found) fields.unread entries).bind
        fields.finish).map make
    | v => .error (.wrongKind v.found (.record name))
  | _, .any ofValue _, v => .ok (ofValue v)
  | _, .choice variants _, v =>
    match v with
    | .text name => findVariant variants name
    | .object [(name, content)] =>
      (findVariant variants name).bind fun a =>
        match content with
        | .null => .ok a
        | content => .error (.wrongKind content.found .unit)
    | _ => .error .noValue

def Fields.ofRow (record : String) (total length : Nat) : {σ α : Type} → Fields σ α →
    List Value → (index : Nat) → Except Fault α
  | _, _, .nil, values, _ =>
    match values with
    | [] => .ok ()
    | _ :: _ => .error (.tooLong length)
  | _, _, .cons key item blank rest, values, index =>
    match values with
    | [] => (Fields.cons key item blank rest).absent record total index
    | v :: values =>
      match item.ofValue v with
      | .error fault => .error fault
      | .ok a =>
        match rest.ofRow record total length values (index + 1) with
        | .ok b => .ok (a, b)
        | .error fault => .error fault

/-- Puts the value of a member to its field; an unknown member changes nothing. -/
def Fields.put : {σ α : Type} → Fields σ α → (key : String) → Value → σ → Except Fault σ
  | _, _, .nil, _, _, found => .ok found
  | _, _, .cons name item _ rest, key, v, (found, others) =>
    if key = name then
      match item.ofValue v with
      | .ok a => .ok (some a, others)
      | .error fault => .error fault
    else
      match rest.put key v others with
      | .ok others => .ok (found, others)
      | .error fault => .error fault

end

mutual

def Schema.toValue : {α : Type} → Schema α → α → Value
  | _, .text, s => .text s
  | _, .list item, as => .array (as.map item.toValue)
  | _, .table item, t => .object (t.entries.map fun (key, a) => (key, item.toValue a))
  | _, .record _ fields _ split, b => .object (fields.toMembers (split b))
  | _, .any _ toValue, a => toValue a
  | _, .choice _ name, a => .text (name a)

def Fields.toMembers : {σ α : Type} → Fields σ α → α → List (String × Value)
  | _, _, .nil, _ => []
  | _, _, .cons key item _ rest, (a, others) => (key, item.toValue a) :: rest.toMembers others

end

def Schema.ofText {α : Type} (schema : Schema α) (text : String) : Except Fault α :=
  (schema.reader depthLimit).document text

end ClusterAdvisor.Json
