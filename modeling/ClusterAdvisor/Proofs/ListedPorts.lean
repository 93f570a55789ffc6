import ClusterAdvisor.Json.Print
import ClusterAdvisor.Rules.Slots

/-!
The forms in which the ports of a supervisor may come: a list, a text with the ports between commas,
and such a text in brackets. However many blanks stand around the ports, and however many pieces of
blanks between them, all forms make the same number of slots. The brackets come off from outside
first, so it matters that no port has one: then nothing but the enclosing brackets is taken away.
-/

namespace ClusterAdvisor

open Text Json Decimal

namespace Rules

/-- Characters that neither end a port nor go away at the ends of the text. -/
def isPlain (c : Char) : Bool := c ≠ ',' && !isBracket c

/-- A piece with more than blanks in it. -/
def isVisible (piece : List Char) : Bool := piece.any (!isBlank ·)

/-- A class of characters is plain if it has none of the three others. -/
theorem isPlain_of_class {p : Char → Bool} (hcomma : p ',' = false) (hopen : p '[' = false)
    (hclose : p ']' = false) {c : Char} (h : p c = true) : isPlain c = true := by
  have hother (d : Char) (hd : p d = false) : c ≠ d := by
    rintro rfl
    rw [hd] at h
    cases h
  simp [isPlain, isBracket, hother _ hcomma, hother _ hopen, hother _ hclose]

theorem isPlain_of_isBlank {c : Char} (h : isBlank c = true) : isPlain c = true :=
  isPlain_of_class rfl rfl rfl h

theorem isBracket_of_isPlain {c : Char} (h : isPlain c = true) : isBracket c = false := by
  simp only [isPlain, Bool.and_eq_true, Bool.not_eq_true'] at h
  exact h.2

/-- Pieces of plain characters are the pieces of their join, up to one that is empty where there are
none at all. -/
theorem filter_pieces_intercalate {parts : List (List Char)}
    (hplain : ∀ part ∈ parts, ∀ c ∈ part, isPlain c = true) :
    (pieces ',' ([','].intercalate parts)).filter isVisible = parts.filter isVisible := by
  by_cases hnone : parts = []
  · rw [hnone]
    rfl
  · have hcomma : ∀ part ∈ parts, ',' ∉ part := by
      intro part hpart hmember
      cases hplain part hpart ',' hmember
    rw [pieces_eq_splitOn, List.splitOn_intercalate ',' hcomma hnone]

/-- Between the pieces stand commas only, so the brackets that come off are those around the whole.
-/
theorem isBracket_of_mem_intercalate {parts : List (List Char)}
    (hplain : ∀ part ∈ parts, ∀ c ∈ part, isPlain c = true) :
    ∀ c ∈ [','].intercalate parts, isBracket c = false := by
  induction parts with
  | nil => simp
  | cons part rest ih =>
    have hpart : ∀ c ∈ part, isBracket c = false := fun c hc =>
      isBracket_of_isPlain (hplain part List.mem_cons_self c hc)
    by_cases hrest : rest = []
    · simpa [hrest] using hpart
    · rw [List.intercalate_cons_of_ne_nil hrest]
      intro c hc
      rw [List.append_assoc] at hc
      rcases List.mem_append.mp hc with hfront | hback
      · exact hpart c hfront
      · rcases List.mem_cons.mp hback with rfl | hback
        · rfl
        · exact ih (fun other hother => hplain other (List.mem_cons_of_mem part hother)) c hback

/-- The ports of a text that is joined of plain pieces, whatever brackets are around it. -/
theorem listedPorts_of_joined {parts : List (List Char)} {front back : List Char} {text : String}
    (hplain : ∀ part ∈ parts, ∀ c ∈ part, isPlain c = true)
    (hfront : ∀ c ∈ front, isBracket c = true) (hback : ∀ c ∈ back, isBracket c = true)
    (htext : text.toList = front ++ [','].intercalate parts ++ back) :
    listedPorts text = parts.filter isVisible := by
  have hstripped : strip isBracket text.toList = [','].intercalate parts := by
    rw [htext, strip_append_back hback, strip_append_front hfront]
    exact strip_eq_self (isBracket_of_mem_intercalate hplain)
  rw [← filter_pieces_intercalate hplain, ← hstripped]
  rfl

/-! ### Texts of ports -/

def AllBlank (s : String) : Prop := ∀ c ∈ s.toList, isBlank c = true

instance : DecidablePred AllBlank := fun s =>
  decidable_of_iff (s.toList.all isBlank = true) List.all_eq_true

/-- A text that can be listed as a port: it has more than blanks in it, and no comma or bracket. -/
def IsPort (port : String) : Prop :=
  (∃ c ∈ port.toList, isBlank c = false) ∧ ∀ c ∈ port.toList, isPlain c = true

instance : DecidablePred IsPort := fun port =>
  decidable_of_iff (port.toList.any (!isBlank ·) = true ∧ port.toList.all isPlain = true)
    (and_congr (by simp) List.all_eq_true)

/-- Ports spread over the pieces of a text: in their order, each with blanks around it, and with
pieces of blanks anywhere between them. -/
inductive Spread : List String → List String → Prop where
  | nothing : Spread [] []
  | blank {ports segments : List String} {gap : String} (hgap : AllBlank gap)
      (hrest : Spread ports segments) : Spread ports (gap :: segments)
  | port {ports segments : List String} {front back : String} (port : String)
      (hfront : AllBlank front) (hback : AllBlank back) (hrest : Spread ports segments) :
      Spread (port :: ports) ((front ++ port ++ back) :: segments)

variable {ports segments : List String}

theorem AllBlank.isPlain {gap : String} (h : AllBlank gap) : ∀ c ∈ gap.toList, isPlain c = true :=
  fun c hc => isPlain_of_isBlank (h c hc)

theorem AllBlank.isVisible {gap : String} (h : AllBlank gap) : isVisible gap.toList = false := by
  rw [Rules.isVisible, List.any_eq_false]
  intro c hc
  simp [h c hc]

/-- Whatever stands around a port does not hide it. -/
theorem IsPort.isVisible {port : String} (h : IsPort port) (front back : String) :
    isVisible (front ++ port ++ back).toList = true := by
  obtain ⟨c, hc, hvisible⟩ := h.1
  rw [Rules.isVisible, List.any_eq_true]
  exact ⟨c, by simp [hc], by rw [hvisible]; rfl⟩

/-- Neither the ports nor the blanks around them hold a comma or a bracket. -/
theorem Spread.isPlain (h : Spread ports segments) (hports : ∀ port ∈ ports, IsPort port) :
    ∀ segment ∈ segments, ∀ c ∈ segment.toList, isPlain c = true := by
  induction h with
  | nothing => simp
  | blank hgap _ ih => exact List.forall_mem_cons.mpr ⟨hgap.isPlain, ih hports⟩
  | port port hfront hback _ ih =>
    obtain ⟨hport, hothers⟩ := List.forall_mem_cons.mp hports
    refine List.forall_mem_cons.mpr ⟨?_, ih hothers⟩
    intro c hc
    rw [String.toList_append, String.toList_append] at hc
    rcases List.mem_append.mp hc with hc | hc
    · rcases List.mem_append.mp hc with hc | hc
      · exact hfront.isPlain c hc
      · exact hport.2 c hc
    · exact hback.isPlain c hc

/-- Pieces of blanks drop out, and every other piece is one port. -/
theorem Spread.count_visible (h : Spread ports segments) (hports : ∀ port ∈ ports, IsPort port) :
    ((segments.map String.toList).filter Rules.isVisible).length = ports.length := by
  induction h with
  | nothing => rfl
  | blank hgap _ ih =>
    rw [List.map_cons, List.filter_cons_of_neg (by simp [hgap.isVisible])]
    exact ih hports
  | @port _ _ front back port _ _ _ ih =>
    obtain ⟨hport, hothers⟩ := List.forall_mem_cons.mp hports
    rw [List.map_cons, List.filter_cons_of_pos (hport.isVisible front back), List.length_cons,
      ih hothers, List.length_cons]

/-- Brackets around the text come off before its pieces are counted, however many they are. -/
theorem Spread.slots (h : Spread ports segments) (hports : ∀ port ∈ ports, IsPort port)
    {front back : List Char} (hfront : ∀ c ∈ front, isBracket c = true)
    (hback : ∀ c ∈ back, isBracket c = true) {text : String}
    (htext : text.toList = front ++ (",".intercalate segments).toList ++ back) :
    slotsPerSupervisor (some (.text text)) = ports.length := by
  have hplain : ∀ part ∈ segments.map String.toList, ∀ c ∈ part, Rules.isPlain c = true := by
    simpa using h.isPlain hports
  rw [String.toList_intercalate] at htext
  rw [slotsPerSupervisor, listedPorts_of_joined hplain hfront hback htext, h.count_visible hports]

/-- Ports with nothing added to them are a spread of themselves. -/
theorem spread_self (ports : List String) : Spread ports ports := by
  have hnothing : AllBlank "" := by decide
  induction ports with
  | nil => exact .nothing
  | cons port rest ih => simpa using ih.port port hnothing hnothing

/-! ### Numbers as texts -/

def isNumeral (c : Char) : Bool := c.isDigit || "abcdef*.+-".toList.contains c

theorem isPlain_of_isNumeral {c : Char} (h : isNumeral c = true) : isPlain c = true :=
  isPlain_of_class (by decide) (by decide) (by decide) h

theorem isBlank_of_isNumeral {c : Char} (h : isNumeral c = true) : isBlank c = false := by
  rcases (Bool.or_eq_true _ _).mp h with hdigit | hother
  · have hrange : 48 ≤ c.toNat ∧ c.toNat ≤ 57 := by
      simpa [Char.isDigit, UInt32.le_iff_toNat_le] using hdigit
    simp only [isBlank, Bool.or_eq_false_iff, Bool.and_eq_false_iff, decide_eq_false_iff_not,
      beq_eq_false_iff_ne]
    omega
  · have hall : "abcdef*.+-".toList.all (!isBlank ·) = true := by decide
    simpa using List.all_eq_true.mp hall c (List.contains_iff_mem.mp hother)

def Numerals (s : String) : Prop := ∀ c ∈ s.toList, isNumeral c = true

instance : DecidablePred Numerals := fun s =>
  decidable_of_iff (s.toList.all isNumeral = true) List.all_eq_true

theorem Numerals.append {s t : String} (hs : Numerals s) (ht : Numerals t) :
    Numerals (s ++ t) := by
  intro c hc
  rw [String.toList_append] at hc
  rcases List.mem_append.mp hc with hc | hc
  · exact hs c hc
  · exact ht c hc

/-- Numbers are written without commas, brackets and blanks. -/
theorem Numerals.isPort {s : String} (h : Numerals s) (hne : s ≠ "") : IsPort s := by
  obtain ⟨c, rest, hs⟩ := List.exists_cons_of_ne_nil (mt String.toList_eq_nil_iff.mp hne)
  have hfirst : c ∈ s.toList := hs ▸ List.mem_cons_self
  exact ⟨⟨c, hfirst, isBlank_of_isNumeral (h c hfirst)⟩, fun d hd => isPlain_of_isNumeral (h d hd)⟩

theorem IsPort.append_front {s front : String} (h : IsPort s) (hfront : Numerals front) :
    IsPort (front ++ s) := by
  obtain ⟨⟨visible, hvisible, hblank⟩, hplain⟩ := h
  refine ⟨⟨visible, by simp [hvisible], hblank⟩, ?_⟩
  intro c hc
  rw [String.toList_append] at hc
  rcases List.mem_append.mp hc with hc | hc
  · exact isPlain_of_isNumeral (hfront c hc)
  · exact hplain c hc

theorem isPort_repr (n : Nat) : IsPort n.repr := by
  have hdigits : Numerals n.repr := by
    intro c hc
    rw [Nat.toList_repr] at hc
    rw [isNumeral, Nat.isDigit_of_mem_toDigits (by decide) (by decide) hc, Bool.true_or]
  apply hdigits.isPort
  intro hempty
  have hnone : n.repr.toList = [] := by rw [hempty]; rfl
  rw [Nat.toList_repr] at hnone
  exact Nat.toDigits_ne_nil hnone

theorem isPort_toString (n : Int) : IsPort (toString n) := by
  rw [Int.toString_eq_repr, Int.repr_eq_if]
  split
  · exact isPort_repr _
  · exact (isPort_repr _).append_front (by decide)

theorem numerals_digitText (digits : List Nat) : Numerals (Layout.digitText digits) := by
  intro c hc
  rw [Layout.digitText, String.toList_ofList] at hc
  obtain ⟨n, _, rfl⟩ := List.mem_map.mp hc
  by_cases hsmall : n < 16
  · have hdigit : ∀ n < 16, isNumeral (Nat.digitChar n) = true := by decide
    exact hdigit n hsmall
  · unfold Nat.digitChar
    repeat rw [if_neg (by omega)]
    decide

theorem isPort_plain (d : Digits) : IsPort (Layout.plain d) := by
  have hdigits := numerals_digitText
  unfold Layout.plain
  split
  · exact ((by decide : Numerals "0.").append (hdigits _)).isPort (by simp)
  · exact (((hdigits _).append (by decide)).append (hdigits _)).isPort (by simp)

theorem isPort_scientific (d : Digits) : IsPort (realLayout.scientific d) := by
  have hdigits := numerals_digitText
  -- The exponent alone is a port already, so what stands before it only has to be plain.
  unfold Layout.scientific
  refine (isPort_repr _).append_front (Numerals.append ?_ ?_)
  · split
    · exact ((hdigits _).append (by decide)).append (hdigits _)
    · exact hdigits _
  · split
    · decide
    · decide

/-- Zero, a plain decimal and one with an exponent are each made of the characters of numbers. -/
theorem isPort_render (x : Binary64) : IsPort (realLayout.render x) := by
  have hmagnitude : IsPort
      (if x.shortest.digits.isEmpty then "0.0"
      else if realLayout.leastPlain ≤ x.shortest.point - 1 ∧
          x.shortest.point - 1 ≤ realLayout.greatestPlain then Layout.plain x.shortest
      else realLayout.scientific x.shortest) := by
    split
    · decide
    · split
      · exact isPort_plain _
      · exact isPort_scientific _
  unfold Layout.render
  split
  · exact hmagnitude.append_front (by decide)
  · exact hmagnitude

/-- An integer, or a number that is kept as a binary one because it is not whole or does not fit
64 bits. -/
def IsNumber : Value → Prop
  | .integer _ => True
  | .real _ => True
  | _ => False

theorem IsNumber.isPort {v : Value} (h : IsNumber v) : IsPort v.compact := by
  cases v with
  | integer n => simpa [Value.compact, compactChars, scalarChars] using isPort_toString n.val
  | real x => simpa [Value.compact, compactChars, scalarChars] using isPort_render x
  | _ => cases h

/-- A number in a list is shown as it is written. -/
theorem IsNumber.showItem_eq {v : Value} (h : IsNumber v) : PropertyValue.showItem v = v.compact := by
  cases v with
  | text s => cases h
  | _ => rfl

/-- The text of an array is its items with commas between them, which is the form of a list of
ports. -/
theorem compactItems_eq_intercalate (items : List Value) :
    compactItems items = [','].intercalate (items.map compactChars) := by
  induction items with
  | nil => rfl
  | cons v rest ih =>
    by_cases hrest : rest = []
    · simp [compactItems, hrest]
    · rw [compactItems, ih, List.map_cons, List.intercalate_cons_of_ne_nil (by simpa using hrest)]
      simp [hrest]

/-- An array is written as its items with commas between them, in brackets. -/
theorem toList_compact_array (items : List Value) :
    (Value.array items).compact.toList =
      ['['] ++ (",".intercalate (items.map Value.compact)).toList ++ [']'] := by
  have hitems : (items.map Value.compact).map String.toList = items.map compactChars := by
    simp [Value.compact]
  rw [String.toList_intercalate, hitems, Value.compact, String.toList_ofList, compactChars,
    compactItems_eq_intercalate]
  rfl

/-! ### All forms -/

/-- However ports are given, each makes one slot: in a text with commas between them, with blanks
around them and pieces of blanks among them, with or without brackets around the text, and in a
list. An array of numbers makes as many slots as a list as its texts do, the one that is written and
the one that is shown. -/
theorem port_forms_count_alike :
    (∀ ports segments : List String, (∀ port ∈ ports, IsPort port) → Spread ports segments →
      slotsPerSupervisor (some (.text (",".intercalate segments))) = ports.length ∧
      slotsPerSupervisor (some (.text ("[" ++ ",".intercalate segments ++ "]"))) = ports.length ∧
      ∀ items : List Value, items.length = ports.length →
        slotsPerSupervisor (some (.list items)) = ports.length) ∧
    ∀ items : List Value, (∀ item ∈ items, IsNumber item) →
      slotsPerSupervisor (some (.ofValue (.array items))) = items.length ∧
      slotsPerSupervisor (some (.text (Value.array items).compact)) = items.length ∧
      slotsPerSupervisor (some (.text (PropertyValue.ofValue (.array items)).display)) =
        items.length := by
  have hopening : ∀ c ∈ ['['], isBracket c = true := by simp [isBracket]
  have hclosing : ∀ c ∈ [']'], isBracket c = true := by simp [isBracket]
  have hnone : ∀ c ∈ ([] : List Char), isBracket c = true := by simp
  constructor
  · intro ports segments hports hspread
    refine ⟨?_, ?_, fun items hitems => hitems⟩
    · exact hspread.slots hports hnone hnone (by simp)
    · exact hspread.slots hports hopening hclosing (by simp)
  · intro items hitems
    have hports : ∀ port ∈ items.map Value.compact, IsPort port := by
      intro port hport
      obtain ⟨item, hitem, rfl⟩ := List.mem_map.mp hport
      exact (hitems item hitem).isPort
    have hspread := spread_self (items.map Value.compact)
    have hcount : (items.map Value.compact).length = items.length := List.length_map Value.compact
    refine ⟨rfl, ?_, ?_⟩
    · rw [hspread.slots hports hopening hclosing (toList_compact_array items), hcount]
    · have hshown : items.map PropertyValue.showItem = items.map Value.compact :=
        List.map_congr_left fun item hitem => (hitems item hitem).showItem_eq
      rw [PropertyValue.ofValue, PropertyValue.display, hshown,
        hspread.slots hports hnone hnone (by simp), hcount]

/-- Pieces with a port of two words, with blanks beyond those of ASCII, and with nothing at all. -/
def spreadPieces : List String :=
  ["\t", " " ++ "6700" ++ "\u3000", "", "\u0085" ++ "67 01" ++ "", " "]

def twoNumbers : List Value :=
  [.integer ⟨6700, by decide, by decide⟩, .real ⟨false, 4503599627370496, 12⟩]

theorem port_forms_count_alike_of_spreadPieces :
    (∀ port ∈ ["6700", "67 01"], IsPort port) ∧ Spread ["6700", "67 01"] spreadPieces ∧
      slotsPerSupervisor (some (.text (",".intercalate spreadPieces))) = 2 ∧
      slotsPerSupervisor (some (.text ("[" ++ ",".intercalate spreadPieces ++ "]"))) = 2 ∧
      slotsPerSupervisor (some (.list twoNumbers)) = 2 ∧
      (∀ item ∈ twoNumbers, IsNumber item) ∧
      slotsPerSupervisor (some (.text (Value.array twoNumbers).compact)) = 2 := by
  have hports : ∀ port ∈ ["6700", "67 01"], IsPort port := by decide
  have hspread : Spread ["6700", "67 01"] spreadPieces :=
    .blank (by decide) (.port "6700" (by decide) (by decide) (.blank (by decide)
      (.port "67 01" (by decide) (by decide) (.blank (by decide) .nothing))))
  have hnumbers : ∀ item ∈ twoNumbers, IsNumber item := by simp [twoNumbers, IsNumber]
  obtain ⟨hspreads, harrays⟩ := port_forms_count_alike
  obtain ⟨hbare, hbrackets, hlist⟩ := hspreads _ _ hports hspread
  obtain ⟨_, hwritten, _⟩ := harrays twoNumbers hnumbers
  exact ⟨hports, hspread, hbare, hbrackets, hlist twoNumbers rfl, hnumbers, hwritten⟩

end Rules

end ClusterAdvisor
