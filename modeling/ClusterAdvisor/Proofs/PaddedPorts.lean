import Mathlib.Data.List.DropRight
import ClusterAdvisor.Proofs.ListedPorts

/-!
Blanks around a text of ports. The brackets come off the ends of the text before anything is done
about blanks, so a blank at an end keeps all brackets of that end. A bracket that stays is no blank:
it makes a port of the first or last piece if there was none in it. Nothing else changes, so the
number of slots is never lowered, and it is raised exactly in the cases that `RevealsBracket` names.
-/

namespace ClusterAdvisor

namespace Text

section strip

variable {p : Char → Bool} {text front back before behind : List Char}

theorem head?_any_of_forall (h : ∀ c ∈ text, p c = true) :
    text.head?.any p = true ↔ text ≠ [] := by
  cases text with
  | nil => simp
  | cons c rest => simp [h c List.mem_cons_self]

theorem getLast?_any_of_forall (h : ∀ c ∈ text, p c = true) :
    text.getLast?.any p = true ↔ text ≠ [] := by
  rcases List.eq_nil_or_concat text with rfl | ⟨rest, c, rfl⟩
  · simp
  · simp [h c (by simp)]

/-- Nothing comes off at the ends of a text. -/
structure Firm (p : Char → Bool) (text : List Char) : Prop where
  first : ∀ c ∈ text.head?, p c = false
  last : ∀ c ∈ text.getLast?, p c = false

namespace Firm

theorem strip_eq (h : Firm p text) : strip p text = text := by
  have hfront : text.dropWhile p = text := by
    cases text with
    | nil => rfl
    | cons c rest => exact List.dropWhile_cons_of_neg (by simp [h.first c rfl])
  have hback : text.rdropWhile p = text := by
    rw [List.rdropWhile_eq_self_iff]
    intro hne
    simp [h.last _ (List.getLast?_eq_some_getLast hne)]
  rw [strip, hfront]
  exact hback

/-- The middle is firm, so only what stands in front of it can come off at the front. -/
theorem head?_any_append (h : Firm p text) (hne : text ≠ [])
    (hbefore : ∀ c ∈ before, p c = true) (rest : List Char) :
    (before ++ (text ++ rest)).head?.any p = true ↔ before ≠ [] := by
  cases before with
  | nil =>
    have hhead := List.head?_eq_some_head hne
    simp [List.head?_append, hhead, h.first _ hhead]
  | cons c others => simp [hbefore c List.mem_cons_self]

/-- The mirror image of `head?_any_append`. -/
theorem getLast?_any_append (h : Firm p text) (hne : text ≠ [])
    (hbehind : ∀ c ∈ behind, p c = true) (rest : List Char) :
    (rest ++ text ++ behind).getLast?.any p = true ↔ behind ≠ [] := by
  rcases List.eq_nil_or_concat behind with rfl | ⟨others, c, rfl⟩
  · have hlast := List.getLast?_eq_some_getLast hne
    simp [List.getLast?_append, hlast, h.last _ hlast]
  · simp [List.getLast?_append, hbehind c (by simp)]

/-- Whatever stays at an end of a text keeps all that is behind it. -/
theorem between (hfront : ∀ c ∈ front, p c = false) (hback : ∀ c ∈ back, p c = false)
    (hfirst : front = [] → ∀ c ∈ text.head?, p c = false)
    (hlast : back = [] → ∀ c ∈ text.getLast?, p c = false) : Firm p (front ++ text ++ back) := by
  constructor
  · intro c hc
    rw [List.append_assoc, List.head?_append, Option.mem_def, Option.or_eq_some_iff] at hc
    rcases hc with hc | ⟨hnone, hc⟩
    · exact hfront c (List.mem_of_mem_head? hc)
    · rw [List.head?_append, Option.or_eq_some_iff] at hc
      rcases hc with hc | ⟨_, hc⟩
      · exact hfirst (List.head?_eq_none_iff.mp hnone) c hc
      · exact hback c (List.mem_of_mem_head? hc)
  · intro c hc
    rw [List.getLast?_append, Option.mem_def, Option.or_eq_some_iff] at hc
    rcases hc with hc | ⟨hnone, hc⟩
    · exact hback c (List.mem_of_mem_getLast? hc)
    · rw [List.getLast?_append, Option.or_eq_some_iff] at hc
      rcases hc with hc | ⟨_, hc⟩
      · exact hlast (List.getLast?_eq_none_iff.mp hnone) c hc
      · exact hfront c (List.mem_of_mem_getLast? hc)

end Firm

/-- What is left of an end of a text with something that stays around it, or with nothing. -/
def shielded (around side : List Char) : List Char := if around = [] then [] else side

theorem mem_of_mem_shielded {around side : List Char} {c : Char} (h : c ∈ shielded around side) :
    c ∈ side := by
  unfold shielded at h
  split at h
  · cases h
  · exact h

theorem shielded_ne_nil_iff {around side : List Char} :
    shielded around side ≠ [] ↔ around ≠ [] ∧ side ≠ [] := by
  by_cases haround : around = [] <;> simp [shielded, haround]

/-- What stays around a text keeps the ends of the text at which it stands, and only these. -/
theorem Firm.strip_padded {inner : List Char} (h : Firm p inner) (hne : inner ≠ [])
    (hfront : ∀ c ∈ front, p c = false) (hback : ∀ c ∈ back, p c = false)
    (hbefore : ∀ c ∈ before, p c = true) (hbehind : ∀ c ∈ behind, p c = true) :
    strip p (front ++ (before ++ inner ++ behind) ++ back) =
      front ++ (shielded front before ++ inner ++ shielded back behind) ++ back := by
  have hopening (rest : List Char) :
      strip p (front ++ (before ++ rest)) = strip p (front ++ (shielded front before ++ rest)) := by
    by_cases hnone : front = []
    · simp [shielded, hnone, strip_append_front hbefore]
    · simp [shielded, hnone]
  have hclosing (rest : List Char) :
      strip p (rest ++ behind ++ back) = strip p (rest ++ shielded back behind ++ back) := by
    by_cases hnone : back = []
    · simp [shielded, hnone, strip_append_back hbehind]
    · simp [shielded, hnone]
  have hkept :
      Firm p (front ++ (shielded front before ++ inner ++ shielded back behind) ++ back) := by
    apply Firm.between hfront hback
    · intro hnone
      rw [shielded, if_pos hnone, List.nil_append, List.head?_append_of_ne_nil _ hne]
      exact h.first
    · intro hnone
      rw [shielded, shielded, if_pos hnone, List.append_nil, List.getLast?_append_of_ne_nil _ hne]
      exact h.last
  calc strip p (front ++ (before ++ inner ++ behind) ++ back)
      = strip p (front ++ (before ++ (inner ++ behind ++ back))) := by simp
    _ = strip p (front ++ (shielded front before ++ inner) ++ behind ++ back) := by
        rw [hopening]
        simp
    _ = strip p (front ++ (shielded front before ++ inner ++ shielded back behind) ++ back) := by
        rw [hclosing]
        simp
    _ = _ := hkept.strip_eq

/-- A text by what comes off at its ends and what is left, if anything is. -/
theorem exists_firm (h : ∃ c ∈ text, p c = false) :
    ∃ front inner back, text = front ++ inner ++ back ∧ (∀ c ∈ front, p c = true) ∧
      (∀ c ∈ back, p c = true) ∧ inner ≠ [] ∧ Firm p inner := by
  have hrest : text.dropWhile p ≠ [] := by
    rw [Ne, List.dropWhile_eq_nil_iff]
    obtain ⟨c, hc, hp⟩ := h
    intro hall
    rw [hall c hc] at hp
    cases hp
  obtain ⟨first, rest, hfirst⟩ := List.exists_cons_of_ne_nil hrest
  have hstays : p first = false := by
    have := List.head?_dropWhile_not p text
    rwa [hfirst] at this
  have hinner : (first :: rest).rdropWhile p ≠ [] := by
    rw [Ne, List.rdropWhile_eq_nil_iff]
    intro hall
    rw [hall first List.mem_cons_self] at hstays
    cases hstays
  have hsplit : text = text.takeWhile p ++ (first :: rest).rdropWhile p ++
      (first :: rest).rtakeWhile p := by
    rw [List.append_assoc, List.rdropWhile_append_rtakeWhile, ← hfirst,
      List.takeWhile_append_dropWhile]
  refine ⟨_, _, _, hsplit, fun c hc => List.mem_takeWhile_imp hc,
    fun c hc => List.mem_rtakeWhile_imp hc, hinner, ?_, ?_⟩
  · intro c hc
    obtain ⟨others, hprefix⟩ := List.rdropWhile_prefix p (first :: rest)
    obtain ⟨head, tail, hcons⟩ := List.exists_cons_of_ne_nil hinner
    rw [hcons] at hprefix hc
    cases hprefix
    cases hc
    exact hstays
  · intro c hc
    have hlast := List.rdropWhile_last_not p (first :: rest) hinner
    rw [List.getLast?_eq_some_getLast hinner] at hc
    cases hc
    simpa using hlast

end strip

end Text

namespace Rules

open Text

/-! ### Counting the pieces that are visible -/

def visibleCount (text : List Char) : Nat := ((pieces ',' text).filter isVisible).length

/-- Only blanks up to the first comma. -/
def StartsBlank (text : List Char) : Prop := ∀ c ∈ text.takeWhile (· ≠ ','), isBlank c = true

instance : DecidablePred StartsBlank := fun text =>
  decidable_of_iff ((text.takeWhile (· ≠ ',')).all isBlank = true) List.all_eq_true

/-- Only blanks behind the last comma. -/
def EndsBlank (text : List Char) : Prop := StartsBlank text.reverse

instance : DecidablePred EndsBlank := fun text =>
  inferInstanceAs (Decidable (StartsBlank text.reverse))

/-- Brackets come off first and blanks are looked at later, which is where padding makes a
difference. -/
theorem slotsPerSupervisor_text (s : String) :
    slotsPerSupervisor (some (.text s)) = visibleCount (strip isBracket s.toList) := rfl

theorem isVisible_append (front back : List Char) :
    isVisible (front ++ back) = (isVisible front || isVisible back) := List.any_append

theorem isVisible_reverse (text : List Char) : isVisible text.reverse = isVisible text :=
  List.any_reverse

theorem isVisible_eq_false_iff {text : List Char} :
    isVisible text = false ↔ ∀ c ∈ text, isBlank c = true := by
  simp [isVisible]

/-- What is put in front of a text adds a port if it is visible and the text began without one. -/
theorem visibleCount_append_front {front : List Char} (hfront : ',' ∉ front) (text : List Char) :
    visibleCount (front ++ text) =
      visibleCount text + if isVisible front = true ∧ StartsBlank text then 1 else 0 := by
  have hstarts : StartsBlank text ↔ isVisible (text.takeWhile (· ≠ ',')) = false :=
    isVisible_eq_false_iff.symm
  have hpieces : pieces ',' ([] ++ text) = _ := pieces_append List.not_mem_nil text
  rw [List.nil_append, List.nil_append] at hpieces
  rw [visibleCount, visibleCount, pieces_append hfront, hpieces, List.tail_cons, List.filter_cons,
    List.filter_cons, isVisible_append]
  simp only [hstarts]
  cases isVisible front <;> cases isVisible (text.takeWhile (· ≠ ',')) <;> simp

theorem visibleCount_reverse (text : List Char) :
    visibleCount text.reverse = visibleCount text := by
  have hsame : isVisible ∘ List.reverse = isVisible := funext isVisible_reverse
  rw [visibleCount, pieces_reverse, List.filter_reverse, List.length_reverse, List.filter_map,
    List.length_map, hsame, visibleCount]

/-- The mirror image of `visibleCount_append_front`, by reading the text backwards. -/
theorem visibleCount_append_back {back : List Char} (hback : ',' ∉ back) (text : List Char) :
    visibleCount (text ++ back) =
      visibleCount text + if isVisible back = true ∧ EndsBlank text then 1 else 0 := by
  rw [← visibleCount_reverse, List.reverse_append, visibleCount_append_front (by simpa using hback),
    visibleCount_reverse, isVisible_reverse]
  rfl

/-- Blanks around a text add no port. -/
theorem visibleCount_between {front back : List Char} (hfront : ∀ c ∈ front, isBlank c = true)
    (hback : ∀ c ∈ back, isBlank c = true) (text : List Char) :
    visibleCount (front ++ text ++ back) = visibleCount text := by
  have hcomma {blanks : List Char} (h : ∀ c ∈ blanks, isBlank c = true) : ',' ∉ blanks :=
    fun hmem => absurd (h ',' hmem) (by decide)
  have hunseen {blanks : List Char} (h : ∀ c ∈ blanks, isBlank c = true) :
      ¬ isVisible blanks = true := by
    rw [isVisible_eq_false_iff.mpr h]
    exact Bool.false_ne_true
  rw [visibleCount_append_back (hcomma hback), visibleCount_append_front (hcomma hfront),
    if_neg fun h => hunseen hfront h.1, if_neg fun h => hunseen hback h.1]
  rfl

theorem StartsBlank.of_append {text back : List Char} (h : StartsBlank (text ++ back)) :
    StartsBlank text := by
  intro c hc
  apply h c
  rw [List.takeWhile_append]
  split
  · exact List.mem_append_left _ ((List.takeWhile_sublist _).subset hc)
  · exact hc

/-- A text that stops beginning with blanks as something is put behind it has no comma. -/
theorem StartsBlank.endsBlank_of_append {text back : List Char} (h : StartsBlank text)
    (hnot : ¬ StartsBlank (text ++ back)) : EndsBlank text := by
  have hwhole : text.takeWhile (· ≠ ',') = text := by
    apply (List.takeWhile_prefix _).eq_of_length
    by_contra hshorter
    apply hnot
    rwa [StartsBlank, List.takeWhile_append, if_neg hshorter]
  rw [StartsBlank, hwhole] at h
  intro c hc
  exact h c (List.mem_reverse.mp ((List.takeWhile_sublist _).subset hc))

theorem isBracket_of_isBlank {c : Char} (h : isBlank c = true) : isBracket c = false :=
  isBracket_of_isPlain (isPlain_of_isBlank h)

theorem isBlank_of_isBracket {c : Char} (h : isBracket c = true) : isBlank c = false := by
  cases hblank : isBlank c with
  | false => rfl
  | true =>
    rw [isBracket_of_isBlank hblank] at h
    cases h

theorem not_mem_of_brackets {brackets : List Char} (h : ∀ c ∈ brackets, isBracket c = true) :
    ',' ∉ brackets := fun hmem => absurd (h ',' hmem) (by decide)

/-- A bracket that does not come off is more than a blank and makes a port. -/
theorem isVisible_iff_of_brackets {brackets : List Char}
    (h : ∀ c ∈ brackets, isBracket c = true) : isVisible brackets = true ↔ brackets ≠ [] := by
  cases brackets with
  | nil => simp [isVisible]
  | cons c rest => simp [isVisible, isBlank_of_isBracket (h c List.mem_cons_self)]

/-- Brackets that are left around a text make a port of its first or last piece if that is blank. -/
theorem visibleCount_enclosed {front back : List Char} (hfront : ∀ c ∈ front, isBracket c = true)
    (hback : ∀ c ∈ back, isBracket c = true) (text : List Char) :
    visibleCount text ≤ visibleCount (front ++ text ++ back) ∧
      (visibleCount (front ++ text ++ back) = visibleCount text ↔
        ¬ (front ≠ [] ∧ StartsBlank text ∨ back ≠ [] ∧ EndsBlank text)) := by
  have hstarts : StartsBlank (text ++ back) → StartsBlank text := StartsBlank.of_append
  have hends : StartsBlank text → ¬ StartsBlank (text ++ back) → EndsBlank text :=
    StartsBlank.endsBlank_of_append
  have hbehind (h : StartsBlank text) (hnot : ¬ StartsBlank (text ++ back)) : back ≠ [] := by
    rintro rfl
    exact hnot (by rwa [List.append_nil])
  rw [List.append_assoc, visibleCount_append_front (not_mem_of_brackets hfront),
    visibleCount_append_back (not_mem_of_brackets hback)]
  simp only [isVisible_iff_of_brackets hfront, isVisible_iff_of_brackets hback]
  constructor
  · rw [Nat.add_assoc]
    exact Nat.le_add_right _ _
  · grind

theorem visibleCount_of_brackets {brackets : List Char}
    (h : ∀ c ∈ brackets, isBracket c = true) :
    visibleCount brackets = if brackets ≠ [] then 1 else 0 := by
  have hpieces : pieces ',' brackets = [brackets] := pieces_of_not_mem (not_mem_of_brackets h)
  have hvisible := isVisible_iff_of_brackets h
  rw [visibleCount, hpieces, List.filter_singleton]
  split <;> simp_all

/-! ### Brackets that stay -/

/-- Blanks around a text of nothing but brackets keep the brackets if they stand at both ends. -/
theorem visibleCount_strip_of_brackets {front text back : List Char}
    (hfront : ∀ c ∈ front, isBlank c = true) (hback : ∀ c ∈ back, isBlank c = true)
    (htext : ∀ c ∈ text, isBracket c = true) :
    visibleCount (strip isBracket (front ++ text ++ back)) =
      if front ≠ [] ∧ text ≠ [] ∧ back ≠ [] then 1 else 0 := by
  have hfrontKept : ∀ c ∈ front, isBracket c = false := fun c hc =>
    isBracket_of_isBlank (hfront c hc)
  have hbackKept : ∀ c ∈ back, isBracket c = false := fun c hc =>
    isBracket_of_isBlank (hback c hc)
  have hblanks : visibleCount (front ++ [] ++ back) = 0 := visibleCount_between hfront hback []
  rw [List.append_nil] at hblanks
  by_cases hnofront : front = []
  · subst hnofront
    rw [List.nil_append, strip_append_front htext, strip_eq_self hbackKept]
    simpa using hblanks
  · by_cases hnoback : back = []
    · subst hnoback
      rw [List.append_nil, strip_append_back htext, strip_eq_self hfrontKept]
      simpa using hblanks
    · have hfirm : Firm isBracket (front ++ text ++ back) :=
        Firm.between hfrontKept hbackKept (absurd · hnofront) (absurd · hnoback)
      rw [hfirm.strip_eq, visibleCount_between hfront hback, visibleCount_of_brackets htext]
      simp [hnofront, hnoback]

/-- Blanks around a text with something between its brackets keep the brackets of the ends at which
they stand. -/
theorem exists_strip_padded {front text back : List Char}
    (hfront : ∀ c ∈ front, isBracket c = false) (hback : ∀ c ∈ back, isBracket c = false)
    (htext : ∃ c ∈ text, isBracket c = false) :
    ∃ opening closing, strip isBracket (front ++ text ++ back) =
        front ++ (opening ++ strip isBracket text ++ closing) ++ back ∧
      (∀ c ∈ opening, isBracket c = true) ∧ (∀ c ∈ closing, isBracket c = true) ∧
      (opening ≠ [] ↔ front ≠ [] ∧ text.head?.any isBracket = true) ∧
      (closing ≠ [] ↔ back ≠ [] ∧ text.getLast?.any isBracket = true) := by
  obtain ⟨before, inner, behind, rfl, hbefore, hbehind, hinner, hfirm⟩ := exists_firm htext
  have hbare : strip isBracket (before ++ inner ++ behind) = inner := by
    rw [strip_append_back hbehind, strip_append_front hbefore, hfirm.strip_eq]
  refine ⟨shielded front before, shielded back behind, ?_,
    fun c hc => hbefore c (mem_of_mem_shielded hc), fun c hc => hbehind c (mem_of_mem_shielded hc),
    ?_, ?_⟩
  · rw [hfirm.strip_padded hinner hfront hback hbefore hbehind, hbare]
  · rw [shielded_ne_nil_iff, List.append_assoc, hfirm.head?_any_append hinner hbefore]
  · rw [shielded_ne_nil_iff, hfirm.getLast?_any_append hinner hbehind]

/-- Blanks around a text make a port of a bracket: they stand at an end with a bracket, and between
the brackets of the text only blanks follow up to the nearest comma. A text of nothing but brackets
needs blanks at both ends for that, as all of its brackets come off from either one. -/
def RevealsBracket (front s back : String) : Prop :=
  (front ≠ "" ∧ s.toList.head?.any isBracket = true ∧ StartsBlank (strip isBracket s.toList) ∨
    back ≠ "" ∧ s.toList.getLast?.any isBracket = true ∧ EndsBlank (strip isBracket s.toList)) ∧
  ((∀ c ∈ s.toList, isBracket c = true) → front ≠ "" ∧ back ≠ "")

/-- Blanks around a text of ports never lower the number of slots, and they leave it as it is unless
they make a port of a bracket. -/
theorem padded_ports_count (s : String) {front back : String} (hfront : AllBlank front)
    (hback : AllBlank back) :
    slotsPerSupervisor (some (.text s)) ≤ slotsPerSupervisor (some (.text (front ++ s ++ back))) ∧
      (slotsPerSupervisor (some (.text (front ++ s ++ back))) =
        slotsPerSupervisor (some (.text s)) ↔ ¬ RevealsBracket front s back) := by
  have hempty (t : String) : t ≠ "" ↔ t.toList ≠ [] := not_congr String.toList_eq_nil_iff.symm
  simp only [slotsPerSupervisor_text, String.toList_append, RevealsBracket, hempty]
  by_cases htext : ∀ c ∈ s.toList, isBracket c = true
  · have hbare : strip isBracket s.toList = [] := by
      rw [← List.append_nil s.toList, strip_append_front htext]
      rfl
    have hblank : StartsBlank [] ∧ EndsBlank [] := by decide
    rw [visibleCount_strip_of_brackets hfront hback htext, hbare, head?_any_of_forall htext,
      getLast?_any_of_forall htext]
    have hzero : visibleCount [] = 0 := rfl
    grind
  · have hsome : ∃ c ∈ s.toList, isBracket c = false := by simpa using htext
    obtain ⟨opening, closing, hstrip, hopening, hclosing, hopens, hcloses⟩ := exists_strip_padded
      (fun c hc => isBracket_of_isBlank (hfront c hc))
      (fun c hc => isBracket_of_isBlank (hback c hc)) hsome
    rw [hstrip, visibleCount_between hfront hback]
    obtain ⟨hle, hiff⟩ := visibleCount_enclosed hopening hclosing (strip isBracket s.toList)
    refine ⟨hle, hiff.trans (not_congr ?_)⟩
    rw [hopens, hcloses, and_assoc, and_assoc]
    exact (and_iff_left fun hall => absurd hall htext).symm

/-- A port, a comma, and brackets around them; and a port in brackets without the comma. -/
theorem padded_ports_count_of_blankBehind :
    AllBlank "" ∧ AllBlank " " ∧
      slotsPerSupervisor (some (.text ("" ++ "[6700,]" ++ " "))) ≠
        slotsPerSupervisor (some (.text "[6700,]")) ∧
      slotsPerSupervisor (some (.text ("" ++ "[6700]" ++ " "))) =
        slotsPerSupervisor (some (.text "[6700]")) := by
  have hnone : AllBlank "" := by decide
  have hblank : AllBlank " " := by decide
  have hrevealed : RevealsBracket "" "[6700,]" " " :=
    ⟨.inr (by decide), fun hall => absurd (hall '6' (by decide)) (by decide)⟩
  have hhidden : ¬ RevealsBracket "" "[6700]" " " := by
    rintro ⟨⟨hfront, _⟩ | ⟨_, _, hport⟩, _⟩
    · exact hfront rfl
    · exact absurd hport (by decide)
  have hport := (padded_ports_count "[6700]" hnone hblank).2
  have hcomma := (padded_ports_count "[6700,]" hnone hblank).2
  exact ⟨hnone, hblank, fun heq => hcomma.mp heq hrevealed, hport.mpr hhidden⟩

theorem padding_miscounts :
    ¬ ∀ s front back : String, AllBlank front → AllBlank back →
      slotsPerSupervisor (some (.text (front ++ s ++ back))) =
        slotsPerSupervisor (some (.text s)) := by
  intro h
  exact absurd (h "[6700,]" "" " " (by decide) (by decide)) (by decide)

end Rules

end ClusterAdvisor
