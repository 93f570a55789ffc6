import ClusterAdvisor.Proofs.WellFormed

/-!
Passing over a value. Whatever is well formed is passed over to its end and no further, so a value
that nobody asks for takes nothing away from what stands behind it. All that can be read is well
formed.
-/

namespace ClusterAdvisor.Json

/-! ### Texts -/

theorem skipText_quote (rest : List Char) : skipText ('"' :: rest) = .ok rest := by
  rw [skipText]

theorem skipText_escape {text rest : List Char} (h : skipEscape text = .ok rest) :
    skipText ('\\' :: text) = skipText rest := by
  rw [skipText]
  split
  · rename_i hescape
    rw [h] at hescape
    cases hescape
    rfl
  · rename_i hescape
    rw [h] at hescape
    cases hescape

theorem skipText_plain {c : Char} (text : List Char) (hquote : c ≠ '"') (hslash : c ≠ '\\')
    (hcontrol : isControl c = false) : skipText (c :: text) = skipText text := by
  rw [skipText.eq_def]
  split
  · rename_i heq
    cases heq
  · rename_i heq
    cases heq
    exact absurd rfl hquote
  · rename_i heq
    cases heq
    exact absurd rfl hslash
  · rename_i heq
    cases heq
    rw [if_neg (by simp [hcontrol])]

/-- A lone half of a pair is passed over, though it cannot be read. -/
theorem skipEscape_unicode {text rest : List Char} {unit : Nat}
    (h : codeUnit text = .ok (unit, rest)) : skipEscape ('u' :: text) = .ok rest := by
  simp [skipEscape, h]

/-- A pair of surrogates is read as one escape and passed over as two. -/
theorem skipText_unicodeEscape {text rest : List Char} {c : Char}
    (h : unicodeEscape text = .ok (c, rest)) : skipText ('\\' :: 'u' :: text) = skipText rest := by
  unfold unicodeEscape at h
  split at h
  · cases h
  · rename_i unit more hunit
    rw [skipText_escape (skipEscape_unicode hunit)]
    split at h
    · cases h
    · split at h
      · split at h
        · split at h
          · cases h
          · rename_i hlow
            split at h
            · simp only [Except.ok.injEq, Prod.mk.injEq] at h
              rw [skipText_escape (skipEscape_unicode hlow), h.2]
            · cases h
        · cases h
        · cases h
        · cases h
      · simp only [Except.ok.injEq, Prod.mk.injEq] at h
        rw [h.2]

/-- Passing over an escape takes off as much as reading it. -/
theorem skipText_escapedChar {text rest : List Char} {c : Char}
    (h : escapedChar text = .ok (c, rest)) : skipText ('\\' :: text) = skipText rest := by
  unfold escapedChar at h
  split at h
  · cases h
  · exact skipText_unicodeEscape h
  · rename_i first more hnot
    split at h
    · rename_i meaning hmeaning
      cases h
      apply skipText_escape
      rw [skipEscape, hmeaning]
      · rfl
      · exact hnot
    · cases h

/-- Where a text can be read it can be passed over, up to the same quote. -/
theorem skipText_of_textAfter {read text rest : List Char} {s : String}
    (h : textAfter read text = .ok (s, rest)) : skipText text = .ok rest := by
  fun_induction textAfter read text with
  | case1 => cases h
  | case2 =>
    cases h
    exact skipText_quote _
  | case3 read more c left hescape _ ih =>
    rw [skipText_escapedChar hescape]
    exact ih h
  | case4 => cases h
  | case5 => cases h
  | case6 read c more hquote hslash hcontrol ih =>
    rw [skipText_plain more hquote hslash (by simpa using hcontrol)]
    exact ih h

theorem codeUnit_of_hexDigits {a b c d : Char}
    (h : ∀ digit ∈ [a, b, c, d], (hexDigit? digit).isSome = true) (rest : List Char) :
    ∃ unit, codeUnit (a :: b :: c :: d :: rest) = .ok (unit, rest) := by
  obtain ⟨ha, hb, hc, hd⟩ := by
    simpa only [List.forall_mem_cons, Option.isSome_iff_exists, List.not_mem_nil, false_implies,
      implies_true, and_true] using h
  obtain ⟨first, ha⟩ := ha
  obtain ⟨second, hb⟩ := hb
  obtain ⟨third, hc⟩ := hc
  obtain ⟨fourth, hd⟩ := hd
  exact ⟨((first * 16 + second) * 16 + third) * 16 + fourth, by simp only [codeUnit, ha, hb, hc, hd]⟩

theorem hexDigits_of_codeUnit {text rest : List Char} {unit : Nat}
    (h : codeUnit text = .ok (unit, rest)) :
    ∃ a b c d, text = a :: b :: c :: d :: rest ∧
      ∀ digit ∈ [a, b, c, d], (hexDigit? digit).isSome = true := by
  unfold codeUnit at h
  split at h
  · split at h
    · rename_i ha hb hc hd
      cases h
      exact ⟨_, _, _, _, rfl, by simp [ha, hb, hc, hd]⟩
    · cases h
  · cases h

theorem skipEscape_short {c : Char} (hc : c ∈ ['"', '\\', '/', 'b', 'f', 'n', 'r', 't'])
    (rest : List Char) : skipEscape (c :: rest) = .ok rest := by
  simp only [List.mem_cons, List.not_mem_nil, or_false] at hc
  rcases hc with rfl | rfl | rfl | rfl | rfl | rfl | rfl | rfl
  all_goals rfl

theorem mem_of_shortEscape {c : Char} (h : (shortEscape? c).isSome = true) :
    c ∈ ['"', '\\', '/', 'b', 'f', 'n', 'r', 't'] := by
  unfold shortEscape? at h
  split at h
  case h_9 => cases h
  all_goals simp

theorem skipText_wellQuoted {body : List Char} (h : WellQuoted body) (rest : List Char) :
    skipText (body ++ rest) = .ok rest := by
  induction h with
  | close => exact skipText_quote rest
  | plain hquote hslash hcontrol _ ih =>
    rw [List.cons_append, skipText_plain _ hquote hslash hcontrol, ih]
  | short hc _ ih =>
    rw [List.cons_append, List.cons_append, skipText_escape (skipEscape_short hc _), ih]
  | @unicode a b c d text hdigits _ ih =>
    obtain ⟨unit, hunit⟩ := codeUnit_of_hexDigits hdigits (text ++ rest)
    simp only [List.cons_append]
    rw [skipText_escape (skipEscape_unicode hunit), ih]

theorem exists_of_skipText {text rest : List Char} (h : skipText text = .ok rest) :
    ∃ body, WellQuoted body ∧ text = body ++ rest := by
  fun_induction skipText text with
  | case1 => cases h
  | case2 =>
    cases h
    exact ⟨_, .close, rfl⟩
  | case3 text left hescape _ ih =>
    obtain ⟨body, hbody, rfl⟩ := ih h
    unfold skipEscape at hescape
    split at hescape
    · cases hescape
    · split at hescape
      · rename_i hunit
        cases hescape
        obtain ⟨a, b, c, d, rfl, hdigits⟩ := hexDigits_of_codeUnit hunit
        exact ⟨_, .unicode hdigits hbody, rfl⟩
      · cases hescape
    · split at hescape
      · rename_i hshort
        cases hescape
        exact ⟨_, .short (mem_of_shortEscape hshort) hbody, rfl⟩
      · cases hescape
  | case4 => cases h
  | case5 => cases h
  | case6 c text hquote hslash hcontrol ih =>
    obtain ⟨body, hbody, rfl⟩ := ih h
    exact ⟨_, .plain hquote hslash (by simpa using hcontrol) hbody, rfl⟩

/-- The name of a member that can be read is well quoted. -/
theorem wellQuoted_of_textBody {name : List Char} {key : String}
    (h : textBody name = .ok (key, [])) : WellQuoted name := by
  obtain ⟨body, hbody, rfl⟩ := exists_of_skipText (skipText_of_textAfter h)
  rwa [List.append_nil]

/-! ### Values without parts -/

theorem word_of_constant {letters : String} {c v : Value} {text rest : List Char}
    (h : constant letters c text = .ok (v, rest)) : word letters.toList text = .ok rest := by
  unfold constant at h
  split at h
  · rename_i hword
    cases h
    exact hword
  · cases h

/-- A number is passed over by its spelling, so one that is too large is no fault. -/
theorem skipScalar_of_scan {c : Char} {text rest : List Char} {n : Numeral}
    (h : (c = '-' || c.isDigit) = true) (hscan : Numeral.scan (c :: text) = .ok (n, rest)) :
    skipScalar (c :: text) = .ok rest := by
  unfold skipScalar
  split
  · rename_i heq
    cases heq
  · rename_i heq
    cases heq
    cases h
  · rename_i heq
    cases heq
    cases h
  · rename_i heq
    cases heq
    cases h
  · rename_i heq
    cases heq
    cases h
  · rename_i heq
    cases heq
    rw [if_pos h, hscan]

theorem skipScalar_of_scalar {text rest : List Char} {v : Value}
    (h : scalar text = .ok (v, rest)) : skipScalar text = .ok rest := by
  unfold scalar at h
  split at h
  · cases h
  · exact word_of_constant h
  · exact word_of_constant h
  · exact word_of_constant h
  · split at h
    · rename_i hbody
      cases h
      exact skipText_of_textAfter hbody
    · cases h
  · split at h
    · rename_i hstart
      unfold number at h
      split at h
      · rename_i hscan
        split at h
        · cases h
          exact skipScalar_of_scan hstart hscan
        · cases h
      · cases h
      · cases h
    · cases h

theorem skipScalar_wellFormed {text rest : List Char} (h : WellFormedScalar text)
    (hends : EndsNumber rest) : skipScalar (text ++ rest) = .ok rest := by
  cases h with
  | word hword =>
    simp only [List.mem_cons, List.not_mem_nil, or_false] at hword
    rcases hword with rfl | rfl | rfl
    · exact word_append _ rest
    · exact word_append _ rest
    · exact word_append _ rest
  | text hbody => exact skipText_wellQuoted hbody rest
  | number hnumber =>
    obtain ⟨n, hscan⟩ := hnumber.append
    obtain ⟨c, more, rfl, hc⟩ := hnumber.exists_start
    have hrun := hscan rest hends
    rw [List.cons_append] at hrun ⊢
    exact skipScalar_of_scan hc hrun

theorem exists_of_skipScalar {text rest : List Char} (h : skipScalar text = .ok rest) :
    ∃ taken, WellFormedScalar taken ∧ text = taken ++ rest := by
  unfold skipScalar at h
  split at h
  · cases h
  · exact ⟨_, @WellFormedScalar.word "null" (by simp), congrArg ('n' :: ·) (eq_append_of_word h)⟩
  · exact ⟨_, @WellFormedScalar.word "true" (by simp), congrArg ('t' :: ·) (eq_append_of_word h)⟩
  · exact ⟨_, @WellFormedScalar.word "false" (by simp), congrArg ('f' :: ·) (eq_append_of_word h)⟩
  · obtain ⟨body, hbody, rfl⟩ := exists_of_skipText h
    exact ⟨_, .text hbody, rfl⟩
  · split at h
    · split at h
      · rename_i hscan
        cases h
        obtain ⟨taken, hnumber, htaken, _⟩ := Numeral.exists_of_scan hscan
        exact ⟨taken, .number hnumber, htaken⟩
      · cases h
    · cases h

/-! ### Brackets -/

section brackets

variable {opened : List Bracket} {bracket : Bracket} {blanks text rest start : List Char}

/-- What happens at the first character of a value. -/
theorem skipFrom_start {c : Char} (hstart : skipSpace text = c :: rest) :
    skipFrom opened true text =
      match Bracket.opening? c with
      | some bracket =>
        match skipSpace rest with
        | [] => .error (.cut bracket.construct)
        | d :: more =>
          if d = bracket.closing then skipFrom opened false more
          else
            match skipKey bracket (d :: more) with
            | .error fault => .error fault
            | .ok start => skipFrom (bracket :: opened) true start
      | none =>
        match skipScalar (c :: rest) with
        | .error fault => .error fault
        | .ok left => skipFrom opened false left := by
  rw [skipFrom.eq_def, if_pos rfl]
  split
  · rename_i heq
    rw [hstart] at heq
    cases heq
  · rename_i heq
    rw [hstart] at heq
    cases heq
    cases Bracket.opening? c with
    | some bracket =>
      dsimp only
      split
      · rename_i hinside
        rw [hinside]
      · rename_i hinside
        rw [hinside]
        dsimp only
        split
        · rfl
        · split
          · rename_i hkey
            rw [hkey]
          · rename_i hkey
            rw [hkey]
    | none =>
      dsimp only
      split
      · rename_i hscalar
        rw [hscalar]
      · rename_i hscalar
        rw [hscalar]

/-- What happens at the first character behind a value that is inside of brackets. -/
theorem skipFrom_behind {c : Char} (hbehind : skipSpace text = c :: rest) :
    skipFrom (bracket :: opened) false text =
      if c = ',' then
        match skipKey bracket rest with
        | .error fault => .error fault
        | .ok start => skipFrom (bracket :: opened) true start
      else if c = bracket.closing then skipFrom opened false rest
      else .error bracket.noSeparator := by
  rw [skipFrom.eq_def, if_neg Bool.false_ne_true]
  dsimp only
  split
  · rename_i heq
    rw [hbehind] at heq
    cases heq
  · rename_i heq
    rw [hbehind] at heq
    cases heq
    split
    · split
      · rename_i hkey
        rw [hkey]
      · rename_i hkey
        rw [hkey]
    · rfl

theorem skipFrom_scalar {c : Char} (hblank : Blank blanks) (hc : startsValue c = true)
    (hopen : Bracket.opening? c = none) (hskip : skipScalar (c :: text) = .ok rest) :
    skipFrom opened true (blanks ++ c :: text) = skipFrom opened false rest := by
  have hstart : skipSpace (blanks ++ c :: text) = c :: text := by
    rw [skipSpace_append hblank, skipSpace_cons (isSpace_eq_false_of_startsValue hc)]
  rw [skipFrom_start hstart, hopen]
  simp only [hskip]

theorem skipFrom_empty {c : Char} {inside : List Char} (hblank : Blank blanks)
    (hspace : isSpace c = false) (hopen : Bracket.opening? c = some bracket)
    (hinside : skipSpace inside = bracket.closing :: rest) :
    skipFrom opened true (blanks ++ c :: inside) = skipFrom opened false rest := by
  have hstart : skipSpace (blanks ++ c :: inside) = c :: inside := by
    rw [skipSpace_append hblank, skipSpace_cons hspace]
  rw [skipFrom_start hstart, hopen]
  simp only [hinside, if_true]

theorem skipFrom_open {c d : Char} {inside : List Char} (hblank : Blank blanks)
    (hspace : isSpace c = false) (hopen : Bracket.opening? c = some bracket)
    (hinside : skipSpace inside = d :: rest) (hd : d ≠ bracket.closing)
    (hkey : skipKey bracket (d :: rest) = .ok start) :
    skipFrom opened true (blanks ++ c :: inside) = skipFrom (bracket :: opened) true start := by
  have hstart : skipSpace (blanks ++ c :: inside) = c :: inside := by
    rw [skipSpace_append hblank, skipSpace_cons hspace]
  rw [skipFrom_start hstart, hopen]
  simp only [hinside, if_neg hd, hkey]

theorem skipFrom_comma (hbehind : skipSpace text = ',' :: rest)
    (hkey : skipKey bracket rest = .ok start) :
    skipFrom (bracket :: opened) false text = skipFrom (bracket :: opened) true start := by
  rw [skipFrom_behind hbehind, if_pos rfl, hkey]

theorem skipFrom_close (hbehind : skipSpace text = bracket.closing :: rest) :
    skipFrom (bracket :: opened) false text = skipFrom opened false rest := by
  have hcomma : bracket.closing ≠ ',' := by cases bracket <;> decide
  rw [skipFrom_behind hbehind, if_neg hcomma, if_pos rfl]

theorem skipKey_object {name before : List Char} (hblank : Blank blanks) (hname : WellQuoted name)
    (hbefore : Blank before) (rest : List Char) :
    skipKey .object (blanks ++ '"' :: (name ++ (before ++ ':' :: rest))) = .ok rest := by
  rw [skipKey, skipSpace_append hblank, skipSpace_cons (by rfl)]
  simp only [skipText_wellQuoted hname]
  exact colon_append hbefore rest

end brackets

/-! ### Whole values -/

/-- Passing over a value takes its text off, with the blanks in front. -/
def PassedOver (value : List Char) : Prop :=
  ∀ opened blanks rest, Blank blanks → EndsNumber rest →
    skipFrom opened true (blanks ++ (value ++ rest)) = skipFrom opened false rest

/-- By induction over the items behind the first one; their bracket stays open below them. -/
theorem skipFrom_items {items : List (List Char)} {text : List Char}
    (hitems : ∀ item ∈ items, PassedOver item) (h : ItemsText false items text)
    (opened : List Bracket) (rest : List Char) :
    skipFrom (.list :: opened) false (text ++ rest) = skipFrom opened false rest := by
  induction items generalizing text with
  | nil =>
    cases h with
    | close hblank =>
      apply skipFrom_close
      rw [List.append_assoc, skipSpace_append hblank]
      rfl
  | cons item items ih =>
    cases h with
    | @item _ _ _ lead behind hlead hbehind =>
      cases hlead with
      | @next before after hbefore hafter =>
        have hcomma : skipSpace (before ++ ',' :: after ++ (item ++ behind) ++ rest) =
            ',' :: (after ++ (item ++ (behind ++ rest))) := by
          simp only [List.append_assoc, List.cons_append]
          rw [skipSpace_append hbefore, skipSpace_cons (by rfl)]
        rw [skipFrom_comma hcomma rfl,
          hitems item List.mem_cons_self _ after _ hafter (hbehind.endsNumber rest)]
        exact ih (fun v hv => hitems v (List.mem_cons_of_mem item hv)) hbehind

/-- The same for members, whose names and colons are passed over together. -/
theorem skipFrom_members {members : List (List Char × List Char)} {text : List Char}
    (hnames : ∀ m ∈ members, WellQuoted m.1) (hvalues : ∀ m ∈ members, PassedOver m.2)
    (h : MembersText false members text) (opened : List Bracket) (rest : List Char) :
    skipFrom (.object :: opened) false (text ++ rest) = skipFrom opened false rest := by
  induction members generalizing text with
  | nil =>
    cases h with
    | close hblank =>
      apply skipFrom_close
      rw [List.append_assoc, skipSpace_append hblank]
      rfl
  | cons m members ih =>
    cases h with
    | @member _ name value _ lead before after behind hlead hbefore hafter hbehind =>
      cases hlead with
      | @next front back hfront hback =>
        have hname := hnames _ List.mem_cons_self
        have hcomma : skipSpace (front ++ ',' :: back ++
              '"' :: (name ++ (before ++ ':' :: (after ++ (value ++ behind)))) ++ rest) =
            ',' :: (back ++ '"' :: (name ++ (before ++ ':' ::
              (after ++ (value ++ (behind ++ rest)))))) := by
          simp only [List.append_assoc, List.cons_append]
          rw [skipSpace_append hfront, skipSpace_cons (by rfl)]
        rw [skipFrom_comma hcomma (skipKey_object hback hname hbefore _),
          hvalues _ List.mem_cons_self _ after _ hafter (hbehind.endsNumber rest)]
        exact ih (fun n hn => hnames n (List.mem_cons_of_mem _ hn))
          (fun n hn => hvalues n (List.mem_cons_of_mem _ hn)) hbehind

theorem passedOver_array {items : List (List Char)} {text : List Char}
    (hitems : ∀ item ∈ items, WellFormed item ∧ PassedOver item) (h : ItemsText true items text) :
    PassedOver ('[' :: text) := by
  intro opened blanks rest hblank hends
  rw [List.cons_append]
  cases h with
  | close hinside =>
    apply skipFrom_empty hblank rfl rfl
    rw [List.append_assoc, skipSpace_append hinside]
    rfl
  | @item _ item items lead behind hlead hbehind =>
    cases hlead with
    | first hinside =>
      obtain ⟨hwell, hpassed⟩ := hitems item List.mem_cons_self
      obtain ⟨d, more, rfl, hstart⟩ := hwell.exists_start
      have hopen : skipSpace (lead ++ (d :: more ++ behind) ++ rest) =
          d :: (more ++ (behind ++ rest)) := by
        simp only [List.append_assoc, List.cons_append]
        rw [skipSpace_append hinside, skipSpace_cons (isSpace_eq_false_of_startsValue hstart)]
      have hd : d ≠ Bracket.list.closing := by
        rintro rfl
        cases hstart
      have hfirst := hpassed (.list :: opened) [] (behind ++ rest) blank_nil (hbehind.endsNumber rest)
      rw [List.nil_append, List.cons_append] at hfirst
      rw [skipFrom_open hblank rfl rfl hopen hd rfl, hfirst]
      exact skipFrom_items (fun v hv => (hitems v (List.mem_cons_of_mem _ hv)).2) hbehind opened rest

theorem passedOver_object {members : List (List Char × List Char)} {text : List Char}
    (hnames : ∀ m ∈ members, WellQuoted m.1) (hvalues : ∀ m ∈ members, PassedOver m.2)
    (h : MembersText true members text) : PassedOver ('{' :: text) := by
  intro opened blanks rest hblank hends
  rw [List.cons_append]
  cases h with
  | close hinside =>
    apply skipFrom_empty hblank rfl rfl
    rw [List.append_assoc, skipSpace_append hinside]
    rfl
  | @member _ name value members lead before after behind hlead hbefore hafter hbehind =>
    cases hlead with
    | first hinside =>
      have hname := hnames _ List.mem_cons_self
      have hopen : skipSpace (lead ++
            '"' :: (name ++ (before ++ ':' :: (after ++ (value ++ behind)))) ++ rest) =
          '"' :: (name ++ (before ++ ':' :: (after ++ (value ++ (behind ++ rest))))) := by
        simp only [List.append_assoc, List.cons_append]
        rw [skipSpace_append hinside, skipSpace_cons (by rfl)]
      have hskip := skipKey_object blank_nil hname hbefore (after ++ (value ++ (behind ++ rest)))
      rw [List.nil_append] at hskip
      rw [skipFrom_open hblank rfl rfl hopen (by decide) hskip,
        hvalues _ List.mem_cons_self _ after _ hafter (hbehind.endsNumber rest)]
      exact skipFrom_members (fun n hn => hnames n (List.mem_cons_of_mem _ hn))
        (fun n hn => hvalues n (List.mem_cons_of_mem _ hn)) hbehind opened rest

theorem passedOver_scalar {text : List Char} (h : WellFormedScalar text) : PassedOver text := by
  intro opened blanks rest hblank hends
  obtain ⟨c, more, rfl, hstart, hlist, hobject⟩ := h.exists_start
  refine skipFrom_scalar hblank hstart ?_ (skipScalar_wellFormed h hends)
  unfold Bracket.opening?
  split
  · exact absurd rfl hlist
  · exact absurd rfl hobject
  · rfl

/-- By induction on how the value is written: the brackets of its parts close before its own. -/
theorem WellFormed.passedOver {text : List Char} (h : WellFormed text) : PassedOver text := by
  induction h with
  | scalar hscalar => exact passedOver_scalar hscalar
  | array htext hitems ih =>
    exact passedOver_array (fun item hitem => ⟨hitems item hitem, ih item hitem⟩) htext
  | object htext hnames _ ih => exact passedOver_object hnames ih htext

theorem skip_run_wellFormed {value : List Char} (h : WellFormed value) {blanks rest : List Char}
    (hblank : Blank blanks) (hends : EndsNumber rest) :
    Reader.skip.run (blanks ++ (value ++ rest)) = .ok ((), rest) := by
  have hdone : skipFrom [] false rest = .ok rest := by
    rw [skipFrom, if_neg (by simp)]
  simp only [Reader.skip, h.passedOver [] blanks rest hblank hends, hdone]

/-! ### What is spelled is well formed -/

theorem wellFormedScalar_of_scalar {text : List Char} {v : Value}
    (h : scalar text = .ok (v, [])) : WellFormedScalar text := by
  obtain ⟨taken, htaken, rfl⟩ := exists_of_skipScalar (skipScalar_of_scalar h)
  rwa [List.append_nil]

/-- What spells a tree is JSON, so what is known of well-formed texts holds of it. -/
theorem Spells.wellFormed {tree : Value} {text : List Char} (h : Spells tree text) :
    WellFormed text := by
  induction tree using Value.induction generalizing text with
  | array trees ih =>
    obtain ⟨body, rfl, hbody⟩ := h.exists_items
    obtain ⟨items, hitems, hspells⟩ := hbody.exists_texts
    refine .array hitems fun item hitem => ?_
    obtain ⟨tree, htree, hspelled⟩ := exists_left_of_forall₂ hspells hitem
    exact ih tree htree hspelled
  | object trees ih =>
    obtain ⟨body, rfl, hbody⟩ := h.exists_members
    obtain ⟨members, hmembers, hspells⟩ := hbody.exists_texts
    refine .object hmembers (fun m hm => ?_) fun m hm => ?_
    · obtain ⟨tree, _, hspelled⟩ := exists_left_of_forall₂ hspells hm
      exact wellQuoted_of_textBody hspelled.1
    · obtain ⟨tree, htree, hspelled⟩ := exists_left_of_forall₂ hspells hm
      exact ih tree htree hspelled.2
  | _ =>
    cases h with
    | scalar hscalar => exact .scalar (wellFormedScalar_of_scalar hscalar)

end ClusterAdvisor.Json
