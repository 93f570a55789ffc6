import ClusterAdvisor.Rules.Classpath
import Mathlib.Data.List.Infix

/-!
Merging class paths. A merge only ever appends, so whatever occurred before the merge still occurs
behind it; it appends something exactly when a path is missing, and then no path is missing any
more. This holds for any two class paths, also where a path is a part of another one.

The merge searches one growing text, with the colons that it has put there itself. No path holds a
colon, so a path that is found never reaches from one part of that text into the next, and the
search comes to the same as a search of every part for itself.
-/

namespace ClusterAdvisor.Rules

open Text

/-- Stated for the first piece alone, as the induction over the text has to know where it starts. -/
theorem prefix_of_pieces_eq_cons {separator : Char} {text piece : List Char}
    {others : List (List Char)} (hpieces : pieces separator text = piece :: others) :
    piece <+: text := by
  induction text generalizing piece others with
  | nil =>
      simp only [pieces, List.cons.injEq] at hpieces
      exact hpieces.1 ▸ List.prefix_refl []
  | cons c rest ih =>
      by_cases hseparator : c = separator
      · simp only [pieces, hseparator, if_true, List.cons.injEq] at hpieces
        rw [← hpieces.1]
        exact List.nil_prefix
      · obtain ⟨first, more, hrest⟩ := List.exists_cons_of_ne_nil (pieces_ne_nil separator rest)
        simp only [pieces, hseparator, if_false, hrest, List.cons.injEq] at hpieces
        rw [← hpieces.1]
        exact (List.prefix_cons_inj c).mpr (ih hrest)

/-- A class path holds each of its own paths as a block. -/
theorem infix_of_mem_pieces {separator : Char} {text piece : List Char}
    (hmember : piece ∈ pieces separator text) : piece <:+: text := by
  induction text generalizing piece with
  | nil =>
      simp only [pieces, List.mem_singleton] at hmember
      exact hmember ▸ List.infix_refl []
  | cons c rest ih =>
      by_cases hseparator : c = separator
      · simp only [pieces, hseparator, if_true, List.mem_cons] at hmember
        rcases hmember with rfl | hrest
        · exact List.nil_infix
        · exact List.infix_cons (ih hrest)
      · obtain ⟨first, more, hrest⟩ := List.exists_cons_of_ne_nil (pieces_ne_nil separator rest)
        simp only [pieces, hseparator, if_false, hrest, List.mem_cons] at hmember
        rcases hmember with rfl | hmore
        · exact ((List.prefix_cons_inj c).mpr (prefix_of_pieces_eq_cons hrest)).isInfix
        · exact List.infix_cons (ih (by rw [hrest]; exact List.mem_cons_of_mem first hmore))

theorem occursIn_self (path : List Char) : occursIn path path = true :=
  occursIn_iff.mpr (List.infix_refl path)

/-- What occurs in the front of a class path occurs in the class path. -/
theorem occursIn_of_prefix {path shorter longer : List Char}
    (hfront : shorter <+: longer) (hoccurs : occursIn path shorter = true) :
    occursIn path longer = true :=
  occursIn_iff.mpr ((occursIn_iff.mp hoccurs).trans hfront.isInfix)

theorem prefix_appendPath (classpath path : List Char) :
    classpath <+: appendPath classpath path := by
  unfold appendPath
  split
  · rename_i hempty
    rw [List.isEmpty_iff.mp hempty]
    exact List.nil_prefix
  · exact List.prefix_append classpath (':' :: path)

theorem occursIn_appendPath (classpath path : List Char) :
    occursIn path (appendPath classpath path) = true := by
  unfold appendPath
  split
  · exact occursIn_self path
  · apply occursIn_iff.mpr
    exact ⟨classpath ++ [':'], [], by simp⟩

/-- A step only appends, whether it takes its path or not. -/
theorem prefix_addPath (classpath path : List Char) : classpath <+: addPath classpath path := by
  unfold addPath
  split
  · exact List.prefix_refl classpath
  · exact prefix_appendPath classpath path

/-- Behind a step of the merge the path of that step occurs. -/
theorem occursIn_addPath (classpath path : List Char) :
    occursIn path (addPath classpath path) = true := by
  unfold addPath
  split
  · rename_i hoccurs
    exact hoccurs
  · exact occursIn_appendPath classpath path

/-- A step leaves the class path alone exactly when its path occurs already. -/
theorem addPath_eq_self_iff (classpath path : List Char) :
    addPath classpath path = classpath ↔ occursIn path classpath = true := by
  constructor
  · intro hsame
    rw [← hsame]
    exact occursIn_addPath classpath path
  · intro hoccurs
    simp [addPath, hoccurs]

/-- A merge only appends, so what occurs behind one of its steps still occurs at the end. -/
theorem prefix_foldl_addPath (added : List (List Char)) (classpath : List Char) :
    classpath <+: added.foldl addPath classpath := by
  induction added generalizing classpath with
  | nil => exact List.prefix_refl classpath
  | cons path rest ih => exact (prefix_addPath classpath path).trans (ih (addPath classpath path))

/-- Behind the whole merge every path occurs: its own step put it there, and the later steps only
append. -/
theorem occursIn_foldl_addPath {added : List (List Char)} {path : List Char}
    (hmember : path ∈ added) (classpath : List Char) :
    occursIn path (added.foldl addPath classpath) = true := by
  induction added generalizing classpath with
  | nil => simp at hmember
  | cons first rest ih =>
    rcases List.mem_cons.mp hmember with rfl | hrest
    · exact occursIn_of_prefix (prefix_foldl_addPath rest (addPath classpath path))
        (occursIn_addPath classpath path)
    · exact ih hrest (addPath classpath first)

/-- As steps only append, none of them can undo what an earlier one added. -/
theorem foldl_addPath_eq_self_iff (added : List (List Char)) (classpath : List Char) :
    added.foldl addPath classpath = classpath ↔
      ∀ path ∈ added, occursIn path classpath = true := by
  constructor
  · intro hsame path hmember
    rw [← hsame]
    exact occursIn_foldl_addPath hmember classpath
  · intro hall
    induction added with
    | nil => rfl
    | cons path rest ih =>
      have hstep : addPath classpath path = classpath :=
        (addPath_eq_self_iff classpath path).mpr (hall path List.mem_cons_self)
      rw [List.foldl_cons, hstep]
      exact ih fun other hother => hall other (List.mem_cons_of_mem path hother)

theorem missingPaths_eq_nil_iff (desired current : String) :
    missingPaths desired current = [] ↔
      ∀ path ∈ paths desired.toList, occursIn path current.toList = true := by
  simp [missingPaths, List.filter_eq_nil_iff]

/-- A class path lacks none of its own paths. -/
theorem missingPaths_self (classpath : String) : missingPaths classpath classpath = [] := by
  apply (missingPaths_eq_nil_iff classpath classpath).mpr
  intro path hmember
  exact occursIn_iff.mpr (infix_of_mem_pieces (List.mem_filter.mp hmember).1)

/-- The merge appends something exactly when a path is missing. Looking for the paths in the growing
class path and looking for them in the one at the start come to the same. -/
theorem mergeClasspath_eq_current_iff (current desired : String) :
    mergeClasspath current desired = current ↔ missingPaths desired current = [] := by
  rw [missingPaths_eq_nil_iff, ← foldl_addPath_eq_self_iff]
  constructor
  · intro hsame
    simpa [mergeClasspath] using congrArg String.toList hsame
  · intro hsame
    rw [mergeClasspath, hsame, String.ofList_toList]

/-- Behind a merge no path is missing. -/
theorem missingPaths_of_merged (current desired : String) :
    missingPaths desired (mergeClasspath current desired) = [] := by
  apply (missingPaths_eq_nil_iff _ _).mpr
  intro path hmember
  rw [mergeClasspath, String.toList_ofList]
  exact occursIn_foldl_addPath hmember current.toList

/-! ### What a merge appends -/

section taken

variable {current path : List Char} {taken added : List (List Char)}

/-- One step of a scan over paths: a path is taken unless it occurs in the class path or in a path
taken before. -/
def takePath (current : List Char) (taken : List (List Char)) (path : List Char) :
    List (List Char) :=
  if path <:+: current ∨ ∃ earlier ∈ taken, path <:+: earlier then taken else taken ++ [path]

/-- The paths of `desired` that a scan takes beside `current`, in their order. -/
def takenPaths (current desired : String) : List String :=
  ((paths desired.toList).foldl (takePath current.toList) []).map String.ofList

/-- The parts of a class path that was put together: the one at the start, if it is not empty, and
the paths that were taken. -/
def mergedParts (current : List Char) (taken : List (List Char)) : List (List Char) :=
  (if current.isEmpty then [] else [current]) ++ taken

def joinParts (parts : List (List Char)) : List Char := [':'].intercalate parts

theorem joinParts_cons {parts : List (List Char)} (part : List Char) (h : parts ≠ []) :
    joinParts (part :: parts) = part ++ ':' :: joinParts parts := by
  simp [joinParts, List.intercalate_cons_of_ne_nil h]

/-- What holds no colon occurs in a joined class path only where it occurs in one of the parts. -/
theorem infix_joinParts_iff (hne : path ≠ []) (hcolon : ':' ∉ path) (parts : List (List Char)) :
    path <:+: joinParts parts ↔ ∃ part ∈ parts, path <:+: part := by
  induction parts with
  | nil => simp [joinParts, hne]
  | cons part rest ih =>
    by_cases hrest : rest = []
    · simp [hrest, joinParts]
    · rw [joinParts_cons part hrest, infix_append_cons_iff hcolon, ih]
      simp

/-- No colon is put in front of the first part, and one is put in front of each later one. -/
theorem joinParts_eq_nil_iff {parts : List (List Char)} (hparts : ∀ part ∈ parts, part ≠ []) :
    joinParts parts = [] ↔ parts = [] := by
  cases parts with
  | nil => simp [joinParts]
  | cons part rest =>
    have hpart : part ≠ [] := hparts part List.mem_cons_self
    by_cases hrest : rest = []
    · simp [hrest, joinParts, hpart]
    · simp [joinParts_cons part hrest]

theorem joinParts_concat {parts : List (List Char)} (h : parts ≠ []) (last : List Char) :
    joinParts (parts ++ [last]) = joinParts parts ++ ':' :: last := by
  induction parts with
  | nil => exact absurd rfl h
  | cons part rest ih =>
    by_cases hrest : rest = []
    · simp [hrest, joinParts]
    · rw [List.cons_append, joinParts_cons part (by simp), joinParts_cons part hrest, ih hrest]
      simp only [List.append_assoc, List.cons_append]

/-- The colon that is put before a path is the one of the join, as only the join of no parts at all
is empty. -/
theorem appendPath_joinParts {parts : List (List Char)} (hparts : ∀ part ∈ parts, part ≠ [])
    (path : List Char) : appendPath (joinParts parts) path = joinParts (parts ++ [path]) := by
  by_cases hnone : parts = []
  · simp [hnone, joinParts, appendPath]
  · have hfull : joinParts parts ≠ [] := mt (joinParts_eq_nil_iff hparts).mp hnone
    rw [joinParts_concat hnone, appendPath, if_neg (by simpa using hfull)]

theorem mergedParts_concat (current : List Char) (taken : List (List Char)) (path : List Char) :
    mergedParts current (taken ++ [path]) = mergedParts current taken ++ [path] :=
  (List.append_assoc _ taken [path]).symm

theorem joinParts_mergedParts_nil (current : List Char) :
    joinParts (mergedParts current []) = current := by
  cases current with
  | nil => simp [mergedParts, joinParts]
  | cons c rest => simp [mergedParts, joinParts]

theorem ne_nil_of_mem_mergedParts (htaken : ∀ earlier ∈ taken, earlier ≠ []) :
    ∀ part ∈ mergedParts current taken, part ≠ [] := by
  intro part hpart
  rcases List.mem_append.mp hpart with hstart | hearlier
  · cases current with
    | nil => cases hstart
    | cons c rest =>
      rw [List.mem_singleton.mp hstart]
      exact List.cons_ne_nil c rest
  · exact htaken part hearlier

/-- Searching the parts is searching the class path at the start and the paths taken so far. -/
theorem infix_mergedParts_iff (hne : path ≠ []) (current : List Char)
    (taken : List (List Char)) :
    (∃ part ∈ mergedParts current taken, path <:+: part) ↔
      path <:+: current ∨ ∃ earlier ∈ taken, path <:+: earlier := by
  cases current with
  | nil => simp [mergedParts, hne]
  | cons c rest => simp [mergedParts]

/-- A step of the merge, which searches the class path as it has grown by then, appends what a step
of the scan takes, which searches the parts one by one. -/
theorem addPath_joinParts (hne : path ≠ []) (hcolon : ':' ∉ path)
    (htaken : ∀ earlier ∈ taken, earlier ≠ []) :
    addPath (joinParts (mergedParts current taken)) path =
      joinParts (mergedParts current (takePath current taken path)) := by
  have hoccurs : occursIn path (joinParts (mergedParts current taken)) = true ↔
      path <:+: current ∨ ∃ earlier ∈ taken, path <:+: earlier := by
    rw [occursIn_iff, infix_joinParts_iff hne hcolon, infix_mergedParts_iff hne]
  by_cases htook : path <:+: current ∨ ∃ earlier ∈ taken, path <:+: earlier
  · rw [addPath, if_pos (hoccurs.mpr htook), takePath, if_pos htook]
  · rw [addPath, if_neg (mt hoccurs.mp htook), takePath, if_neg htook, mergedParts_concat]
    exact appendPath_joinParts (ne_nil_of_mem_mergedParts htaken) path

/-- The scan keeps what `addPath_joinParts` asks of the paths that were taken. -/
theorem ne_nil_of_mem_takePath (hne : path ≠ []) (htaken : ∀ earlier ∈ taken, earlier ≠ []) :
    ∀ earlier ∈ takePath current taken path, earlier ≠ [] := by
  unfold takePath
  split
  · exact htaken
  · intro earlier hearlier
    rcases List.mem_append.mp hearlier with hbefore | hlast
    · exact htaken earlier hbefore
    · rw [List.mem_singleton.mp hlast]
      exact hne

/-- The merge and the scan run side by side: at every step the class path is the joined parts. -/
theorem foldl_addPath_joinParts (hadded : ∀ path ∈ added, path ≠ [] ∧ ':' ∉ path)
    (htaken : ∀ earlier ∈ taken, earlier ≠ []) :
    added.foldl addPath (joinParts (mergedParts current taken)) =
      joinParts (mergedParts current (added.foldl (takePath current) taken)) := by
  induction added generalizing taken with
  | nil => rfl
  | cons path rest ih =>
    obtain ⟨hne, hcolon⟩ := hadded path List.mem_cons_self
    rw [List.foldl_cons, List.foldl_cons, addPath_joinParts hne hcolon htaken]
    exact ih (fun other hother => hadded other (List.mem_cons_of_mem path hother))
      (ne_nil_of_mem_takePath hne htaken)

/-- A scan takes, in order, some of the paths that do not occur in the class path. -/
theorem foldl_takePath_sublist (current : List Char) (added taken : List (List Char)) :
    (added.foldl (takePath current) taken).Sublist
      (taken ++ added.filter fun path => !occursIn path current) := by
  induction added generalizing taken with
  | nil => simp
  | cons path rest ih =>
    rw [List.foldl_cons]
    refine (ih (takePath current taken path)).trans ?_
    by_cases hoccurs : path <:+: current
    · have hdropped : occursIn path current = true := occursIn_iff.mpr hoccurs
      simp [takePath, hoccurs, hdropped]
    · have hkept : occursIn path current = false := by
        simpa using mt occursIn_iff.mp hoccurs
      rw [List.filter_cons_of_pos (by simp [hkept])]
      by_cases hearlier : ∃ earlier ∈ taken, path <:+: earlier
      · rw [takePath, if_pos (.inr hearlier)]
        exact (List.Sublist.refl taken).append (List.sublist_cons_self path _)
      · simp [takePath, hoccurs, hearlier]

end taken

/-- What makes the paths of a class path fit for a search part by part. -/
theorem paths_ne_nil_and_no_colon {classpath path : List Char} (h : path ∈ paths classpath) :
    path ≠ [] ∧ ':' ∉ path := by
  obtain ⟨hpiece, hfull⟩ := List.mem_filter.mp h
  exact ⟨by simpa using hfull, not_mem_of_mem_pieces hpiece⟩

/-- A merge is the class path at the start, if it is not empty, and behind it the paths that a scan
takes, with colons between all of them. These are some of the missing paths, in order; behind the
merge none is missing, so that it changes nothing exactly if none was, and a second one never does. -/
theorem merge_appends_taken_paths (current desired : String) :
    mergeClasspath current desired =
        ":".intercalate ((if current = "" then [] else [current]) ++ takenPaths current desired) ∧
      (takenPaths current desired).Sublist (missingPaths desired current) ∧
      missingPaths desired (mergeClasspath current desired) = [] ∧
      (mergeClasspath current desired = current ↔ missingPaths desired current = []) ∧
      mergeClasspath (mergeClasspath current desired) desired = mergeClasspath current desired := by
  refine ⟨?_, ?_, missingPaths_of_merged current desired,
    mergeClasspath_eq_current_iff current desired, ?_⟩
  · have hmerged : (paths desired.toList).foldl addPath (joinParts (mergedParts current.toList [])) =
        joinParts (mergedParts current.toList
          ((paths desired.toList).foldl (takePath current.toList) [])) :=
      foldl_addPath_joinParts (fun _ hpath => paths_ne_nil_and_no_colon hpath) (by simp)
    rw [joinParts_mergedParts_nil] at hmerged
    have hparts : ((if current = "" then [] else [current]) ++ takenPaths current desired).map
        String.toList = mergedParts current.toList
          ((paths desired.toList).foldl (takePath current.toList) []) := by
      by_cases hempty : current = ""
      · simp [mergedParts, takenPaths, hempty]
      · simp [mergedParts, takenPaths, hempty]
    rw [mergeClasspath, hmerged, ← String.toList_inj, String.toList_ofList,
      String.toList_intercalate, hparts]
    rfl
  · exact (foldl_takePath_sublist current.toList (paths desired.toList) []).map String.ofList
  · exact (mergeClasspath_eq_current_iff _ desired).mpr (missingPaths_of_merged current desired)

/-- A path that lies in one before it, or in the class path, is not taken; the longer one of two is
taken also where the shorter one was. -/
example : takenPaths "/opt/lib" "/etc/conf/a:/etc/conf::lib:/srv:/srv/b:/srv" =
    ["/etc/conf/a", "/srv", "/srv/b"] := by decide +kernel

/-- The paths of two class paths with a colon between them are the paths of both, also where one of
the two is empty or has colons at its ends. -/
theorem paths_append_colon (front back : List Char) :
    paths (front ++ ':' :: back) = paths front ++ paths back := by
  simp only [paths, pieces_append_cons, List.filter_append]

/-- Merging two desired class paths at once is merging them one after the other, and what is missing
of both is what is missing of each. -/
theorem merge_of_joined_desired (current first second : String) :
    mergeClasspath current (first ++ ":" ++ second) =
        mergeClasspath (mergeClasspath current first) second ∧
      missingPaths (first ++ ":" ++ second) current =
        missingPaths first current ++ missingPaths second current := by
  have hpaths : paths (first ++ ":" ++ second).toList =
      paths first.toList ++ paths second.toList := by
    rw [← paths_append_colon]
    simp
  constructor
  · simp only [mergeClasspath, hpaths, List.foldl_append, String.toList_ofList]
  · simp only [missingPaths, hpaths, List.filter_append, List.map_append]

end ClusterAdvisor.Rules
