/-!
Blank characters (White_Space) and the trimming of texts.
-/

namespace ClusterAdvisor.Text

/-- White space: the ASCII controls from tab to carriage return, the next-line control, and every
space, line and paragraph separator. Zero-width characters are not blank. -/
def isBlank (c : Char) : Bool :=
  let n := c.toNat
  (0x09 ≤ n && n ≤ 0x0D) || n == 0x20 || n == 0x85 || n == 0xA0 || n == 0x1680 ||
    (0x2000 ≤ n && n ≤ 0x200A) || n == 0x2028 || n == 0x2029 || n == 0x202F || n == 0x205F ||
    n == 0x3000

/-- Drops what satisfies `p` from both ends. -/
def strip (p : Char → Bool) (cs : List Char) : List Char :=
  ((cs.dropWhile p).reverse.dropWhile p).reverse

def trim (s : String) : String :=
  String.ofList (strip isBlank s.toList)

section strip

variable {p : Char → Bool} {text added : List Char}

theorem strip_append_front (h : ∀ c ∈ added, p c = true) :
    strip p (added ++ text) = strip p text := by
  rw [strip, List.dropWhile_append_of_pos h, strip]

theorem strip_append_back (h : ∀ c ∈ added, p c = true) :
    strip p (text ++ added) = strip p text := by
  have hdropped : added.dropWhile p = [] := by
    rw [← List.append_nil added, List.dropWhile_append_of_pos h, List.dropWhile_nil]
  have hback : ∀ c ∈ added.reverse, p c = true := fun c hc => h c (List.mem_reverse.mp hc)
  rw [strip, strip, List.dropWhile_append]
  split
  · rename_i hnothing
    rw [hdropped, List.isEmpty_iff.mp hnothing]
  · rw [List.reverse_append, List.dropWhile_append_of_pos hback]

theorem strip_eq_self (h : ∀ c ∈ text, p c = false) : strip p text = text := by
  have hkept (cs : List Char) (hcs : ∀ c ∈ cs, p c = false) : cs.dropWhile p = cs := by
    cases cs with
    | nil => rfl
    | cons c rest => exact List.dropWhile_cons_of_neg (by simp [hcs c List.mem_cons_self])
  rw [strip, hkept text h, hkept text.reverse fun c hc => h c (List.mem_reverse.mp hc),
    List.reverse_reverse]

end strip

end ClusterAdvisor.Text
