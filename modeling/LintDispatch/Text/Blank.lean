import LintDispatch.Text.Utf8

/-!
# White space
The property White_Space of Unicode, cutting it off both ends of a text, and the texts and byte
strings that hold nothing else. A path, a launcher or a format made of white space alone counts as
absent.
-/

namespace LintDispatch.Text

/-- The characters of White_Space. -/
def isWhite (c : Char) : Bool :=
  let n := c.toNat
  (0x9 ≤ n && n ≤ 0xD) || n == 0x20 || n == 0x85 || n == 0xA0 || n == 0x1680 ||
    (0x2000 ≤ n && n ≤ 0x200A) || n == 0x2028 || n == 0x2029 || n == 0x202F || n == 0x205F ||
    n == 0x3000

/-- The characters without the white space at either end. -/
def trimChars (cs : List Char) : List Char :=
  ((cs.dropWhile isWhite).reverse.dropWhile isWhite).reverse

/-- The text without the white space at either end. -/
def trim (s : String) : String := String.ofList (trimChars s.toList)

/-- The text holds white space alone. -/
def isBlank (s : String) : Bool := s.toList.all isWhite

/-- Cutting white space leaves nothing exactly if there was nothing else. -/
theorem trimChars_eq_nil_iff (cs : List Char) : trimChars cs = [] ↔ cs.all isWhite := by
  have h : ∀ l : List Char, l.dropWhile isWhite = [] ↔ l.all isWhite := by
    intro l
    induction l with
    | nil => simp
    | cons c l ih => by_cases hc : isWhite c <;> simp_all [List.dropWhile]
  unfold trimChars
  rw [List.reverse_eq_nil_iff, h, List.all_reverse, ← h]
  constructor
  · intro hd
    by_cases hn : cs.dropWhile isWhite = []
    · exact (h cs).1 hn
    · obtain ⟨c, l, hcl⟩ := List.exists_cons_of_ne_nil hn
      have hc : isWhite c = false := by
        have := List.head_dropWhile_not isWhite hn
        simpa [hcl] using this
      rw [hcl] at hd
      simp [List.dropWhile, hc] at hd
  · intro hall
    rw [(h cs).2 hall]
    rfl

end LintDispatch.Text

namespace LintDispatch.Bytes

/-- Read as text, the bytes hold white space alone. -/
def isBlank (bs : Bytes) : Bool := Text.isBlank (Utf8.lossy bs)

end LintDispatch.Bytes
