namespace FilterQuery.Text

/-- A character is blank if it has the Unicode property `White_Space`. -/
def isBlank (c : Char) : Bool :=
  let n := c.toNat
  (9 ≤ n && n ≤ 13) || n == 0x20 || n == 0x85 || n == 0xA0 || n == 0x1680 ||
    (0x2000 ≤ n && n ≤ 0x200A) || n == 0x2028 || n == 0x2029 || n == 0x202F || n == 0x205F ||
    n == 0x3000

def AllBlank (text : List Char) : Prop := ∀ c ∈ text, isBlank c = true

instance (text : List Char) : Decidable (AllBlank text) :=
  inferInstanceAs (Decidable (∀ c ∈ text, isBlank c = true))

def trimStart (text : List Char) : List Char := text.dropWhile isBlank

def trimEnd (text : List Char) : List Char := (trimStart text.reverse).reverse

/-- The text without the blank characters at its two ends. -/
def trim (text : List Char) : List Char := trimEnd (trimStart text)

theorem trimStart_append_of_allBlank {blank : List Char} (h : AllBlank blank) (text : List Char) :
    trimStart (blank ++ text) = trimStart text := by
  induction blank with
  | nil => rfl
  | cons c rest ih =>
      have head : isBlank c = true := h c (List.mem_cons_self ..)
      have tail : AllBlank rest := fun d hd => h d (List.mem_cons_of_mem _ hd)
      simpa [trimStart, List.dropWhile_cons, head] using ih tail

theorem allBlank_takeWhile (text : List Char) : AllBlank (text.takeWhile isBlank) := by
  induction text with
  | nil => intro c hc; cases hc
  | cons d rest ih =>
      intro c hc
      by_cases head : isBlank d = true
      · rw [List.takeWhile_cons_of_pos head] at hc
        cases hc with
        | head => exact head
        | tail _ hc => exact ih c hc
      · rw [List.takeWhile_cons_of_neg head] at hc
        cases hc

/-- A text is its leading blank characters followed by what trimming leaves. -/
theorem exists_blank_append_trimStart (text : List Char) :
    ∃ blank, AllBlank blank ∧ text = blank ++ trimStart text :=
  ⟨text.takeWhile isBlank, allBlank_takeWhile text, (List.takeWhile_append_dropWhile ..).symm⟩

/-- What is left after trimming starts with no blank character. -/
theorem trimStart_eq_cons {text rest : List Char} {c : Char} (h : trimStart text = c :: rest) :
    isBlank c = false := by
  induction text with
  | nil => cases h
  | cons d more ih =>
      by_cases head : isBlank d = true
      · exact ih (by simpa [trimStart, List.dropWhile_cons, head] using h)
      · simp only [trimStart, List.dropWhile_cons, head] at h
        cases h
        simpa using head

end FilterQuery.Text
