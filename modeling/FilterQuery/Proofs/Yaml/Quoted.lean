import FilterQuery.Yaml.Quoted
import Mathlib.Data.List.Basic
import Mathlib.Data.Nat.Digits.Lemmas

namespace FilterQuery

namespace Text

/-- So many hexadecimal digits of a number, the least significant ones. -/
def hexDigits : Nat → Nat → List Char
  | 0, _ => []
  | width + 1, n => hexDigits width (n / 16) ++ [Nat.digitChar (n % 16)]

theorem length_hexDigits (width n : Nat) : (hexDigits width n).length = width := by
  induction width generalizing n with
  | zero => rfl
  | succ width ih => rw [hexDigits, List.length_append, ih, List.length_singleton]

theorem hexDigit?_digitChar : ∀ d < 16, hexDigit? (Nat.digitChar d) = some d := by decide

/-- Hexadecimal digits denote the number that they are taken from. -/
theorem valueInBase?_hexDigits {width n : Nat} (small : n < 16 ^ width) :
    valueInBase? 16 (hexDigits width n) = some n := by
  induction width generalizing n with
  | zero =>
      have zero : n = 0 := by simpa using small
      rw [zero]
      rfl
  | succ width ih =>
      have rest : n / 16 < 16 ^ width := by
        rw [pow_succ] at small
        exact Nat.div_lt_of_lt_mul (by omega)
      have last : n % 16 < 16 := Nat.mod_lt n (by decide)
      have value := ih rest
      rw [valueInBase?] at value
      rw [valueInBase?, hexDigits, List.foldl_append, value]
      simp only [List.foldl_cons, List.foldl_nil, hexDigit?_digitChar _ last, Option.bind_eq_bind,
        Option.bind_some, last, if_true, Option.some.injEq]
      omega

end Text

/-- Positions on one line add up. -/
theorem Yaml.Mark.past_past (mark : Mark) (first second : Nat) :
    (mark.past first).past second = mark.past (first + second) := by
  simp only [past, Nat.add_assoc]

namespace Yaml.Quoted

/-- A character between double quotes. Quotes and reverse solidi are escaped, and so is by its number
whatever is no printable character of ASCII. -/
def written (c : Char) : List Char :=
  if c == '\x22' || c == '\x5c' then ['\x5c', c]
  else if 0x20 ≤ c.toNat && c.toNat ≤ 0x7E then [c]
  else '\x5c' :: 'U' :: Text.hexDigits 8 c.toNat

def write (text : List Char) : List Char :=
  '\x22' :: (text.flatMap written ++ ['\x22'])

/-- A written character takes some space. -/
theorem written_ne_nil (c : Char) : written c ≠ [] := by
  unfold written
  split
  · exact List.cons_ne_nil _ _
  · split <;> exact List.cons_ne_nil _ _

theorem length_le_flatMap_written (text : List Char) :
    text.length ≤ (text.flatMap written).length := by
  induction text with
  | nil => exact Nat.le_refl 0
  | cons c rest ih =>
      have first := List.length_pos_iff.mpr (written_ne_nil c)
      rw [List.flatMap_cons, List.length_append, List.length_cons]
      omega

/-- All that is written may stand in a YAML text. -/
theorem isAllowed_of_mem_write {text : List Char} : ∀ c ∈ write text, isAllowed c = true := by
  have digits {width n : Nat} : ∀ c ∈ Text.hexDigits width n, isAllowed c = true := by
    have digit : ∀ d < 16, isAllowed (Nat.digitChar d) = true := by decide
    induction width generalizing n with
    | zero => exact nofun
    | succ width ih =>
        exact List.forall_mem_append.mpr
          ⟨ih, List.forall_mem_singleton.mpr (digit _ (Nat.mod_lt n (by decide)))⟩
  have character (c : Char) : ∀ d ∈ written c, isAllowed d = true := by
    unfold written
    split
    · rename_i special
      simp only [Bool.or_eq_true, beq_iff_eq] at special
      refine List.forall_mem_cons.mpr ⟨rfl, List.forall_mem_singleton.mpr ?_⟩
      rcases special with rfl | rfl <;> rfl
    · split
      · rename_i printable
        simp only [Bool.and_eq_true, decide_eq_true_eq] at printable
        exact List.forall_mem_singleton.mpr (by simp [isAllowed, printable])
      · exact List.forall_mem_cons.mpr ⟨rfl, List.forall_mem_cons.mpr ⟨rfl, digits⟩⟩
  refine List.forall_mem_cons.mpr ⟨rfl, List.forall_mem_append.mpr
    ⟨?_, List.forall_mem_singleton.mpr rfl⟩⟩
  intro c member
  obtain ⟨d, -, inside⟩ := List.mem_flatMap.mp member
  exact character d c inside

/-- A printable character other than the space separates nothing. -/
theorem isSeparator_of_printable {c : Char} (printable : 0x20 ≤ c.toNat ∧ c.toNat ≤ 0x7E)
    (solid : c ≠ ' ') : isSeparator c = false := by
  rw [← Bool.not_eq_true]
  intro separator
  simp only [isSeparator, isGap, isBreak, Bool.or_eq_true, beq_iff_eq] at separator
  rcases separator with (rfl | rfl) | (((rfl | rfl) | rfl) | rfl) | rfl
  · exact solid rfl
  all_goals exact absurd printable (by decide)

/-- The number of a character is no surrogate and not too large. -/
theorem toNat_bounds (c : Char) :
    ¬(0xD800 ≤ c.toNat ∧ c.toNat ≤ 0xDFFF) ∧ c.toNat ≤ 0x10FFFF := by
  have valid := c.valid
  simp only [UInt32.isValidChar, Nat.isValidChar] at valid
  simp only [Char.toNat]
  omega

/-- The digits of a character's number denote the character. -/
theorem numbered?_hexDigits (c : Char) (rest : List Char) :
    numbered? 8 (Text.hexDigits 8 c.toNat ++ rest) = some c := by
  obtain ⟨scalar, bound⟩ := toNat_bounds c
  have length := Text.length_hexDigits 8 c.toNat
  have value : Text.valueInBase? 16 (Text.hexDigits 8 c.toNat) = some c.toNat :=
    Text.valueInBase?_hexDigits (by omega)
  have digits : (Text.hexDigits 8 c.toNat ++ rest).take 8 = Text.hexDigits 8 c.toNat :=
    List.take_left' length
  rw [numbered?, if_neg (by simp [length]), digits, value]
  simp [charOf?, scalar, Nat.not_lt.mpr bound]

/-- A written character is read back in a run, unless it separates runs. -/
theorem readRun_written {c : Char} (solid : c ≠ ' ') (fuel : Nat) (mark : Mark)
    (rest : List Char) :
    readRun .double (fuel + 1) ⟨mark, written c ++ rest⟩ =
      (readRun .double fuel ⟨mark.past (written c).length, rest⟩).map fun run =>
        { run with text := c :: run.text } := by
  unfold written
  split
  · rename_i special
    simp only [Bool.or_eq_true, beq_iff_eq] at special
    rcases special with rfl | rfl <;> rfl
  · rename_i ordinary
    simp only [Bool.or_eq_true, beq_iff_eq, not_or] at ordinary
    split
    · rename_i printable
      simp only [Bool.and_eq_true, decide_eq_true_eq] at printable
      simp [readRun, isSeparator_of_printable printable solid, ordinary, Cursor.past]
    · have width : escapeWidth? 'U' = some 8 := rfl
      have behind : (Text.hexDigits 8 c.toNat ++ rest).drop 8 = rest :=
        List.drop_left' (Text.length_hexDigits 8 c.toNat)
      simp [readRun, isSeparator, isGap, isBreak, width, numbered?_hexDigits, Cursor.past, behind,
        Text.length_hexDigits]

/-- A word is read back in one run up to a separator or the closing quote. -/
theorem readRun_flatMap_written {word : List Char} (solid : ∀ c ∈ word, c ≠ ' ') {fuel : Nat}
    (enough : word.length < fuel) (mark : Mark) {next : Char} (rest : List Char)
    (ends : next = ' ' ∨ next = '\x22') :
    readRun .double fuel ⟨mark, word.flatMap written ++ next :: rest⟩ =
      some ⟨word, false, ⟨mark.past (word.flatMap written).length, next :: rest⟩⟩ := by
  induction word generalizing fuel mark with
  | nil =>
      obtain ⟨left, rfl⟩ := Nat.exists_eq_succ_of_ne_zero (Nat.ne_zero_of_lt enough)
      rcases ends with rfl | rfl <;> rfl
  | cons c word ih =>
      obtain ⟨left, rfl⟩ := Nat.exists_eq_succ_of_ne_zero (Nat.ne_zero_of_lt enough)
      obtain ⟨first, others⟩ := List.forall_mem_cons.mp solid
      rw [List.flatMap_cons, List.append_assoc, readRun_written first,
        ih others (Nat.lt_of_succ_lt_succ enough), Mark.past_past, List.length_append]
      rfl

/-- Spaces within a line are read as they stand. -/
theorem read_replicate (indentation : Int) (count : Nat) (blanks : List Char) (mark : Mark)
    {next : Char} (solid : isSeparator next = false) (rest : List Char) :
    Gap.read indentation ⟨blanks, [], [], false⟩ mark
        (List.replicate count ' ' ++ next :: rest) =
      some (⟨blanks ++ List.replicate count ' ', [], [], false⟩,
        ⟨mark.past count, next :: rest⟩) := by
  induction count generalizing blanks mark with
  | zero =>
      have unbroken : next ≠ '\r' := by
        rintro rfl
        exact absurd solid (by decide)
      simp only [isSeparator, Bool.or_eq_false_iff] at solid
      simp [Gap.read, solid, unbroken, Mark.past]
  | succ count ih =>
      have step : Gap.read indentation ⟨blanks, [], [], false⟩ mark
          (List.replicate (count + 1) ' ' ++ next :: rest) =
        Gap.read indentation ⟨blanks ++ [' '], [], [], false⟩ (mark.past 1)
          (List.replicate count ' ' ++ next :: rest) := rfl
      rw [step, ih, Mark.past_past, Nat.add_comm 1, List.append_assoc, List.replicate_succ,
        List.singleton_append]

/-- A text is a word, the spaces behind it and the rest. -/
theorem exists_word (text : List Char) :
    ∃ word count tail, text = word ++ (List.replicate count ' ' ++ tail) ∧
      (∀ c ∈ word, c ≠ ' ') ∧ (∀ c ∈ tail.head?, c ≠ ' ') ∧ (count = 0 → tail = []) := by
  induction text with
  | nil => exact ⟨[], 0, [], rfl, nofun, nofun, fun _ => rfl⟩
  | cons c rest ih =>
      obtain ⟨word, count, tail, rfl, solid, ends, last⟩ := ih
      by_cases space : c = ' '
      · subst space
        cases word with
        | nil => exact ⟨[], count + 1, tail, rfl, nofun, ends, nofun⟩
        | cons d word =>
            refine ⟨[], 1, d :: word ++ (List.replicate count ' ' ++ tail), rfl, nofun, ?_, nofun⟩
            intro e first
            exact solid e (by simp_all)
      · exact ⟨c :: word, count, tail, rfl, List.forall_mem_cons.mpr ⟨space, solid⟩, ends, last⟩

/-- What is written for a text, up to the closing quote, starts with no separator if the text does
not start with a space. -/
theorem head_flatMap_written {text : List Char} (solid : ∀ c ∈ text.head?, c ≠ ' ')
    (rest : List Char) :
    ∃ next more, text.flatMap written ++ '\x22' :: rest = next :: more ∧
      isSeparator next = false := by
  cases text with
  | nil => exact ⟨_, _, rfl, rfl⟩
  | cons c text =>
      rw [List.flatMap_cons]
      unfold written
      split
      · exact ⟨_, _, rfl, rfl⟩
      · split
        · rename_i printable
          simp only [Bool.and_eq_true, decide_eq_true_eq] at printable
          exact ⟨_, _, rfl, isSeparator_of_printable printable (solid c rfl)⟩
        · exact ⟨_, _, rfl, rfl⟩

theorem flatMap_written_replicate (count : Nat) :
    (List.replicate count ' ').flatMap written = List.replicate count ' ' := by
  induction count with
  | zero => rfl
  | succ count ih =>
      rw [List.replicate_succ, List.flatMap_cons, ih]
      rfl

section Runs

variable {word : List Char} (solid : ∀ c ∈ word, c ≠ ' ') (fuel : Nat) (before : List Char)
  {mark : Mark} (inside : 0 < mark.column)

include solid inside

/-- The last word is read up to the closing quote. -/
theorem readRuns_closing (rest : List Char) :
    readRuns .double (fuel + 1) before ⟨mark, word.flatMap written ++ '\x22' :: rest⟩ =
      some (before ++ word, ⟨mark.past ((word.flatMap written).length + 1), rest⟩) := by
  have unmarked (text : List Char) : atDocumentMarker ⟨mark, text⟩ = false := by
    simp [atDocumentMarker, Cursor.column, Nat.ne_of_gt inside]
  have enough : word.length < (word.flatMap written ++ '\x22' :: rest).length + 1 := by
    have bound := length_le_flatMap_written word
    rw [List.length_append]
    omega
  have run := readRun_flatMap_written solid enough mark rest (Or.inr rfl)
  have present : (word.flatMap written ++ '\x22' :: rest).isEmpty = false := by simp
  simp only [readRuns, unmarked, present, run, Bool.or_self, Bool.false_eq_true, if_false]
  rw [List.head?_cons, if_pos (by decide), Cursor.past, Mark.past_past]
  rfl

/-- A word and the spaces behind it are read as they stand. -/
theorem readRuns_word (count : Nat) {next : Char} (ends : isSeparator next = false)
    (rest : List Char) :
    readRuns .double (fuel + 1) before
        ⟨mark, word.flatMap written ++ (List.replicate (count + 1) ' ' ++ next :: rest)⟩ =
      readRuns .double fuel (before ++ word ++ List.replicate (count + 1) ' ')
        ⟨mark.past ((word.flatMap written).length + (count + 1)), next :: rest⟩ := by
  have unmarked (text : List Char) : atDocumentMarker ⟨mark, text⟩ = false := by
    simp [atDocumentMarker, Cursor.column, Nat.ne_of_gt inside]
  have enough : word.length <
      (word.flatMap written ++ ' ' :: (List.replicate count ' ' ++ next :: rest)).length + 1 := by
    have bound := length_le_flatMap_written word
    rw [List.length_append]
    omega
  have run := readRun_flatMap_written solid enough mark
    (List.replicate count ' ' ++ next :: rest) (Or.inl rfl)
  have gap := read_replicate 0 (count + 1) [] (mark.past (word.flatMap written).length) ends rest
  rw [List.replicate_succ, List.cons_append] at gap ⊢
  have present : (word.flatMap written ++
      ' ' :: (List.replicate count ' ' ++ next :: rest)).isEmpty = false := by simp
  have unclosed : (some ' ' == some Quote.double.char) = false := by decide
  simp only [readRuns, unmarked, present, run, Bool.or_self, Bool.false_eq_true, if_false,
    List.head?_cons, unclosed, Gap.empty, gap, Mark.past_past, Gap.folded, List.nil_append]

end Runs

/-- Texts are read back up to the closing quote. -/
theorem readRuns_flatMap_written (text : List Char) {fuel : Nat} (enough : text.length < fuel)
    {mark : Mark} (inside : 0 < mark.column) (before rest : List Char) :
    readRuns .double fuel before ⟨mark, text.flatMap written ++ '\x22' :: rest⟩ =
      some (before ++ text, ⟨mark.past ((text.flatMap written).length + 1), rest⟩) := by
  induction fuel generalizing text mark before with
  | zero => cases enough
  | succ fuel ih =>
      obtain ⟨word, count, tail, rfl, solid, ends, last⟩ := exists_word text
      cases count with
      | zero =>
          rw [last rfl, List.replicate_zero, List.append_nil, List.append_nil]
          exact readRuns_closing solid fuel before inside rest
      | succ count =>
          obtain ⟨next, more, split, solidNext⟩ := head_flatMap_written ends rest
          have shorter : tail.length < fuel := by
            rw [List.length_append, List.length_append, List.length_replicate] at enough
            omega
          have column : 0 < (mark.past ((word.flatMap written).length + (count + 1))).column :=
            Nat.add_pos_left inside _
          rw [List.flatMap_append, List.flatMap_append, flatMap_written_replicate,
            List.append_assoc, List.append_assoc, split,
            readRuns_word solid fuel before inside count solidNext, ← split,
            ih tail shorter column, Mark.past_past]
          simp [Nat.add_assoc]

/-- What is written between double quotes is read back. -/
theorem read_write (text : List Char) (mark : Mark) (rest : List Char) :
    read .double ⟨mark, write text ++ rest⟩ =
      some (text, ⟨mark.past (write text).length, rest⟩) := by
  have enough : text.length < (write text ++ rest).length + 1 := by
    have bound := length_le_flatMap_written text
    simp only [write, List.length_append, List.length_cons]
    omega
  have inside : 0 < (mark.past 1).column := Nat.succ_pos _
  have same : (⟨mark, write text ++ rest⟩ : Cursor).past 1 =
      ⟨mark.past 1, text.flatMap written ++ '\x22' :: rest⟩ := by
    simp [Cursor.past, write]
  rw [read, same, readRuns_flatMap_written text enough inside, Mark.past_past]
  simp [write, Nat.add_comm]

end Yaml.Quoted

end FilterQuery
