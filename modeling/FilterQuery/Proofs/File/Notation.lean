import FilterQuery.File
import FilterQuery.Proofs.Decimal.Spelling
import Mathlib.Data.List.TakeWhile

namespace FilterQuery

namespace File

/-- A part of a path is a component if it is not empty and does not stay in place. -/
def isComponent (part : List Char) : Bool := !part.isEmpty && part != ['.']

theorem components_eq (path : String) :
    components path = (split path.toList).filter isComponent := rfl

/-- Separators, and between them nothing or parts that stay in place. -/
inductive StaysInPlace : List Char → Prop where
  | nil : StaysInPlace []
  | separator {rest : List Char} (stays : StaysInPlace rest) : StaysInPlace ('/' :: rest)
  | point {rest : List Char} (stays : StaysInPlace rest) : StaysInPlace ('/' :: '.' :: rest)

/-- The name is the last component of the path: it starts behind a separator or where the path
starts, and nothing behind it leads away from there. -/
structure LastComponent (path name : List Char) : Prop where
  whole : '/' ∉ name
  present : name ≠ []
  moves : name ≠ ['.']
  stands : ∃ front behind, path = front ++ (name ++ behind) ∧
    (∀ c ∈ front.getLast?, c = '/') ∧ StaysInPlace behind

/-- The name ends in `json` behind a full stop that is not its start, in any case of the letters of
ASCII. -/
def EndsInJson (name : List Char) : Prop :=
  ∃ stem ending, name = stem ++ '.' :: ending ∧ stem ≠ [] ∧ '.' ∉ ending ∧
    ending.map Char.toLower = "json".toList

theorem isComponent_iff {part : List Char} :
    isComponent part = true ↔ part ≠ [] ∧ part ≠ ['.'] := by
  simp [isComponent]

section Split

variable {text part : List Char}

/-- The parts of a text, joined by separators, are the text, and no part holds a separator. -/
theorem exists_of_split (text : List Char) :
    ∃ part parts, split text = part :: parts ∧ text = part ++ parts.flatMap ('/' :: ·) ∧
      ∀ other ∈ part :: parts, '/' ∉ other := by
  induction text with
  | nil => exact ⟨[], [], rfl, rfl, by simp⟩
  | cons c rest ih =>
      obtain ⟨part, parts, parted, joined, whole⟩ := ih
      by_cases separator : c = '/'
      · refine ⟨[], part :: parts, ?_, ?_, ?_⟩
        · rw [split, separator, beq_self_eq_true, if_pos rfl, parted]
        · rw [separator, List.nil_append, List.flatMap_cons, List.cons_append, ← joined]
        · exact List.forall_mem_cons.mpr ⟨List.not_mem_nil, whole⟩
      · obtain ⟨first, others⟩ := List.forall_mem_cons.mp whole
        refine ⟨c :: part, parts, ?_, ?_, ?_⟩
        · rw [split, if_neg (by simpa using separator), parted]
        · rw [List.cons_append, ← joined]
        · refine List.forall_mem_cons.mpr ⟨?_, others⟩
          rw [List.mem_cons]
          rintro (equal | member)
          · exact separator equal.symm
          · exact first member

theorem split_append_separator (front rest : List Char) :
    split (front ++ '/' :: rest) = split front ++ split rest := by
  induction front with
  | nil => rfl
  | cons c front ih =>
      obtain ⟨part, parts, parted, -⟩ := exists_of_split front
      rw [parted, List.cons_append] at ih
      rw [List.cons_append, split, split, ih, parted]
      split <;> rfl

theorem split_of_notMem (whole : '/' ∉ part) : split part = [part] := by
  induction part with
  | nil => rfl
  | cons c rest ih =>
      obtain ⟨other, inside⟩ := not_or.mp (mt List.mem_cons.mpr whole)
      rw [split, if_neg (by simpa using Ne.symm other), ih inside]

/-- What stays in place behind a part adds no component. -/
theorem filter_split_append (stays : StaysInPlace text) (whole : '/' ∉ part) :
    (split (part ++ text)).filter isComponent = [part].filter isComponent := by
  induction stays generalizing part with
  | nil => rw [List.append_nil, split_of_notMem whole]
  | @separator rest stays ih =>
      have empty := @ih [] List.not_mem_nil
      rw [List.nil_append] at empty
      rw [split_append_separator, List.filter_append, split_of_notMem whole, empty]
      exact List.append_nil _
  | @point rest stays ih =>
      have point := @ih ['.'] (by decide)
      rw [List.singleton_append] at point
      rw [split_append_separator, List.filter_append, split_of_notMem whole, point]
      exact List.append_nil _

/-- Parts that are no components stay in place. -/
theorem staysInPlace_flatMap {parts : List (List Char)}
    (none : ∀ part ∈ parts, isComponent part = false) :
    StaysInPlace (parts.flatMap ('/' :: ·)) := by
  induction parts with
  | nil => exact .nil
  | cons part parts ih =>
      obtain ⟨first, others⟩ := List.forall_mem_cons.mp none
      have stays := ih others
      rw [List.flatMap_cons]
      by_cases empty : part = []
      · rw [empty]
        exact .separator stays
      · have point : part = ['.'] := by
          by_contra moves
          rw [isComponent_iff.mpr ⟨empty, moves⟩] at first
          cases first
        rw [point]
        exact .point stays

end Split

variable {path : String} {name : List Char}

/-- The last component of a path is the one that is found. -/
theorem lastComponent_iff :
    LastComponent path.toList name ↔ (components path).getLast? = some name := by
  rw [components_eq]
  constructor
  · rintro ⟨whole, present, moves, front, behind, stands, starts, stays⟩
    have component : (split (name ++ behind)).filter isComponent = [name] := by
      rw [filter_split_append stays whole, List.filter_cons_of_pos]
      · rfl
      · exact isComponent_iff.mpr ⟨present, moves⟩
    rw [stands]
    rcases List.eq_nil_or_concat front with rfl | ⟨before, c, rfl⟩
    · rw [List.nil_append, component]
      rfl
    · have separator : c = '/' := starts c (by simp)
      rw [separator, List.concat_append, split_append_separator, List.filter_append, component,
        List.getLast?_concat]
  · intro last
    rw [List.getLast?_eq_head?_reverse, ← List.filter_reverse, List.head?_filter,
      List.find?_eq_some_iff_append] at last
    obtain ⟨component, after, before, reversed, none⟩ := last
    obtain ⟨part, parts, parted, joined, whole⟩ := exists_of_split path.toList
    obtain ⟨present, moves⟩ := isComponent_iff.mp component
    have order : part :: parts = before.reverse ++ name :: after.reverse := by
      rw [← parted, ← List.reverse_inj, reversed]
      simp
    have stays : StaysInPlace (after.reverse.flatMap ('/' :: ·)) :=
      staysInPlace_flatMap fun other member => by
        simpa using none other (List.mem_reverse.mp member)
    refine ⟨whole name (by rw [order]; simp), present, moves, ?_⟩
    cases earlier : before.reverse with
    | nil =>
        rw [earlier, List.nil_append, List.cons.injEq] at order
        obtain ⟨rfl, rfl⟩ := order
        exact ⟨[], _, joined, nofun, stays⟩
    | cons first others =>
        rw [earlier, List.cons_append, List.cons.injEq] at order
        obtain ⟨rfl, rfl⟩ := order
        refine ⟨part ++ others.flatMap ('/' :: ·) ++ ['/'], _, ?_, ?_, stays⟩
        · rw [joined, List.flatMap_append, List.flatMap_cons]
          simp
        · intro c member
          rw [List.getLast?_concat] at member
          exact (Option.some.inj member).symm

/-- A path has one last component at most. -/
theorem LastComponent.unique {first second : List Char} (one : LastComponent path.toList first)
    (other : LastComponent path.toList second) : first = second := by
  have found := lastComponent_iff.mp one
  rw [lastComponent_iff.mp other] at found
  exact (Option.some.inj found).symm

/-- The ending of a name is what stands behind its last full stop, if this is not its start. -/
theorem ending?_eq_some_iff {ending : List Char} :
    ending? name = some ending ↔
      ∃ stem, name = stem ++ '.' :: ending ∧ stem ≠ [] ∧ '.' ∉ ending := by
  rw [ending?]
  constructor
  · intro found
    split at found
    · cases found
    rename_i long
    have whole : name.reverse.takeWhile (· != '.') ++ name.reverse.dropWhile (· != '.') =
        name.reverse := List.takeWhile_append_dropWhile
    have behind : '.' ∉ name.reverse.takeWhile (· != '.') := fun member => by
      simpa using List.mem_takeWhile_imp member
    have stopped := List.head?_dropWhile_not (· != '.') name.reverse
    generalize name.reverse.takeWhile (· != '.') = taken at *
    rw [← Option.some.inj found]
    cases left : name.reverse.dropWhile (· != '.') with
    | nil =>
        rw [left, List.append_nil] at whole
        rw [whole] at long
        omega
    | cons c stem =>
        rw [left] at stopped whole
        have point : c = '.' := by simpa using stopped
        refine ⟨stem.reverse, ?_, ?_, by simpa using behind⟩
        · rw [← List.reverse_inj, ← whole, point]
          simp
        · rintro empty
          rw [← whole, List.reverse_eq_nil_iff.mp empty] at long
          simp at long
  · rintro ⟨stem, rfl, present, behind⟩
    have reversed : (stem ++ '.' :: ending).reverse = ending.reverse ++ '.' :: stem.reverse := by
      simp
    have taken : (stem ++ '.' :: ending).reverse.takeWhile (· != '.') = ending.reverse := by
      rw [reversed]
      refine Decimal.takeWhile_append_of_head? (fun c member => ?_) ?_
      · rw [bne_iff_ne]
        rintro rfl
        exact behind (List.mem_reverse.mp member)
      · rintro c ⟨⟩
        rfl
    have length := List.length_pos_of_ne_nil present
    rw [taken, if_neg, List.reverse_reverse]
    simp
    omega

theorem endsInJson_iff :
    EndsInJson name ↔
      ∃ ending, ending? name = some ending ∧ ending.map Char.toLower = "json".toList := by
  constructor
  · rintro ⟨stem, ending, split, present, behind, lowered⟩
    exact ⟨ending, ending?_eq_some_iff.mpr ⟨stem, split, present, behind⟩, lowered⟩
  · rintro ⟨ending, found, lowered⟩
    obtain ⟨stem, split, present, behind⟩ := ending?_eq_some_iff.mp found
    exact ⟨stem, ending, split, present, behind, lowered⟩

/-- A document is in JSON exactly if the last component of its path ends so. -/
theorem markup_eq_json_iff :
    markup path = .json ↔ ∃ name, LastComponent path.toList name ∧ EndsInJson name := by
  have known : markup path = .json ↔ ∃ ending, (name? path).bind ending? = some ending ∧
      ending.map Char.toLower = "json".toList := by
    rw [markup]
    cases (name? path).bind ending? with
    | none => simp
    | some ending =>
        by_cases lowered : ending.map Char.toLower = "json".toList <;> simp [lowered]
  rw [known]
  constructor
  · rintro ⟨ending, found, lowered⟩
    obtain ⟨name, last, ends⟩ := Option.bind_eq_some_iff.mp found
    exact ⟨name, lastComponent_iff.mpr (Option.filter_eq_some_iff.mp last).1,
      endsInJson_iff.mpr ⟨ending, ends, lowered⟩⟩
  · rintro ⟨name, last, ends⟩
    obtain ⟨ending, found, lowered⟩ := endsInJson_iff.mp ends
    refine ⟨ending, Option.bind_eq_some_iff.mpr ⟨name, ?_, found⟩, lowered⟩
    refine Option.filter_eq_some_iff.mpr ⟨lastComponent_iff.mp last, ?_⟩
    -- The name of the directory around this one ends in nothing.
    rw [bne_iff_ne]
    rintro rfl
    cases found
    cases lowered

/-- A full stop at the start of a name is in front of no ending. -/
theorem not_endsInJson_hidden : ¬EndsInJson ".json".toList := by
  rw [endsInJson_iff]
  rintro ⟨ending, found, -⟩
  cases found

/-- Only the last ending of a name counts. -/
theorem not_endsInJson_append (stem : List Char) :
    ¬EndsInJson (stem ++ ".json.yaml".toList) := by
  have found : ending? (stem ++ ".json.yaml".toList) = some "yaml".toList :=
    ending?_eq_some_iff.mpr ⟨stem ++ ".json".toList, by simp, by simp, by decide⟩
  rw [endsInJson_iff]
  rintro ⟨ending, last, lowered⟩
  rw [found] at last
  cases last
  cases lowered

/-- What stands behind the last separator of a path is its last component. -/
theorem lastComponent_append {front name : List Char} (whole : '/' ∉ name) (present : name ≠ [])
    (moves : name ≠ ['.']) : LastComponent (front ++ '/' :: name) name :=
  ⟨whole, present, moves, front ++ ['/'], [], by simp, by simp, .nil⟩

/-- Octets are read as a text exactly if they are its encoding. -/
theorem fromUTF8?_eq_some_iff {bytes : ByteArray} {text : String} :
    String.fromUTF8? bytes = some text ↔ bytes = text.toUTF8 := by
  constructor
  · intro read
    unfold String.fromUTF8? at read
    split at read
    · rw [← Option.some.inj read]
      rfl
    · cases read
  · rintro rfl
    rw [String.fromUTF8?, String.toUTF8_eq_toByteArray, dif_pos text.isValidUTF8]
    rfl

end File

/-- No text fails to be decoded as a file fails to be read. -/
theorem Decoding.Markup.document_ne_file (markup : Markup) (text : String) (cause : FileFailure) :
    markup.document text ≠ .error (.file cause) := by
  have reported (outcome : Except Error Document) :
      markup.report outcome ≠ .error (.file cause) := by
    cases outcome <;> simp [report]
  exact reported _

namespace Document

open Decoding (Markup)
open File (Entry LastComponent EndsInJson)

variable {lookup : String → Entry} {path : String}

/-- A text at a path is decoded in the notation that the path tells. -/
theorem load_text {text : String} (stands : lookup path = .content text.toUTF8) :
    load lookup path = (File.markup path).document text := by
  rw [load, File.text, stands]
  dsimp only
  rw [File.fromUTF8?_eq_some_iff.mpr rfl]

theorem load_json {text : String} {name : List Char}
    (stands : lookup path = .content text.toUTF8) (last : LastComponent path.toList name)
    (ends : EndsInJson name) : load lookup path = Markup.json.document text := by
  rw [load_text stands, File.markup_eq_json_iff.mpr ⟨name, last, ends⟩]

theorem load_yaml {text : String} (stands : lookup path = .content text.toUTF8)
    (other : ∀ name, LastComponent path.toList name → ¬EndsInJson name) :
    load lookup path = Markup.yaml.document text := by
  rw [load_text stands]
  cases told : File.markup path with
  | yaml => rfl
  | json =>
      obtain ⟨name, last, ends⟩ := File.markup_eq_json_iff.mp told
      exact absurd ends (other name last)

theorem load_unreachable {obstacle : Obstacle} (stands : lookup path = .unreachable obstacle) :
    load lookup path = .error (.file (.unreachable path obstacle)) := by
  rw [load, File.text, stands]

theorem load_directory (stands : lookup path = .directory) :
    load lookup path = .error (.file (.directory path)) := by
  rw [load, File.text, stands]

/-- Octets that encode no text are not decoded. -/
theorem load_notText {bytes : ByteArray} (stands : lookup path = .content bytes)
    (noText : ∀ text : String, bytes ≠ text.toUTF8) :
    load lookup path = .error (.file (.notText path)) := by
  have unread : String.fromUTF8? bytes = none := by
    rw [Option.eq_none_iff_forall_ne_some]
    exact fun text read => noText text (File.fromUTF8?_eq_some_iff.mp read)
  rw [load, File.text, stands]
  dsimp only
  rw [unread]

/-- Loading fails like the reading of a file exactly if no text stands at the path. -/
theorem load_eq_file_error_iff :
    (∃ cause, load lookup path = .error (.file cause)) ↔
      ∀ text : String, lookup path ≠ .content text.toUTF8 := by
  constructor
  · rintro ⟨cause, failed⟩ text stands
    rw [load_text stands] at failed
    exact (File.markup path).document_ne_file text cause failed
  · intro noText
    cases stands : lookup path with
    | unreachable obstacle => exact ⟨_, load_unreachable stands⟩
    | directory => exact ⟨_, load_directory stands⟩
    | content bytes =>
        exact ⟨_, load_notText stands fun text equal => noText text (equal ▸ stands)⟩

/-- How the document at a path is loaded, whatever stands there. -/
structure LoadedByName (lookup : String → Entry) (path : String) : Prop where
  /-- A text is decoded as JSON if the last component of the path ends in `json`. -/
  json : ∀ text name, lookup path = .content text.toUTF8 → LastComponent path.toList name →
    EndsInJson name → load lookup path = Markup.json.document text
  /-- Any other text is decoded as YAML. -/
  yaml : ∀ text, lookup path = .content text.toUTF8 →
    (∀ name, LastComponent path.toList name → ¬EndsInJson name) →
      load lookup path = Markup.yaml.document text
  /-- There is one last component at most. -/
  unique : ∀ first second, LastComponent path.toList first → LastComponent path.toList second →
    first = second
  /-- The directories in front of a name, and the full stops in them, are no parts of it. -/
  directories : ∀ front name, path.toList = front ++ '/' :: name → '/' ∉ name → name ≠ [] →
    name ≠ ['.'] → LastComponent path.toList name
  /-- A hidden file without another full stop, or one with another last ending, is in YAML. -/
  notLast : ∀ text, lookup path = .content text.toUTF8 →
    LastComponent path.toList ".json".toList ∨
      (∃ stem, LastComponent path.toList (stem ++ ".json.yaml".toList)) →
    load lookup path = Markup.yaml.document text
  /-- The letters of the last ending may have any case, and other endings may stand before it. -/
  last : ∀ text stem, lookup path = .content text.toUTF8 →
    LastComponent path.toList (stem ++ ".yaml.JSON".toList) →
    load lookup path = Markup.json.document text
  /-- Loading fails like the reading of a file exactly if no text stands there. -/
  unreadable : (∃ cause, load lookup path = .error (.file cause)) ↔
    ∀ text : String, lookup path ≠ .content text.toUTF8
  /-- This failure tells what stands there, but nothing of its content. -/
  unreachable : ∀ obstacle, lookup path = .unreachable obstacle →
    load lookup path = .error (.file (.unreachable path obstacle))
  directory : lookup path = .directory → load lookup path = .error (.file (.directory path))
  notText : ∀ bytes, lookup path = .content bytes → (∀ text : String, bytes ≠ text.toUTF8) →
    load lookup path = .error (.file (.notText path))

/-- Every document is loaded in the notation that the last component of its path tells. -/
theorem load_by_name (lookup : String → Entry) (path : String) : LoadedByName lookup path := by
  constructor
  case json => exact fun text name stands last ends => load_json stands last ends
  case yaml => exact fun text stands other => load_yaml stands other
  case unique => exact fun first second one other => one.unique other
  case directories =>
    intro front name split whole present moves
    rw [split]
    exact File.lastComponent_append whole present moves
  case notLast =>
    intro text stands named
    apply load_yaml stands
    intro name last ends
    rcases named with hidden | ⟨stem, inner⟩
    · rw [last.unique hidden] at ends
      exact File.not_endsInJson_hidden ends
    · rw [last.unique inner] at ends
      exact File.not_endsInJson_append stem ends
  case last =>
    intro text stem stands last
    apply load_json stands last
    exact ⟨stem ++ ".yaml".toList, "JSON".toList, by simp, by simp, by decide, by decide⟩
  case unreadable => exact load_eq_file_error_iff
  case unreachable => exact fun obstacle stands => load_unreachable stands
  case directory => exact load_directory
  case notText => exact fun bytes stands noText => load_notText stands noText

/-- Only the last component counts, and only behind its last full stop. -/
example : File.markup "a.json/x.json.yaml" = .yaml ∧ File.markup "a.json/.json" = .yaml ∧
    File.markup "a.yaml/x.yaml.JSON/." = .json ∧ File.markup "a.json/.." = .yaml := by
  decide

end Document

end FilterQuery
