import FilterQuery.Proofs.Compact.Data
import FilterQuery.Proofs.Json.Grammar
import FilterQuery.Proofs.Json.Readable
import FilterQuery.Proofs.Json.Reading

namespace FilterQuery.Compact

open Decimal
open Json (Tree Piece Numeral)

/-- A character between double quotes is spelled as a piece. -/
theorem spelled_escaped {c : Char} (printable : isPrintable c = true) :
    (Piece.char c).Spelled (escaped c) := by
  rw [isPrintable, Bool.and_eq_true, decide_eq_true_eq] at printable
  by_cases quote : c = '\x22'
  · subst quote
    exact .escaped rfl
  by_cases solidus : c = '\x5c'
  · subst solidus
    exact .escaped rfl
  have plain : escaped c = [c] := by simp [escaped, quote, solidus]
  rw [plain]
  exact .plain printable.1 quote solidus

/-- A text between double quotes writes down itself. -/
theorem quoted_printable (content : Printable) :
    Json.Quoted (some content.text) (quoted content.text) := by
  refine ⟨content.text.toList.map Piece.char, content.text.toList.map escaped, ?_, ?_, ?_⟩
  · rw [List.forall₂_map_left_iff, List.forall₂_map_right_iff]
    exact List.forall₂_same.mpr fun c member =>
      spelled_escaped (List.all_eq_true.mp content.printable c member)
  · have joined (text : List Char) : Json.joined? (text.map Piece.char) = some text := by
      induction text with
      | nil => rfl
      | cons c text ih => simp [Json.joined?, ih]
    rw [joined, Option.map_some, String.ofList_toList]
  · rw [quoted, List.flatMap_def]

def numeral (value : Int64) : Numeral :=
  .ofSpelling (decide (value.toInt < 0)) (.ofNat value.toInt.natAbs)

/-- The digits of an integer have no leading zero. -/
theorem isStrict_ofNat (n : Nat) : (Spelling.ofNat n).IsStrict := by
  intro zero
  have zero : n = 0 := eq_zero_of_head?_digitsOf zero
  subst zero
  rfl

/-- An integer of 64 bits is read exactly. -/
theorem content?_numeral (value : Int64) :
    (numeral value).content? = some (.integer value.toInt) := by
  have low := value.le_toInt
  have high := value.toInt_lt
  have digits : valueOf (Spelling.ofNat value.toInt.natAbs).whole = value.toInt.natAbs :=
    valueOf_digitsOf _
  have small : valueOf ((Spelling.ofNat value.toInt.natAbs).whole ++
      (Spelling.ofNat value.toInt.natAbs).fraction) < 2 ^ 64 := by
    change valueOf (_ ++ []) < _
    rw [List.append_nil, digits]
    omega
  rw [numeral, Numeral.content?_of_lt small, digits, if_pos]
  · congr 2
    by_cases negative : value.toInt < 0
    · rw [signed, decide_eq_true negative, if_pos rfl]
      omega
    · rw [signed, decide_eq_false negative, if_neg Bool.false_ne_true]
      omega
  · refine ⟨Spelling.isPlain_ofNat _, fun negative => ?_⟩
    rw [decide_eq_true_eq] at negative
    omega

namespace Data

mutual

/-- The tree of the data. -/
def tree : Data → Tree
  | null => .null
  | boolean value => .boolean value
  | integer value => .number (numeral value)
  | text content => .text (some content.text)
  | list items => .array (trees items) true
  | record members => .object (memberTrees members) true

def trees : List Data → List Tree
  | [] => []
  | item :: rest => item.tree :: trees rest

def memberTrees : List (Name × Data) → List (Option String × Tree)
  | [] => []
  | (name, value) :: rest => (some name.text, value.tree) :: memberTrees rest

end

theorem allSpace_nil : Tree.AllSpace [] := List.forall_mem_nil _

/-- Nothing stands around a mark. -/
theorem marked (mark : Char) : Tree.Marked mark [mark] :=
  ⟨[], [], allSpace_nil, allSpace_nil, rfl⟩

mutual

/-- The common notation writes down the tree of the data. -/
theorem written : (data : Data) → Tree.Written data.tree data.compact
  | null => .null
  | boolean true => .yes
  | boolean false => .no
  | integer value => by
      rw [compact, Spelling.integerDigits_eq]
      exact .number _ (isStrict_ofNat _)
  | text content => .text (quoted_printable content)
  | list [] => @Tree.Written.emptyArray [] allSpace_nil
  | list (item :: rest) =>
      @Tree.Written.array _ [] _ [] allSpace_nil
        (writtenItems (item :: rest) (List.cons_ne_nil item rest)) allSpace_nil
  | record [] => @Tree.Written.emptyObject [] allSpace_nil
  | record (member :: rest) =>
      @Tree.Written.object _ [] _ [] allSpace_nil
        (writtenMembers (member :: rest) (List.cons_ne_nil member rest)) allSpace_nil

theorem writtenItems : (items : List Data) → items ≠ [] →
    Tree.WrittenItems (trees items) (compactItems items)
  | [], nonempty => absurd rfl nonempty
  | [item], _ => .last item.written
  | item :: next :: rest, _ =>
      .more item.written (marked ',') (writtenItems (next :: rest) (List.cons_ne_nil next rest))

theorem writtenMembers : (members : List (Name × Data)) → members ≠ [] →
    Tree.WrittenMembers (memberTrees members) (compactMembers members)
  | [], nonempty => absurd rfl nonempty
  | [(name, value)], _ => .last (quoted_printable name.toPrintable) (marked ':') value.written
  | (name, value) :: next :: rest, _ =>
      .more (quoted_printable name.toPrintable) (marked ':') value.written (marked ',')
        (writtenMembers (next :: rest) (List.cons_ne_nil next rest))

end

/-- A whole text in the common notation writes down the tree. -/
theorem writes (data : Data) : Tree.Writes data.tree data.compact :=
  ⟨[], data.compact, [], allSpace_nil, data.written, allSpace_nil, (List.append_nil _).symm⟩

mutual

/-- The content of the tree is what the data means, at every depth that suffices. -/
theorem content?_tree : (data : Data) → {depth : Nat} → data.depth ≤ depth →
    data.tree.content? depth = some data.content
  | null, _, _ | boolean _, _, _ => by rw [tree, Tree.content?, content]
  | integer value, _, _ => by rw [tree, Tree.content?, content?_numeral, content]
  | text content, _, _ => by rw [tree, Tree.content?]; rfl
  | list items, 0, shallow => absurd shallow (Nat.not_succ_le_zero _)
  | list items, depth + 1, shallow => by
      rw [tree, Tree.content?, if_pos rfl, contents?_trees items (Nat.le_of_succ_le_succ shallow)]
      rfl
  | record members, 0, shallow => absurd shallow (Nat.not_succ_le_zero _)
  | record members, depth + 1, shallow => by
      rw [tree, Tree.content?, if_pos rfl,
        memberContents?_memberTrees members (Nat.le_of_succ_le_succ shallow)]
      rfl

theorem contents?_trees : (items : List Data) → {depth : Nat} → depthOfItems items ≤ depth →
    Tree.contents? depth (trees items) = some (contents items)
  | [], _, _ => by rw [trees, Tree.contents?, contents]
  | item :: rest, depth, shallow => by
      rw [depthOfItems, Nat.max_le] at shallow
      rw [trees, Tree.contents?, item.content?_tree shallow.1, contents?_trees rest shallow.2]
      rfl

theorem memberContents?_memberTrees : (members : List (Name × Data)) → {depth : Nat} →
    depthOfMembers members ≤ depth →
    Tree.memberContents? depth (memberTrees members) = some (memberContents members)
  | [], _, _ => by rw [memberTrees, Tree.memberContents?, memberContents]
  | (name, value) :: rest, depth, shallow => by
      rw [depthOfMembers, Nat.max_le] at shallow
      rw [memberTrees, Tree.memberContents?, value.content?_tree shallow.1,
        memberContents?_memberTrees rest shallow.2]
      rfl

end

mutual

/-- The tree can be read. -/
theorem readable : (data : Data) → {depth : Nat} → data.depth ≤ depth → data.tree.Readable depth
  | null, _, _ => .null
  | boolean value, _, _ => .boolean value
  | integer value, _, _ => .number (by rw [content?_numeral]; rfl)
  | text content, _, _ => .text content.text
  | list _, 0, shallow => absurd shallow (Nat.not_succ_le_zero _)
  | list items, _ + 1, shallow =>
      .array (readable_of_mem_trees items (Nat.le_of_succ_le_succ shallow))
  | record _, 0, shallow => absurd shallow (Nat.not_succ_le_zero _)
  | record members, _ + 1, shallow =>
      .object (fun member inside =>
          (readable_of_mem_memberTrees members (Nat.le_of_succ_le_succ shallow) member inside).1)
        fun member inside =>
          (readable_of_mem_memberTrees members (Nat.le_of_succ_le_succ shallow) member inside).2

theorem readable_of_mem_trees : (items : List Data) → {depth : Nat} →
    depthOfItems items ≤ depth → ∀ item ∈ trees items, item.Readable depth
  | [], _, _ => by rw [trees]; exact List.forall_mem_nil _
  | item :: rest, _, shallow => by
      rw [depthOfItems, Nat.max_le] at shallow
      rw [trees]
      exact List.forall_mem_cons.mpr
        ⟨item.readable shallow.1, readable_of_mem_trees rest shallow.2⟩

theorem readable_of_mem_memberTrees : (members : List (Name × Data)) → {depth : Nat} →
    depthOfMembers members ≤ depth →
    ∀ member ∈ memberTrees members, member.1.isSome = true ∧ member.2.Readable depth
  | [], _, _ => by rw [memberTrees]; exact List.forall_mem_nil _
  | (_, value) :: rest, _, shallow => by
      rw [depthOfMembers, Nat.max_le] at shallow
      rw [memberTrees]
      exact List.forall_mem_cons.mpr
        ⟨⟨rfl, value.readable shallow.1⟩, readable_of_mem_memberTrees rest shallow.2⟩

end

end Data

end FilterQuery.Compact
