import FilterQuery.Proofs.Compact.Data
import FilterQuery.Proofs.Yaml.Comparison

namespace FilterQuery.Compact

open Decimal Yaml Yaml.Layout

/-- A text between double quotes is the same in YAML. -/
theorem quoted_eq_write (content : Printable) :
    quoted content.text = Quoted.write content.text.toList := by
  have same : ∀ c ∈ content.text.toList, escaped c = Quoted.written c := by
    intro c member
    have printable := List.all_eq_true.mp content.printable c member
    rw [isPrintable] at printable
    rw [escaped, Quoted.written, printable]
    rfl
  rw [quoted, Quoted.write, List.flatMap_congr same]

/-- A name and the colon behind it are scanned as a key. -/
theorem scans_name (name : Name) {brackets after : Nat} {keyAllowedAfter : Bool}
    {text : List Char} {more : List Token}
    (others : Scans (brackets + 1) false text more after keyAllowedAfter) :
    Scans (brackets + 1) true (quoted name.text ++ ':' :: text)
      (.key :: .scalar name.text.toList false :: .value :: more) after keyAllowedAfter := by
  have short := name.short
  rw [quoted_eq_write name.toPrintable] at short ⊢
  have scanned := (Scans.name short).append others
  rwa [List.append_assoc] at scanned

/-- The digits of an integer are a literal. -/
theorem integerDigits_eq_text (value : Int) :
    integerDigits value =
      (Sign.ofNegative (decide (value < 0))).text ++ (Spelling.ofNat value.natAbs).text := by
  rw [Spelling.integerDigits_eq, Sign.text_ofNegative]

/-- The digits of an integer of 64 bits denote it as a plain scalar. -/
theorem ofPlain_integerDigits (value : Int64) :
    Atom.ofPlain (integerDigits value.toInt) = .integer value.toInt := by
  have low := value.le_toInt
  have high := value.toInt_lt
  have unpadded : Atom.isPaddedNumeral (integerDigits value.toInt) = false := by
    rw [integerDigits_eq_text, Atom.isPaddedNumeral, Sign.takeSign_text_append,
      Spelling.text_of_isPlain (Spelling.isPlain_ofNat _)]
    change (decide (1 < (digitsOf value.toInt.natAbs).length) &&
      (digitsOf value.toInt.natAbs).head? == some '0' && _) = false
    by_cases zero : (digitsOf value.toInt.natAbs).head? = some '0'
    · rw [eq_zero_of_head?_digitsOf zero]
      rfl
    · simp [zero]
  have integer : Atom.integer? (integerDigits value.toInt) = some value.toInt := by
    rw [← readInteger?_integerDigits value.toInt, integerDigits_eq_text, Atom.integer?_append,
      ← integerDigits_eq_text, unpadded]
    rfl
  have atom := Atom.ofPlain_append (Sign.ofNegative (decide (value.toInt < 0)))
    (Spelling.ofNat value.toInt.natAbs)
  rw [← integerDigits_eq_text, integer, Option.bind_some,
    Atom.ofInteger?_of_narrow (by omega)] at atom
  exact atom

namespace Data

mutual

/-- The tokens of the data. -/
def tokens : Data → List Token
  | null => [.scalar null.compact true]
  | boolean value => [.scalar (boolean value).compact true]
  | integer value => [.scalar (integer value).compact true]
  | text content => [.scalar content.text.toList false]
  | list items => .flowSequence :: (itemTokens items ++ [.flowSequenceEnd])
  | record members => .flowMapping :: (memberTokens members ++ [.flowMappingEnd])

def itemTokens : List Data → List Token
  | [] => []
  | [item] => item.tokens
  | item :: next :: rest => item.tokens ++ .flowEntry :: itemTokens (next :: rest)

def memberTokens : List (Name × Data) → List Token
  | [] => []
  | [(name, value)] => .key :: .scalar name.text.toList false :: .value :: value.tokens
  | (name, value) :: next :: rest =>
      .key :: .scalar name.text.toList false :: .value ::
        (value.tokens ++ .flowEntry :: memberTokens (next :: rest))

end

mutual

/-- The node of the data. -/
def node : Data → Node
  | null => .scalar .none null.compact true
  | boolean value => .scalar .none (boolean value).compact true
  | integer value => .scalar .none (integer value).compact true
  | text content => .scalar .none content.text.toList false
  | list items => .sequence .none (nodes items)
  | record members => .mapping .none (memberNodes members)

def nodes : List Data → List Node
  | [] => []
  | item :: rest => item.node :: nodes rest

def memberNodes : List (Name × Data) → List (Node × Node)
  | [] => []
  | (name, value) :: rest => (.scalar .none name.text.toList false, value.node) :: memberNodes rest

end

mutual

/-- The linked node of the data. -/
def linked : Data → Linked
  | null => .scalar none none (String.ofList null.compact) true
  | boolean value => .scalar none none (String.ofList (boolean value).compact) true
  | integer value => .scalar none none (String.ofList (integer value).compact) true
  | text content => .scalar none none content.text false
  | list items => .sequence none none (links items)
  | record members => .mapping none none (memberLinks members)

def links : List Data → List Linked
  | [] => []
  | item :: rest => item.linked :: links rest

def memberLinks : List (Name × Data) → List (Linked × Linked)
  | [] => []
  | (name, value) :: rest => (.scalar none none name.text false, value.linked) :: memberLinks rest

end

/-- Integers are words. -/
theorem isWord_integerDigits (value : Int) : IsWord (integerDigits value) := by
  rw [integerDigits_eq_text]
  exact isWord_literal _ _

/-- Characters of words are a word if the first of them is no indicator. -/
theorem isWord_of_all {first : Char} {word : List Char}
    (chars : (first :: word).all isWordChar = true) (head : isIndicator first = false) :
    IsWord (first :: word) where
  nonempty := List.cons_ne_nil first word
  chars := List.all_eq_true.mp chars
  head := by
    intro c member
    cases member
    exact .inl head

section Scans

mutual

/-- The data is scanned as its tokens, in front of a character that structures a collection. -/
theorem scans : (data : Data) → {brackets after : Nat} → {keyAllowed keyAllowedAfter : Bool} →
    {next : Char} → {rest : List Char} → {more : List Token} →
    Plain.isFlowIndicator next = true →
    Scans (brackets + 1) false (next :: rest) more after keyAllowedAfter →
    Scans (brackets + 1) keyAllowed (data.compact ++ next :: rest) (data.tokens ++ more) after
      keyAllowedAfter
  | null, _, _, _, _, _, _, _, ends, others =>
      .word (isWord_of_all (by decide) (by decide)) ends others
  | boolean true, _, _, _, _, _, _, _, ends, others =>
      .word (isWord_of_all (by decide) (by decide)) ends others
  | boolean false, _, _, _, _, _, _, _, ends, others =>
      .word (isWord_of_all (by decide) (by decide)) ends others
  | integer value, _, _, _, _, _, _, _, ends, others =>
      .word (isWord_integerDigits value.toInt) ends others
  | text content, _, _, _, _, _, _, _, _, others => by
      rw [compact, quoted_eq_write]
      exact (Scans.quoted _).append others
  | list items, _, _, _, _, _, _, _, _, others => by
      rw [compact, tokens, List.cons_append, List.cons_append, List.append_assoc, List.append_assoc]
      exact Scans.openSequence.append
        (scansItems items rfl fun _ => Scans.closeSequence.append others)
  | record members, _, _, _, _, _, _, _, _, others => by
      rw [compact, tokens, List.cons_append, List.cons_append, List.append_assoc, List.append_assoc]
      exact Scans.openMapping.append
        (scansMembers members rfl fun _ => Scans.closeMapping.append others)

theorem scansItems : (items : List Data) → {brackets after : Nat} →
    {keyAllowed keyAllowedAfter : Bool} → {close : Char} → {rest : List Char} →
    {more : List Token} → Plain.isFlowIndicator close = true →
    (∀ keyAllowed, Scans (brackets + 1) keyAllowed (close :: rest) more after keyAllowedAfter) →
    Scans (brackets + 1) keyAllowed (compactItems items ++ close :: rest)
      (itemTokens items ++ more) after keyAllowedAfter
  | [], _, _, _, _, _, _, _, _, others => others _
  | [item], _, _, _, _, _, _, _, ends, others => item.scans ends (others false)
  | item :: next :: rest, _, _, _, _, _, _, _, ends, others => by
      rw [compactItems, itemTokens, List.append_assoc, List.append_assoc]
      exact item.scans rfl (Scans.comma.append (scansItems (next :: rest) ends others))

theorem scansMembers : (members : List (Name × Data)) → {brackets after : Nat} →
    {keyAllowedAfter : Bool} → {close : Char} → {rest : List Char} →
    {more : List Token} → Plain.isFlowIndicator close = true →
    (∀ keyAllowed, Scans (brackets + 1) keyAllowed (close :: rest) more after keyAllowedAfter) →
    Scans (brackets + 1) true (compactMembers members ++ close :: rest)
      (memberTokens members ++ more) after keyAllowedAfter
  | [], _, _, _, _, _, _, _, others => others _
  | [(name, value)], _, _, _, _, _, _, ends, others => by
      rw [compactMembers, memberTokens, List.append_assoc]
      exact scans_name name (value.scans ends (others false))
  | (name, value) :: next :: rest, _, _, _, _, _, _, ends, others => by
      rw [compactMembers, memberTokens]
      simp only [List.cons_append, List.append_assoc]
      exact scans_name name
        (value.scans rfl (Scans.comma.append (scansMembers (next :: rest) ends others)))

end

end Scans

/-- The first token of a node without properties that is no alias. -/
def startsNode : Token → Bool
  | .scalar .. | .flowSequence | .flowMapping => true
  | _ => false

theorem exists_tokens_cons (data : Data) :
    ∃ token more, data.tokens = token :: more ∧ startsNode token = true := by
  cases data <;> exact ⟨_, _, rfl, rfl⟩

section Compose

variable {handles : Handles} {fuel : Nat} {token : Token} (starts : startsNode token = true)
  {more behind rest : List Token} {item : Node}
  (composed : Token.takeNode? handles fuel false false (token :: more) = some (item, behind))

include starts composed

/-- An item of a list is composed, the first one or one behind a comma. -/
theorem takeFlowItems?_cons {items : List Node}
    (others : Token.takeFlowItems? handles fuel false behind = some (items, rest)) :
    Token.takeFlowItems? handles (fuel + 1) true (token :: more) = some (item :: items, rest) ∧
      Token.takeFlowItems? handles (fuel + 1) false (.flowEntry :: token :: more) =
        some (item :: items, rest) := by
  have step : Token.takeFlowItems? handles (fuel + 1) true (token :: more) =
      (Token.takeNode? handles fuel false false (token :: more) >>= fun taken =>
        Token.takeFlowItems? handles fuel false taken.2 >>= fun others =>
          some (taken.1 :: others.1, others.2)) := by
    cases token <;> first | rfl | cases starts
  have same : Token.takeFlowItems? handles (fuel + 1) false (.flowEntry :: token :: more) =
      Token.takeFlowItems? handles (fuel + 1) true (token :: more) := by
    cases token <;> rfl
  have first : Token.takeFlowItems? handles (fuel + 1) true (token :: more) =
      some (item :: items, rest) := by
    simp only [step, composed, others, Option.bind_eq_bind, Option.bind_some]
  exact ⟨first, same.trans first⟩

/-- A member of a record is composed, the first one or one behind a comma. -/
theorem takeFlowMembers?_cons (name : List Char) {members : List (Node × Node)}
    (others : Token.takeFlowMembers? handles fuel false behind = some (members, rest)) :
    Token.takeFlowMembers? handles (fuel + 1) true
        (.key :: .scalar name false :: .value :: token :: more) =
      some ((.scalar .none name false, item) :: members, rest) ∧
    Token.takeFlowMembers? handles (fuel + 1) false
        (.flowEntry :: .key :: .scalar name false :: .value :: token :: more) =
      some ((.scalar .none name false, item) :: members, rest) := by
  have keyed (rest : List Token) :
      Token.endsFlowKey .flowMappingEnd (.scalar name false :: .value :: rest) = false := rfl
  have named (rest : List Token) :
      Token.takeNode? handles fuel false false (.scalar name false :: rest) =
        some (.scalar .none name false, rest) := by
    cases fuel with
    | zero => cases composed
    | succ fuel => rfl
  have valued : Token.endsFlowValue .flowMappingEnd (token :: more) = false := by
    cases token <;> first | rfl | cases starts
  have first : Token.takeFlowMembers? handles (fuel + 1) true
        (.key :: .scalar name false :: .value :: token :: more) =
      some ((.scalar .none name false, item) :: members, rest) := by
    rw [Token.takeFlowMembers?]
    · simp only [keyed, named, valued, composed, others, Option.bind_eq_bind, Option.bind_some,
        if_true, Bool.false_eq_true, if_false]
    all_goals exact nofun
  exact ⟨first, first⟩

end Compose

variable (handles : Handles)

mutual

/-- The tokens are composed to the node. The fuel is judged by their number. -/
theorem takeNode?_tokens : (data : Data) → {fuel : Nat} → data.tokens.length < fuel →
    (block bare : Bool) → (rest : List Token) →
    Token.takeNode? handles fuel block bare (data.tokens ++ rest) = some (data.node, rest)
  | _, 0, enough, _, _, _ => absurd enough (Nat.not_lt_zero _)
  | null, _ + 1, _, _, _, _ => rfl
  | boolean _, _ + 1, _, _, _, _ => rfl
  | integer _, _ + 1, _, _, _, _ => rfl
  | text _, _ + 1, _, _, _, _ => rfl
  | list items, fuel + 1, enough, _, _, rest => by
      have inner : (itemTokens items).length + 1 < fuel := by simpa [tokens] using enough
      rw [tokens, List.cons_append, List.append_assoc]
      change (Token.takeFlowItems? handles fuel true (itemTokens items ++ .flowSequenceEnd :: rest) >>=
        fun taken => some (Node.sequence .none taken.1, taken.2)) = _
      rw [(takeFlowItems?_tokens items inner rest).1]
      rfl
  | record members, fuel + 1, enough, _, _, rest => by
      have inner : (memberTokens members).length + 1 < fuel := by simpa [tokens] using enough
      rw [tokens, List.cons_append, List.append_assoc]
      change (Token.takeFlowMembers? handles fuel true
          (memberTokens members ++ .flowMappingEnd :: rest) >>=
        fun taken => some (Node.mapping .none taken.1, taken.2)) = _
      rw [(takeFlowMembers?_tokens members inner rest).1]
      rfl

theorem takeFlowItems?_tokens : (items : List Data) → {fuel : Nat} →
    (itemTokens items).length + 1 < fuel → (rest : List Token) →
    Token.takeFlowItems? handles fuel true (itemTokens items ++ .flowSequenceEnd :: rest) =
      some (nodes items, rest) ∧
    (items ≠ [] → Token.takeFlowItems? handles fuel false
        (.flowEntry :: (itemTokens items ++ .flowSequenceEnd :: rest)) = some (nodes items, rest))
  | _, 0, enough, _ | _, 1, enough, _ => by omega
  | [], fuel + 2, _, _ => ⟨rfl, absurd rfl⟩
  | [item], fuel + 2, enough, rest => by
      obtain ⟨token, more, split, starts⟩ := item.exists_tokens_cons
      have composed := item.takeNode?_tokens (Nat.lt_of_succ_lt_succ enough) false false
        (.flowSequenceEnd :: rest)
      have closed : Token.takeFlowItems? handles (fuel + 1) false (.flowSequenceEnd :: rest) =
        some ([], rest) := rfl
      rw [split, List.cons_append] at composed
      have taken := takeFlowItems?_cons starts composed closed
      rw [itemTokens, split]
      exact ⟨taken.1, fun _ => taken.2⟩
  | item :: next :: items, fuel + 2, enough, rest => by
      obtain ⟨token, more, split, starts⟩ := item.exists_tokens_cons
      rw [itemTokens, List.length_append, List.length_cons] at enough
      have shorter : item.tokens.length < fuel + 1 := by omega
      have fewer : (itemTokens (next :: items)).length + 1 < fuel + 1 := by omega
      have composed := item.takeNode?_tokens shorter false false
        (.flowEntry :: (itemTokens (next :: items) ++ .flowSequenceEnd :: rest))
      have others := (takeFlowItems?_tokens (next :: items) fewer rest).2
        (List.cons_ne_nil next items)
      rw [split, List.cons_append] at composed
      have taken := takeFlowItems?_cons starts composed others
      rw [itemTokens, split, List.append_assoc]
      exact ⟨taken.1, fun _ => taken.2⟩

theorem takeFlowMembers?_tokens : (members : List (Name × Data)) → {fuel : Nat} →
    (memberTokens members).length + 1 < fuel → (rest : List Token) →
    Token.takeFlowMembers? handles fuel true (memberTokens members ++ .flowMappingEnd :: rest) =
      some (memberNodes members, rest) ∧
    (members ≠ [] → Token.takeFlowMembers? handles fuel false
        (.flowEntry :: (memberTokens members ++ .flowMappingEnd :: rest)) =
      some (memberNodes members, rest))
  | _, 0, enough, _ | _, 1, enough, _ => by omega
  | [], fuel + 2, _, _ => ⟨rfl, absurd rfl⟩
  | [(name, value)], fuel + 2, enough, rest => by
      obtain ⟨token, more, split, starts⟩ := value.exists_tokens_cons
      rw [memberTokens] at enough
      simp only [List.length_cons] at enough
      have shorter : value.tokens.length < fuel + 1 := by omega
      have composed := value.takeNode?_tokens shorter false false (.flowMappingEnd :: rest)
      have closed : Token.takeFlowMembers? handles (fuel + 1) false (.flowMappingEnd :: rest) =
        some ([], rest) := rfl
      rw [split, List.cons_append] at composed
      have taken := takeFlowMembers?_cons starts composed name.text.toList closed
      rw [memberTokens, split]
      exact ⟨taken.1, fun _ => taken.2⟩
  | (name, value) :: next :: members, fuel + 2, enough, rest => by
      obtain ⟨token, more, split, starts⟩ := value.exists_tokens_cons
      rw [memberTokens] at enough
      simp only [List.length_cons, List.length_append] at enough
      have shorter : value.tokens.length < fuel + 1 := by omega
      have fewer : (memberTokens (next :: members)).length + 1 < fuel + 1 := by omega
      have composed := value.takeNode?_tokens shorter false false
        (.flowEntry :: (memberTokens (next :: members) ++ .flowMappingEnd :: rest))
      have others := (takeFlowMembers?_tokens (next :: members) fewer rest).2
        (List.cons_ne_nil next members)
      rw [split, List.cons_append] at composed
      have taken := takeFlowMembers?_cons starts composed name.text.toList others
      rw [memberTokens, split]
      simp only [List.cons_append, List.append_assoc]
      exact ⟨taken.1, fun _ => taken.2⟩

end

mutual

/-- The node is linked; it binds no name. -/
theorem link?_node (bindings : Bindings) : (data : Data) →
    data.node.link? bindings = some (data.linked, bindings)
  | null | boolean _ | integer _ => rfl
  | text content => by
      rw [node, Node.link?, Properties.none, Bindings.bind, String.ofList_toList, linked]
  | list items => by
      rw [node, Node.link?, Properties.none, Bindings.bind]
      simp only [linkItems?_nodes bindings items, Option.bind_eq_bind, Option.bind_some, linked]
  | record members => by
      rw [node, Node.link?, Properties.none, Bindings.bind]
      simp only [linkMembers?_memberNodes bindings members, Option.bind_eq_bind, Option.bind_some,
        linked]

theorem linkItems?_nodes (bindings : Bindings) : (items : List Data) →
    Node.linkItems? bindings (nodes items) = some (links items, bindings)
  | [] => rfl
  | item :: rest => by
      rw [nodes, Node.linkItems?, link?_node bindings item]
      simp only [linkItems?_nodes bindings rest, Option.bind_eq_bind, Option.bind_some, links]

theorem linkMembers?_memberNodes (bindings : Bindings) : (members : List (Name × Data)) →
    Node.linkMembers? bindings (memberNodes members) = some (memberLinks members, bindings)
  | [] => rfl
  | (name, value) :: rest => by
      have named : (Node.scalar .none name.text.toList false).link? bindings =
          some (.scalar none none name.text false, bindings) := by
        rw [Node.link?, Properties.none, Bindings.bind, String.ofList_toList]
      rw [memberNodes, Node.linkMembers?, named]
      simp only [link?_node bindings value, linkMembers?_memberNodes bindings rest,
        Option.bind_eq_bind, Option.bind_some, memberLinks]

end

mutual

/-- All characters of the notation may stand in YAML. -/
theorem isAllowed_of_mem_compact : (data : Data) → ∀ c ∈ data.compact, isAllowed c = true
  | null | boolean true | boolean false => List.all_eq_true.mp (by decide)
  | integer value => by
      rw [compact, integerDigits_eq_text]
      exact fun c member => (forall_mem_literal _ _ c member).2.1
  | text content => by
      rw [compact, quoted_eq_write]
      exact Quoted.isAllowed_of_mem_write
  | list items => by
      rw [compact]
      exact List.forall_mem_cons.mpr ⟨rfl, List.forall_mem_append.mpr
        ⟨isAllowed_of_mem_compactItems items, List.forall_mem_singleton.mpr rfl⟩⟩
  | record members => by
      rw [compact]
      exact List.forall_mem_cons.mpr ⟨rfl, List.forall_mem_append.mpr
        ⟨isAllowed_of_mem_compactMembers members, List.forall_mem_singleton.mpr rfl⟩⟩

theorem isAllowed_of_mem_compactItems : (items : List Data) →
    ∀ c ∈ compactItems items, isAllowed c = true
  | [] => List.forall_mem_nil _
  | [item] => item.isAllowed_of_mem_compact
  | item :: next :: rest => by
      rw [compactItems]
      exact List.forall_mem_append.mpr ⟨item.isAllowed_of_mem_compact,
        List.forall_mem_cons.mpr ⟨rfl, isAllowed_of_mem_compactItems (next :: rest)⟩⟩

theorem isAllowed_of_mem_compactMembers : (members : List (Name × Data)) →
    ∀ c ∈ compactMembers members, isAllowed c = true
  | [] => List.forall_mem_nil _
  | [(name, value)] => by
      rw [compactMembers, quoted_eq_write name.toPrintable]
      exact List.forall_mem_append.mpr ⟨Quoted.isAllowed_of_mem_write,
        List.forall_mem_cons.mpr ⟨rfl, value.isAllowed_of_mem_compact⟩⟩
  | (name, value) :: next :: rest => by
      rw [compactMembers, quoted_eq_write name.toPrintable]
      exact List.forall_mem_append.mpr ⟨Quoted.isAllowed_of_mem_write,
        List.forall_mem_cons.mpr ⟨rfl, List.forall_mem_append.mpr ⟨value.isAllowed_of_mem_compact,
          List.forall_mem_cons.mpr ⟨rfl, isAllowed_of_mem_compactMembers (next :: rest)⟩⟩⟩⟩

end

/-- A record is read as its linked node. -/
theorem read?_record (members : List (Name × Data)) :
    Source.read? (record members).compact = some (.ofLinked (record members).linked) := by
  have scanned : Scans 1 true (compactMembers members ++ ['\x7d'])
      (memberTokens members ++ [.flowMappingEnd]) 0 false :=
    scansMembers members rfl fun _ => Scans.closeMapping
  have allowed := (record members).isAllowed_of_mem_compact
  have tokens := scanned.tokens?_eq fun c member => allowed c (List.mem_cons_of_mem _ member)
  have composed : node? (record members).compact = some (some (record members).node) := by
    have enough : (record members).tokens.length < 2 * (record members).tokens.length + 2 := by
      omega
    have taken := takeNode?_tokens .standard (record members) enough true false []
    rw [List.append_nil] at taken
    rw [node?, compact, tokens]
    change (Token.takeNode? .standard (2 * (record members).tokens.length + 2) true false
      (record members).tokens >>= fun taken =>
        if Token.allDocumentEnds taken.2 then some (some taken.1) else none) = _
    rw [taken]
    rfl
  rw [Source.read?, composed]
  simp only [link?_node, Option.bind_eq_bind, Option.bind_some]

section Content

variable (source : Source)

mutual

/-- The content of the linked node is what the data means, at every depth that suffices. -/
theorem content_linked : (data : Data) → {depth : Nat} → data.depth ≤ depth → (place : Decoding.Place) →
    source.content depth place data.linked = pure data.content
  | null, depth, _, place => by
      rw [linked, Source.content_scalar]
      rfl
  | boolean true, depth, _, place | boolean false, depth, _, place => by
      rw [linked, Source.content_scalar]
      rfl
  | integer value, depth, _, place => by
      rw [linked, Source.content_scalar, Atom.ofScalar, if_pos rfl, String.toList_ofList, compact,
        ofPlain_integerDigits]
      rfl
  | text content, depth, _, place => by rw [linked, Source.content_quoted, Data.content]
  | list _, 0, shallow, _ | record _, 0, shallow, _ => absurd shallow (Nat.not_succ_le_zero _)
  | list items, depth + 1, shallow, place => by
      have read := readItems_links items (Nat.le_of_succ_le_succ shallow) place 0
      change (Source.readItems (source.content depth) place 0 (links items) >>= fun contents =>
        pure (Decoding.Content.sequence contents)) = _
      rw [read]
      rfl
  | record members, depth + 1, shallow, place => by
      have read := readMembers_memberLinks members (Nat.le_of_succ_le_succ shallow) place
      change (Source.readMembers (source.content depth) place (memberLinks members) >>=
        fun contents => pure (Decoding.Content.mapping contents)) = _
      rw [read]
      rfl

theorem readItems_links : (items : List Data) → {depth : Nat} → depthOfItems items ≤ depth →
    (place : Decoding.Place) → (index : Nat) →
    Source.readItems (source.content depth) place index (links items) = pure (contents items)
  | [], _, _, _, _ => rfl
  | item :: rest, depth, shallow, place, index => by
      rw [depthOfItems, Nat.max_le] at shallow
      rw [links, Source.readItems, item.content_linked shallow.1, pure_bind,
        readItems_links rest shallow.2, pure_bind, contents]

theorem readMembers_memberLinks : (members : List (Name × Data)) → {depth : Nat} →
    depthOfMembers members ≤ depth → (place : Decoding.Place) →
    Source.readMembers (source.content depth) place (memberLinks members) =
      pure (memberContents members)
  | [], _, _, _ => rfl
  | (name, value) :: rest, depth, shallow, place => by
      rw [depthOfMembers, Nat.max_le] at shallow
      rw [memberLinks, Source.readMembers, Source.content_quoted, pure_bind,
        value.content_linked shallow.1, pure_bind, readMembers_memberLinks rest shallow.2,
        pure_bind, memberContents]

end

end Content

end Data

end FilterQuery.Compact
