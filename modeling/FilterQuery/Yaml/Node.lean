import FilterQuery.Yaml.Layout
import FilterQuery.Yaml.Node.Basic

namespace FilterQuery.Yaml

namespace Token

/-- The properties at the start of some tokens, in either order, and the tokens behind them. -/
def takeProperties? (handles : Handles) : List Token → Option (Properties × List Token)
  | .anchor name :: .tag written :: rest =>
      (handles.resolve? written).map fun tag => (⟨some name, some tag⟩, rest)
  | .tag written :: .anchor name :: rest =>
      (handles.resolve? written).map fun tag => (⟨some name, some tag⟩, rest)
  | .anchor name :: rest => some (⟨some name, none⟩, rest)
  | .tag written :: rest => (handles.resolve? written).map fun tag => (⟨none, some tag⟩, rest)
  | tokens => some (.none, tokens)

/-- The next token ends an item of a block sequence. -/
def endsEntry : List Token → Bool
  | .blockEntry :: _ | .blockEnd :: _ => true
  | _ => false

/-- The next token ends a key or a value of a block mapping. -/
def endsPart : List Token → Bool
  | .key :: _ | .value :: _ | .blockEnd :: _ => true
  | _ => false

/-- The next token ends an item of a sequence without indentation of its own. -/
def endsBareEntry (tokens : List Token) : Bool := endsEntry tokens || endsPart tokens

/-- The next token ends a value between brackets that the given token closes. -/
def endsFlowValue (closing : Token) : List Token → Bool
  | .flowEntry :: _ => true
  | token :: _ => token == closing
  | [] => false

/-- The next token ends a key between brackets that the given token closes. -/
def endsFlowKey (closing : Token) (tokens : List Token) : Bool :=
  tokens.head? == some .value || endsFlowValue closing tokens

mutual

/-- Composes the node at the start of some tokens. Blocks may start only where `block` permits it,
a sequence without indentation of its own only where `bare` does. -/
def takeNode? (handles : Handles) :
    Nat → (block bare : Bool) → List Token → Option (Node × List Token)
  | 0, _, _, _ => none
  | _ + 1, _, _, .alias name :: rest => some (.alias name, rest)
  | fuel + 1, block, bare, tokens => do
      let (properties, tokens) ← takeProperties? handles tokens
      match tokens with
      | .scalar text plain :: rest => some (.scalar properties text plain, rest)
      | .flowSequence :: rest => do
          let (items, rest) ← takeFlowItems? handles fuel true rest
          some (.sequence properties items, rest)
      | .flowMapping :: rest => do
          let (members, rest) ← takeFlowMembers? handles fuel true rest
          some (.mapping properties members, rest)
      | .blockEntry :: _ =>
          if bare then do
            let (items, rest) ← takeBareItems? handles fuel tokens
            some (.sequence properties items, rest)
          else if properties == .none then none
          else some (.scalar properties [] true, tokens)
      | .blockSequence :: rest =>
          if block then do
            let (items, rest) ← takeItems? handles fuel rest
            some (.sequence properties items, rest)
          else if properties == .none then none
          else some (.scalar properties [] true, tokens)
      | .blockMapping :: rest =>
          if block then do
            let (members, rest) ← takeMembers? handles fuel rest
            some (.mapping properties members, rest)
          else if properties == .none then none
          else some (.scalar properties [] true, tokens)
      | _ =>
          if properties == .none then none else some (.scalar properties [] true, tokens)

/-- Composes the items of a block sequence up to its end. -/
def takeItems? (handles : Handles) : Nat → List Token → Option (List Node × List Token)
  | 0, _ => none
  | fuel + 1, tokens =>
      match tokens with
      | .blockEntry :: rest => do
          let (item, rest) ←
            if endsEntry rest then some (Node.empty, rest)
            else takeNode? handles fuel true false rest
          let (items, rest) ← takeItems? handles fuel rest
          some (item :: items, rest)
      | .blockEnd :: rest => some ([], rest)
      | _ => none

/-- Composes the items of a sequence without indentation of its own. -/
def takeBareItems? (handles : Handles) : Nat → List Token → Option (List Node × List Token)
  | 0, _ => none
  | fuel + 1, tokens =>
      match tokens with
      | .blockEntry :: rest => do
          let (item, rest) ←
            if endsBareEntry rest then some (Node.empty, rest)
            else takeNode? handles fuel true false rest
          let (items, rest) ← takeBareItems? handles fuel rest
          some (item :: items, rest)
      | _ => some ([], tokens)

/-- Composes the members of a block mapping up to its end. -/
def takeMembers? (handles : Handles) : Nat → List Token → Option (List (Node × Node) × List Token)
  | 0, _ => none
  | fuel + 1, tokens =>
      match tokens with
      | .key :: rest => do
          let (name, rest) ←
            if endsPart rest then some (Node.empty, rest)
            else takeNode? handles fuel true true rest
          let (content, rest) ←
            match rest with
            | .value :: rest =>
                if endsPart rest then some (Node.empty, rest)
                else takeNode? handles fuel true true rest
            | _ => some (Node.empty, rest)
          let (members, rest) ← takeMembers? handles fuel rest
          some ((name, content) :: members, rest)
      | .blockEnd :: rest => some ([], rest)
      | _ => none

/-- Composes the items of a sequence between brackets. A key in it makes a mapping of one member;
where such a key is empty, the token behind it is passed over. -/
def takeFlowItems? (handles : Handles) :
    Nat → Bool → List Token → Option (List Node × List Token)
  | 0, _, _ => none
  | fuel + 1, first, tokens =>
      match tokens with
      | .flowSequenceEnd :: rest => some ([], rest)
      | _ => do
          let tokens ←
            if first then some tokens
            else match tokens with
              | .flowEntry :: rest => some rest
              | _ => none
          match tokens with
          | .flowSequenceEnd :: rest => some ([], rest)
          | .key :: rest => do
              let (name, rest) ←
                if endsFlowKey .flowSequenceEnd rest then some (Node.empty, rest.drop 1)
                else takeNode? handles fuel false false rest
              let (content, rest) ←
                match rest with
                | .value :: rest =>
                    if endsFlowValue .flowSequenceEnd rest then some (Node.empty, rest)
                    else takeNode? handles fuel false false rest
                | _ => some (Node.empty, rest)
              let (items, rest) ← takeFlowItems? handles fuel false rest
              some (.mapping .none [(name, content)] :: items, rest)
          | _ => do
              let (item, rest) ← takeNode? handles fuel false false tokens
              let (items, rest) ← takeFlowItems? handles fuel false rest
              some (item :: items, rest)

/-- Composes the members of a mapping between brackets. -/
def takeFlowMembers? (handles : Handles) :
    Nat → Bool → List Token → Option (List (Node × Node) × List Token)
  | 0, _, _ => none
  | fuel + 1, first, tokens =>
      match tokens with
      | .flowMappingEnd :: rest => some ([], rest)
      | _ => do
          let tokens ←
            if first then some tokens
            else match tokens with
              | .flowEntry :: rest => some rest
              | _ => none
          match tokens with
          | .flowMappingEnd :: rest => some ([], rest)
          | .key :: rest => do
              let (name, rest) ←
                if endsFlowKey .flowMappingEnd rest then some (Node.empty, rest)
                else takeNode? handles fuel false false rest
              let (content, rest) ←
                match rest with
                | .value :: rest =>
                    if endsFlowValue .flowMappingEnd rest then some (Node.empty, rest)
                    else takeNode? handles fuel false false rest
                | _ => some (Node.empty, rest)
              let (members, rest) ← takeFlowMembers? handles fuel false rest
              some ((name, content) :: members, rest)
          | _ => do
              let (name, rest) ← takeNode? handles fuel false false tokens
              let (members, rest) ← takeFlowMembers? handles fuel false rest
              some ((name, Node.empty) :: members, rest)

end

/-- The handles that directives declare, in front of the standard ones. A version is 1.1 or 1.2,
and neither a version nor a handle is given twice. -/
def takeDirectives? : Bool → Handles → List Token → Option (Handles × List Token)
  | versioned, declared, .directive (.version major minor) :: rest =>
      if versioned || major != 1 || (minor != 1 && minor != 2) then none
      else takeDirectives? true declared rest
  | versioned, declared, .directive (.handle name meaning) :: rest =>
      if declared.any fun entry => entry.1 == name then none
      else takeDirectives? versioned (declared ++ [(name, meaning)]) rest
  | _, declared, tokens => some (declared ++ Handles.standard, tokens)

/-- The next token ends a document. -/
def endsDocument : List Token → Bool
  | [] | .directive _ :: _ | .documentStart :: _ | .documentEnd :: _ => true
  | _ => false

/-- Composes the document at the start of some tokens. -/
def takeDocument? (tokens : List Token) : Option (Node × List Token) :=
  let fuel := 2 * tokens.length + 2
  match tokens with
  | .directive _ :: _ | .documentStart :: _ => do
      let (handles, rest) ← takeDirectives? false [] tokens
      match rest with
      | .documentStart :: rest =>
          if endsDocument rest then some (.empty, rest) else takeNode? handles fuel true false rest
      | _ => none
  | _ => takeNode? .standard fuel true false tokens

def allDocumentEnds (tokens : List Token) : Bool := tokens.all (· == .documentEnd)

end Token

/-- The node of a text with one document; a text without any has no node. -/
def node? (text : List Char) : Option (Option Node) := do
  match ← tokens? text with
  | [] => some none
  | tokens =>
      let (node, rest) ← Token.takeDocument? tokens
      if Token.allDocumentEnds rest then some (some node) else none

end FilterQuery.Yaml
