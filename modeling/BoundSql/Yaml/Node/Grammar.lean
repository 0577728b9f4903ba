import BoundSql.Named
import BoundSql.Yaml.Scalar
import BoundSql.Yaml.Token

/-!
# Nodes from tokens

The grammar of documents, by recursive descent: one token decides what comes next. A node may be
given a name, and a later place may ask for the node of that name. A text holds one document at
most; `Node.ofTokens?` refuses a second one. Nodes nested deeper than `depthLimit` are not read.
-/

namespace BoundSql.Yaml

/-- What a reader of structure works on. -/
structure Reader where
  /-- The tokens that are left. -/
  tokens : List Token
  /-- What is wrong behind them. -/
  ending : Fault
  /-- The nodes that have names. -/
  anchors : List (String × Node)
  /-- The handles of tags that are known, with the beginnings they stand for. -/
  handles : List (String × String)
  /-- How deep nodes may still be nested. -/
  depth : Nat

/-- A step of reading structure. -/
abbrev Parse (α : Type) := StateT Reader (Except Fault) α

namespace Parse

/-- A token stands where it must not. -/
def misplaced {α : Type} : Parse α := throw (.document .grammar)

/-- The next token, which stays. -/
def peek : Parse Token := do
  let r ← get
  match r.tokens with
  | token :: _ => return token
  | [] => throw r.ending

/-- Leaves the next token behind. -/
def advance : Parse Unit := modify fun r => { r with tokens := r.tokens.drop 1 }

/-- The greatest depth of nodes in each other. -/
def depthLimit : Nat := 490

/-- Reads something one level further in. -/
def deeper {α : Type} (inside : Parse α) : Parse α := do
  let r ← get
  if r.depth = 0 then throw (.scalar .endless)
  set { r with depth := r.depth - 1 }
  let a ← inside
  modify fun s => { s with depth := r.depth }
  return a

/-- The name in front of a node. -/
def anchor? : Parse (Option String) := do
  match ← peek with
  | .anchor name => do
    advance
    return some name
  | _ => return none

/-- The tag in front of a node. -/
def tag? : Parse (Option (Option String × String)) := do
  match ← peek with
  | .tag handle suffix => do
    advance
    return some (handle, suffix)
  | _ => return none

/-- What stands in front of a node. -/
structure Properties where
  /-- Its name. -/
  anchor : Option String
  /-- Its tag in full. -/
  tag : Option String

/-- A tag in full; its handle must be known. -/
def fullTag : Option String × String → Parse String
  | (none, suffix) => return suffix
  | (some handle, suffix) => do
    match (← get).handles.lookup handle with
    | some beginning => return beginning ++ suffix
    | none => misplaced

/-- A name and a tag in either order. -/
def properties : Parse Properties := do
  let early ← anchor?
  let tag ← tag?
  let anchor ← if early.isNone && tag.isSome then anchor? else pure early
  match tag with
  | some tag => return ⟨anchor, some (← fullTag tag)⟩
  | none => return ⟨anchor, none⟩

/-- The kind that a tag names; the lone exclamation mark leaves it to the form of the node. -/
def Properties.kind? (p : Properties) : Option Kind :=
  match p.tag with
  | some "!" => none
  | some tag => some (Kind.ofTag tag)
  | none => none

/-- Gives a node its name. -/
def register (p : Properties) (node : Node) : Parse Unit :=
  match p.anchor with
  | some name => modify fun r => { r with anchors := putNamed name node r.anchors }
  | none => pure ()

/-- Refuses a name that another node has. -/
def claim (p : Properties) : Parse Unit := do
  let r ← get
  match p.anchor with
  | some name => if (r.anchors.lookup name).isSome then throw (.document .references)
  | none => pure ()

/-- Reads the members of a node, one level further in. The node has its name already there. -/
def members {α : Type} (p : Properties) (kind : Kind) (isMapping : Bool)
    (make : Kind → α → Node) (inside : Parse α) : Parse Node := do
  claim p
  let kind := p.kind?.getD kind
  register p (.again kind isMapping)
  make kind <$> deeper inside

/-- Reads the items of a list. -/
def listOf (p : Properties) (items : Parse (List Node)) : Parse Node :=
  members p .list false Node.list items

/-- Reads the entries of a mapping. -/
def mappingOf (p : Properties) (entries : Parse (List (Node × Node))) : Parse Node :=
  members p .mapping true Node.mapping entries

/-- A node that is not there. -/
def absent : Node := .scalar .null []

/-- A scalar with its properties. -/
def scalar (p : Properties) (text : List Char) (plain : Bool) : Node :=
  let own := if plain || p.tag.isSome then Scalar.kind text else .text
  .scalar (p.kind?.getD own) text

/-- Properties without a node of their own stand for an empty scalar. -/
def lone (p : Properties) : Parse Node :=
  if p.anchor.isNone && p.tag.isNone then misplaced
  else do
    claim p
    pure (scalar p [] true)

/-- The comma before all members but the first. -/
def separator (first : Bool) : Parse Unit := do
  if first then return ()
  match ← peek with
  | .comma => advance
  | _ => misplaced

mutual
/-- A node; `inBlock` where blocks may stand and `bareItems` where items may stand without a
block of their own. `fuel` bounds the count of steps. -/
def node : Nat → Bool → Bool → Parse Node
  | 0, _, _ => misplaced
  | fuel + 1, inBlock, bareItems => do
    match ← peek with
    | .alias name => do
      advance
      match (← get).anchors.lookup name with
      | some node => return node
      | none => throw (.document .references)
    | _ => do
      let p ← properties
      let node ←
        match ← peek with
        | .item =>
          if bareItems then do
            listOf p (bareList fuel)
          else lone p
        | .scalar text plain => do
          advance
          claim p
          pure (scalar p text plain)
        | .flowListStart => do
          advance
          listOf p (flowList fuel true)
        | .flowMappingStart => do
          advance
          mappingOf p (flowMapping fuel true)
        | .blockListStart =>
          if inBlock then do
            advance
            listOf p (blockList fuel)
          else lone p
        | .blockMappingStart =>
          if inBlock then do
            advance
            mappingOf p (blockMapping fuel)
          else lone p
        | _ => lone p
      register p node
      return node
/-- The items of a block, its end included. -/
def blockList : Nat → Parse (List Node)
  | 0 => misplaced
  | fuel + 1 => do
    match ← peek with
    | .item => do
      advance
      let next ← peek
      let item ←
        if next = .item || next = .blockEnd then pure absent else node fuel true false
      return item :: (← blockList fuel)
    | .blockEnd => do
      advance
      return []
    | _ => misplaced
/-- The items at the column of the key before them. -/
def bareList : Nat → Parse (List Node)
  | 0 => misplaced
  | fuel + 1 => do
    match ← peek with
    | .item => do
      advance
      let next ← peek
      let item ←
        if [.item, .key, .value, .blockEnd].contains next then pure absent
        else node fuel true false
      return item :: (← bareList fuel)
    | _ => return []
/-- A key or a value in a block. -/
def entryPart : Nat → Parse Node
  | 0 => misplaced
  | fuel + 1 => do
    advance
    let next ← peek
    if [.key, .value, .blockEnd].contains next then return absent else node fuel true true
/-- The entries of a block, its end included. -/
def blockMapping : Nat → Parse (List (Node × Node))
  | 0 => misplaced
  | fuel + 1 => do
    match ← peek with
    | .key => do
      let key ← entryPart fuel
      let value ← if (← peek) = .value then entryPart fuel else pure absent
      return (key, value) :: (← blockMapping fuel)
    | .blockEnd => do
      advance
      return []
    | _ => misplaced
/-- A key or a value between brackets; `closing` ends the list or mapping around it. -/
def flowPart : Nat → Token → List Token → Parse Node
  | 0, _, _ => misplaced
  | fuel + 1, closing, more => do
    advance
    let next ← peek
    if (.comma :: closing :: more).contains next then return absent else node fuel false false
/-- The value behind a key between brackets. -/
def flowValue : Nat → Token → Parse Node
  | 0, _ => misplaced
  | fuel + 1, closing => do
    if (← peek) = .value then flowPart fuel closing [] else return absent
/-- The items between brackets, the closing one included. -/
def flowList : Nat → Bool → Parse (List Node)
  | 0, _ => misplaced
  | fuel + 1, first => do
    if (← peek) = .flowListEnd then
      advance
      return []
    separator first
    match ← peek with
    | .flowListEnd => do
      advance
      return []
    | .key => do
      let (key, value) ← deeper do
        let key ← flowPart fuel .flowListEnd [.value]
        return (key, ← flowValue fuel .flowListEnd)
      return .mapping .mapping [(key, value)] :: (← flowList fuel false)
    | _ => do
      let item ← node fuel false false
      return item :: (← flowList fuel false)
/-- The entries between braces, the closing one included. -/
def flowMapping : Nat → Bool → Parse (List (Node × Node))
  | 0, _ => misplaced
  | fuel + 1, first => do
    if (← peek) = .flowMappingEnd then
      advance
      return []
    separator first
    match ← peek with
    | .flowMappingEnd => do
      advance
      return []
    | .key => do
      let key ← flowPart fuel .flowMappingEnd [.value]
      let value ← flowValue fuel .flowMappingEnd
      return (key, value) :: (← flowMapping fuel false)
    | _ => do
      let key ← node fuel false false
      return (key, absent) :: (← flowMapping fuel false)
end

/-- Leaves the ends of documents behind. -/
def skipEnds : Nat → Parse Unit
  | 0 => pure ()
  | n + 1 => do
    if (← peek) = .documentEnd then
      advance
      skipEnds n

/-- The handles that are known without a directive. -/
def usualHandles : List (String × String) := [("!", "!"), ("!!", Kind.tagBeginning)]

/-- The directives in front of a document, with whether the version has been given. -/
def directives : Nat → Bool → List (String × String) → Parse Unit
  | 0, _, _ => pure ()
  | n + 1, versioned, handles => do
    match ← peek with
    | .version major => do
      advance
      if versioned || major ≠ 1 then misplaced else directives n true handles
    | .tagHandle handle beginning => do
      advance
      if (handles.lookup handle).isSome then misplaced
      else directives n versioned ((handle, beginning) :: handles)
    | .reserved => do
      advance
      directives n versioned handles
    | _ => modify fun r => { r with handles := handles ++ usualHandles }

/-- The marker of a document's start, with the directives before it. -/
def documentStart : Parse Unit := do
  directives (← get).tokens.length false []
  match ← peek with
  | .documentStart => advance
  | _ => misplaced

/-- The node behind the marker of a document's start. -/
def content (fuel : Nat) : Parse Node := do
  match ← peek with
  | .version _ | .tagHandle _ _ | .reserved => return absent
  | .documentStart | .documentEnd | .streamEnd => return absent
  | _ => node fuel true false

/-- The only document of a text, if there is one. -/
def document : Parse (Option Node) := do
  let count := (← get).tokens.length
  let fuel := 4 * count + 8
  let root ←
    match ← peek with
    | .streamEnd => return none
    | .version _ | .tagHandle _ _ | .reserved | .documentStart => do
      documentStart
      content fuel
    | _ => node fuel true false
  skipEnds count
  match ← peek with
  | .streamEnd => return some root
  | _ => do
    documentStart
    throw (.document .references)

end Parse

/-- The node of a text's only document. -/
def Node.ofTokens? (s : TokenStream) : Except Fault (Option Node) :=
  (Parse.document.run ⟨s.tokens, s.ending, [], Parse.usualHandles, Parse.depthLimit⟩).map Prod.fst

end BoundSql.Yaml
