import BoundSql.Value.Equality
import BoundSql.Yaml.Node.Grammar
import BoundSql.Yaml.Token.Lexer

/-!
# Documents

The value of a document. A mapping may take over the entries of others behind the key `<<`; keys
must not be lists or mappings. Of several faults the one in the node nearest the root counts, and
of those in nodes equally near the first.
-/

namespace BoundSql.Yaml

/-- A character that may stand in a document. -/
def isDocumentChar (c : Char) : Bool :=
  let n := c.toNat
  n == 9 || n == 10 || n == 13 || (32 ≤ n && n ≤ 0x7e) || n == 0x85 ||
    (0xa0 ≤ n && n ≤ 0xfffd) || 0x10000 ≤ n

/-- A text whose lines all end in one way. -/
def unifyBreaks : List Char → List Char
  | '\r' :: '\n' :: rest => '\n' :: unifyBreaks rest
  | '\r' :: rest => '\n' :: unifyBreaks rest
  | c :: rest => c :: unifyBreaks rest
  | [] => []

/-- A value, or a fault with the distance of its node from the root. -/
abbrev Built (α : Type) := Except (Nat × Fault) α

namespace Built

variable {α β : Type}

/-- Applies a function; of two faults the nearer one counts, of equally near ones the first. -/
def apply : Built (α → β) → Built α → Built β
  | .ok f, .ok a => .ok (f a)
  | .ok _, .error fault => .error fault
  | .error fault, .ok _ => .error fault
  | .error fault, .error other => .error (if other.1 < fault.1 then other else fault)

/-- A result within a node at a distance from the root. -/
def within (depth : Nat) (r : Except Fault α) : Built α := r.mapError fun fault => (depth, fault)

/-- All members of a list, each built on its own. -/
def all (build : β → Built α) : List β → Built (List α)
  | [] => .ok []
  | b :: rest => (apply (.ok List.cons) (build b)).apply (all build rest)

end Built

/-- The entries of the nodes that a mapping takes over. -/
abbrev Entries := List (Node × Node)

/-- The entries of a mapping; one around this place has none yet. -/
def Node.entries? : Node → Option Entries
  | .mapping _ entries => some entries
  | .again _ true => some []
  | _ => none

/-- The mappings behind the key of a merge; of a list the last one comes first. -/
def mergeSources : Node → Option (List Entries)
  | .list _ items => (items.mapM Node.entries?).map List.reverse
  | .again _ false => some []
  | node => node.entries?.map ([·])

/-- The entries of a mapping with those that it takes over in front; `fuel` bounds the nesting. -/
def mergedEntries : Nat → Entries → Except Fault Entries
  | 0, _ => .error (.document .values)
  | fuel + 1, entries => do
    let own := entries.filter fun e => e.1.kind ≠ .merge
    let merges := entries.filter fun e => e.1.kind = .merge
    let taken ← merges.mapM fun e =>
      match mergeSources e.2 with
      | some sources => (sources.mapM (mergedEntries fuel)).map List.flatten
      | none => .error (.document .values)
    return taken.flatten ++ own

/-- A key that stands for the value of its mapping is a text as any other. -/
def Node.asKey : Node → Node
  | .scalar .default text => .scalar .text text
  | node => node

/-- The text of a node that stands for a scalar: its own, or that of a value in a mapping;
`fuel` bounds the nesting. -/
def Node.text? : Nat → Node → Option (List Char)
  | _, .scalar _ text => some text
  | fuel + 1, .mapping _ entries =>
    (entries.find? fun e => e.1.kind = .default).bind fun e => Node.text? fuel e.2
  | _, _ => none

/-- The value of a node that stands for a scalar. -/
def Node.scalarValue (fuel : Nat) (node : Node) : Except Fault Value :=
  match node.kind, node, node.text? fuel with
  | kind, .scalar _ text, _ => Scalar.read kind text
  | .moment, _, some _ =>
    .error (.scalar (.raised "TypeError" "expected string or bytes-like object, got 'list'"))
  | kind, _, some text => Scalar.read kind text
  | _, _, none => .error (.document .values)

mutual
/-- The value of a node at a distance from the root; `fuel` bounds the nesting. A fault of a
scalar counts as one of the node around it. -/
def Node.value : Nat → Nat → Node → Built Value
  | 0, depth, _ => .error (depth, .document .values)
  | fuel + 1, depth, node =>
    match node.kind, node with
    | _, .again _ _ => .ok .unknown
    | .list, .list _ items =>
      (Built.apply (.ok Value.list)) (Built.all (Node.value fuel (depth + 1)) items)
    | .pairs, .list _ items =>
      (Built.apply (.ok Value.list)) (Built.all (Node.pair fuel depth) items)
    | .mapping, .mapping _ entries =>
      Built.apply (.ok Value.mapping) (Node.fields fuel depth entries)
    | .set, .mapping _ entries =>
      Built.apply (.ok fun fields => Value.set (Fields.keys fields))
        (Node.fields fuel depth entries)
    | kind, node =>
      if kind.hasMembers then .error (depth, .document .values)
      else Built.within (depth - 1) (node.scalarValue fuel)
/-- The pair of a mapping with one entry. -/
def Node.pair : Nat → Nat → Node → Built Value
  | 0, depth, _ => .error (depth, .document .values)
  | fuel + 1, depth, .mapping _ [(key, value)] =>
    let pair := fun k v => Value.tuple [k, v]
    (Built.apply (.ok pair) (Node.value fuel (depth + 1) key)).apply
      (Node.value fuel (depth + 1) value)
  | _ + 1, depth, _ => .error (depth, .document .values)
/-- The fields of a mapping. -/
def Node.fields : Nat → Nat → Entries → Built Fields
  | 0, depth, _ => .error (depth, .document .values)
  | fuel + 1, depth, entries =>
    match mergedEntries (fuel + 1) entries with
    | .error fault => .error (depth, fault)
    | .ok merged =>
      Built.apply (.ok Fields.ofPairs)
        (Built.all (fun e : Node × Node =>
          let key : Built Value :=
            if e.1.kind.hasMembers then .error (depth, .document .values)
            else Node.value fuel (depth + 1) e.1.asKey
          (Built.apply (.ok Prod.mk) key).apply (Node.value fuel (depth + 1) e.2)) merged)
end

mutual
/-- The part of a value in front of the first member that has no end, and whether there is one. -/
def finitePart : Value → Value × Bool
  | .unknown => (.null, true)
  | .list items =>
    let (part, cut) := finiteItems items
    (.list part, cut)
  | .mapping fields =>
    let (part, cut) := finiteFields fields
    (.mapping part, cut)
  | v => (v, false)
/-- The items in front of the first one without an end, and the part of that one. -/
def finiteItems : List Value → List Value × Bool
  | [] => ([], false)
  | v :: rest =>
    let (part, cut) := finitePart v
    if cut then ([part], true)
    else
      let (more, cut) := finiteItems rest
      (part :: more, cut)
/-- The fields in front of the first one without an end, and the part of that one. -/
def finiteFields : List (Value × Value) → List (Value × Value) × Bool
  | [] => ([], false)
  | (key, v) :: rest =>
    let (part, cut) := finitePart v
    if cut then ([(key, part)], true)
    else
      let (more, cut) := finiteFields rest
      ((key, part) :: more, cut)
end

/-- The value of a document; null if there is none. A node that is a member of itself is one of no
known class there. -/
def read (document : String) : Except Fault Value := do
  let cs := unifyBreaks document.toList
  if !cs.all isDocumentChar then throw (.document .characters)
  match ← Node.ofTokens? (tokenStream cs) with
  | none => return .null
  | some root => (Node.value (2 * cs.length + 2) 0 root).mapError Prod.snd

end BoundSql.Yaml
