import BoundSql.Yaml.BlockText
import BoundSql.Yaml.Plain
import BoundSql.Yaml.Property

/-!
# Tokens from text

A lexer reads one token at a time. Whether a token is a key shows only at the colon behind it, so
the lexer remembers for each level of brackets the last token that may turn out to be one; the
colon then puts the mark of a key in front of it. A candidate is given up at the end of its line
or after `keyLimit` characters. A block of entries must have its keys, so giving up a candidate at
its indentation is a fault.

`tokenStream` stops at the first fault. A token behind an open candidate cannot be used before it
is known whether a mark stands in front, so the stream ends before the first open candidate.
-/

namespace BoundSql.Yaml

/-- A token that may turn out to be a key. -/
structure Candidate where
  /-- The level of brackets. -/
  level : Nat
  /-- The count of tokens before it. -/
  number : Nat
  /-- It must be a key. -/
  required : Bool
  /-- The count of characters before it. -/
  index : Nat
  /-- Its line. -/
  line : Nat
  /-- Its column. -/
  column : Nat

/-- The state of a lexer. -/
structure Lexer where
  /-- Where it is in the text. -/
  cursor : Cursor
  /-- The count of open brackets and braces. -/
  level : Nat
  /-- The column of the innermost open block, below zero if none is open. -/
  indent : Int
  /-- The columns of the blocks around it. -/
  outer : List Int
  /-- A key may begin here. -/
  keyAllowed : Bool
  /-- The tokens that may turn out to be keys, one for a level at most. -/
  candidates : List Candidate
  /-- The tokens so far. -/
  tokens : Array Token
  /-- The end of the text has been read. -/
  done : Bool

namespace Lexer

/-- A lexer at the beginning of a text. -/
def start (cs : List Char) : Lexer := ⟨.start cs, 0, -1, [], true, [], #[], false⟩

/-- The greatest count of characters of a key. -/
def keyLimit : Nat := 1024

/-- A candidate can no longer be a key. -/
def isStale (lx : Lexer) (k : Candidate) : Bool :=
  k.line ≠ lx.cursor.line || keyLimit < lx.cursor.index - k.index

/-- Gives up the candidates that can no longer be keys. -/
def dropStale (lx : Lexer) : Except Fault Lexer :=
  if lx.candidates.any fun k => lx.isStale k && k.required then .error (.document .tokens)
  else .ok { lx with candidates := lx.candidates.filter fun k => !lx.isStale k }

/-- The candidate of the current level. -/
def candidate? (lx : Lexer) : Option Candidate :=
  lx.candidates.find? fun k => k.level == lx.level

/-- The lexer without the candidate of the current level. -/
def withoutCandidate (lx : Lexer) : Lexer :=
  { lx with candidates := lx.candidates.filter fun k => k.level != lx.level }

/-- Gives up the candidate of the current level. -/
def dropCandidate (lx : Lexer) : Except Fault Lexer :=
  if lx.candidate?.any Candidate.required then .error (.document .tokens)
  else .ok lx.withoutCandidate

/-- Remembers that the next token may be a key, if one may begin here. -/
def addCandidate (lx : Lexer) : Except Fault Lexer :=
  if lx.keyAllowed then do
    let lx ← lx.dropCandidate
    let c := lx.cursor
    let required := lx.level == 0 && lx.indent == c.column
    let k : Candidate := ⟨lx.level, lx.tokens.size, required, c.index, c.line, c.column⟩
    return { lx with candidates := k :: lx.candidates }
  else .ok lx

/-- Adds a token. -/
def push (token : Token) (lx : Lexer) : Lexer := { lx with tokens := lx.tokens.push token }

/-- Adds a token and moves on. -/
def take (token : Token) (count : Nat) (lx : Lexer) : Lexer :=
  { lx.push token with cursor := Cursor.skip count lx.cursor }

/-- Closes the blocks that begin right of a column. -/
def closeBlocks (column : Int) (lx : Lexer) : Lexer :=
  if lx.level ≠ 0 then lx
  else
    let columns := lx.indent :: lx.outer
    let closed := columns.takeWhile fun n => column < n
    match columns.drop closed.length with
    | indent :: outer =>
      { lx with
        indent, outer, tokens := closed.foldl (fun ts _ => ts.push .blockEnd) lx.tokens }
    | [] => lx

/-- Opens a block at a column unless one is open there, with a token at a place. -/
def openBlock (column : Nat) (token : Token) (place : Nat) (lx : Lexer) : Lexer :=
  if lx.indent < column then
    { lx with
      indent := column, outer := lx.indent :: lx.outer
      tokens := lx.tokens.insertIdxIfInBounds place token }
  else lx

/-- Opens a block where the lexer is. -/
def openBlockHere (token : Token) (lx : Lexer) : Lexer :=
  lx.openBlock lx.cursor.column token lx.tokens.size

/-- The end of the text. -/
def readEnd (lx : Lexer) : Except Fault Lexer := do
  let lx ← (lx.closeBlocks (-1)).dropCandidate
  return { lx.push .streamEnd with keyAllowed := false, candidates := [], done := true }

/-- A token that stands for the document as a whole. -/
def readOuter (token : Token) (count : Nat) (lx : Lexer) : Except Fault Lexer := do
  let lx ← (lx.closeBlocks (-1)).dropCandidate
  return { lx.take token count with keyAllowed := false }

/-- An opening bracket or brace. -/
def readOpening (token : Token) (lx : Lexer) : Except Fault Lexer := do
  let lx ← lx.addCandidate
  return { lx.take token 1 with level := lx.level + 1, keyAllowed := true }

/-- A closing bracket or brace. -/
def readClosing (token : Token) (lx : Lexer) : Except Fault Lexer := do
  let lx ← lx.dropCandidate
  return { lx.take token 1 with level := lx.level - 1, keyAllowed := false }

/-- A comma. -/
def readComma (lx : Lexer) : Except Fault Lexer := do
  let lx ← lx.dropCandidate
  return { lx.take .comma 1 with keyAllowed := true }

/-- The dash of an item. -/
def readItem (lx : Lexer) : Except Fault Lexer := do
  if lx.level == 0 && !lx.keyAllowed then throw (.document .tokens)
  let lx := if lx.level == 0 then lx.openBlockHere .blockListStart else lx
  let lx ← lx.dropCandidate
  return { lx.take .item 1 with keyAllowed := true }

/-- The question mark of a key. -/
def readKey (lx : Lexer) : Except Fault Lexer := do
  if lx.level == 0 && !lx.keyAllowed then throw (.document .tokens)
  let lx := if lx.level == 0 then lx.openBlockHere .blockMappingStart else lx
  let lx ← lx.dropCandidate
  return { lx.take .key 1 with keyAllowed := lx.level == 0 }

/-- The colon of a value. -/
def readValue (lx : Lexer) : Except Fault Lexer :=
  match lx.candidate? with
  | some k =>
    let lx := lx.withoutCandidate
    let lx := { lx with tokens := lx.tokens.insertIdxIfInBounds k.number .key }
    let lx := if lx.level == 0 then lx.openBlock k.column .blockMappingStart k.number else lx
    .ok { lx.take .value 1 with keyAllowed := false }
  | none => do
    if lx.level == 0 && !lx.keyAllowed then throw (.document .tokens)
    let lx := if lx.level == 0 then lx.openBlockHere .blockMappingStart else lx
    return { lx.take .value 1 with keyAllowed := lx.level == 0 }

/-- A token that may be a key and cannot be followed by one. -/
def readContent (read : List Char → Except Fault (Token × Nat)) (lx : Lexer) :
    Except Fault Lexer := do
  let lx ← lx.addCandidate
  let (token, count) ← read lx.cursor.rest
  return { lx.take token count with keyAllowed := false }

/-- A block scalar. -/
def readBlockScalar (folded : Bool) (lx : Lexer) : Except Fault Lexer := do
  let lx ← lx.dropCandidate
  let (text, cursor) ← readBlockText folded lx.indent lx.cursor.step
  return { lx.push (.scalar text false) with cursor, keyAllowed := true }

/-- A quoted scalar. -/
def readQuotedScalar (double : Bool) (cs : List Char) : Except Fault (Token × Nat) := do
  let (text, count) ← readQuoted double (.between .none) (cs.drop 1)
  return (.scalar text false, count + 1)

/-- A plain scalar. -/
def readPlainScalar (lx : Lexer) : Except Fault Lexer := do
  let lx ← lx.addCandidate
  let r := readPlain (lx.level != 0) (lx.indent + 1) .none lx.cursor.column lx.cursor.rest
  return { lx.take (.scalar r.text true) r.count with keyAllowed := r.crossesLine }

/-- A character that begins no plain scalar, whatever follows. -/
def isIndicator (c : Char) : Bool := ",[]\x7b\x7d#&*!|>'\"%@`".toList.contains c

/-- A plain scalar begins with the character. -/
def beginsPlain (inFlow : Bool) (c : Char) (next : Option Char) : Bool :=
  if c == '-' then !isGap next
  else if c == '?' || c == ':' then !inFlow && !isGap next
  else !isGap (some c) && !isIndicator c

/-- The marker of a document's start or end is ahead. -/
def atMarker (lx : Lexer) : Bool := lx.cursor.column == 0 && isMarker lx.cursor.rest

/-- Reads the token that begins with a character. -/
def readFrom (lx : Lexer) (c : Char) (next : Option Char) : Except Fault Lexer :=
  let inFlow := lx.level != 0
  if c == '%' && lx.cursor.column == 0 then
    match readDirective lx.cursor.rest with
    | .ok (token, count) => lx.readOuter token count
    | .error fault => .error fault
  else if c == '-' && lx.atMarker then lx.readOuter .documentStart 3
  else if c == '.' && lx.atMarker then lx.readOuter .documentEnd 3
  else if c == '[' then lx.readOpening .flowListStart
  else if c == '\x7b' then lx.readOpening .flowMappingStart
  else if c == ']' then lx.readClosing .flowListEnd
  else if c == '\x7d' then lx.readClosing .flowMappingEnd
  else if c == ',' then lx.readComma
  else if c == '-' && isGap next then lx.readItem
  else if c == '?' && (inFlow || isGap next) then lx.readKey
  else if c == ':' && (inFlow || isGap next) then lx.readValue
  else if c == '*' || c == '&' then lx.readContent readName
  else if c == '!' then lx.readContent readTag
  else if c == '|' && !inFlow then lx.readBlockScalar false
  else if c == '>' && !inFlow then lx.readBlockScalar true
  else if c == '\x27' then lx.readContent (readQuotedScalar false)
  else if c == '\x22' then lx.readContent (readQuotedScalar true)
  else if beginsPlain inFlow c next then lx.readPlainScalar
  else .error (.document .tokens)

/-- Moves on to the next token; behind a line break a key may begin. -/
def skipBlanks (lx : Lexer) : Lexer :=
  let cursor := Cursor.skip (blankLength false lx.cursor.rest) lx.cursor
  let crossed := cursor.line ≠ lx.cursor.line
  { lx with cursor, keyAllowed := lx.keyAllowed || (crossed && lx.level == 0) }

/-- Reads a token with the marks around it. -/
def readToken (lx : Lexer) : Except Fault Lexer := do
  let lx ← lx.skipBlanks.dropStale
  let lx := lx.closeBlocks lx.cursor.column
  let lx ←
    match lx.cursor.rest with
    | [] => lx.readEnd
    | c :: rest => lx.readFrom c rest.head?
  lx.dropStale

/-- The tokens that are known to be complete: those before the first candidate. -/
def settled (lx : Lexer) : List Token :=
  let first := lx.candidates.foldl (fun n k => min n k.number) lx.tokens.size
  lx.tokens.toList.take first

/-- Reads tokens up to the end or a fault; `fuel` bounds their count. -/
def run : Nat → Lexer → TokenStream
  | 0, lx => ⟨lx.settled, .document .tokens⟩
  | fuel + 1, lx =>
    if lx.done then ⟨lx.tokens.toList, .document .grammar⟩
    else
      match lx.readToken with
      | .ok next => run fuel next
      | .error fault => ⟨lx.settled, fault⟩

end Lexer

/-- The tokens of a text. Each but the last takes a character at least. -/
def tokenStream (cs : List Char) : TokenStream := Lexer.run (cs.length + 2) (.start cs)

end BoundSql.Yaml
