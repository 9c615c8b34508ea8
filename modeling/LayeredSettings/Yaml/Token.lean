import LayeredSettings.Yaml.Block
import LayeredSettings.Yaml.Plain
import LayeredSettings.Yaml.Property
import LayeredSettings.Yaml.Quoted

namespace LayeredSettings.Yaml

/-- The parts of a document. Indentation shows as the start and end of collections,
and a key as such even where only the colon after it told. A fault stands where
reading ended for it. -/
inductive Token where
  | directive (d : Directive)
  | documentStart
  | documentEnd
  | blockList
  | blockMap
  | blockEnd
  | flowList
  | flowListEnd
  | flowMap
  | flowMapEnd
  | item
  | comma
  | key
  | value
  | alias (name : List Char)
  | anchor (name : List Char)
  | tag (name : TagName)
  | scalar (plain : Bool) (text : List Char)
  | fault (f : YamlFault)
  deriving DecidableEq

/-- A place in a text: what is left of it, and where that is. -/
structure Cursor where
  rest : List Char
  index : Nat
  line : Nat
  column : Nat

namespace Cursor

/-- Moves over one character. A carriage return ends a line only without a line feed
after it, and a byte order mark has no width. -/
def advance (c : Cursor) : Cursor :=
  match c.rest with
  | [] => c
  | ch :: rest =>
    if isBreak ch && !(ch == '\r' && rest.head? = some '\n') then ⟨rest, c.index + 1, c.line + 1, 0⟩
    else ⟨rest, c.index + 1, c.line, if ch = '\uFEFF' then c.column else c.column + 1⟩

/-- Moves on until only the given text is left. -/
def moveTo (c : Cursor) (rest : List Char) : Cursor :=
  (List.range (c.rest.length - rest.length)).foldl (fun c _ => c.advance) c

end Cursor

/-- A token that becomes a key if a colon follows on its line: its number, its place,
and whether it stands where only a key can. -/
structure OpenKey where
  number : Nat
  index : Nat
  line : Nat
  column : Nat
  required : Bool

/-- Whether a place is too far from an open key for its colon. -/
def OpenKey.isStale (k : OpenKey) (c : Cursor) : Bool := k.line ≠ c.line || c.index - k.index > 1024

/-- What is known between two tokens: the place, how many brackets are open, the
columns of the block collections around it, whether a key may stand next, the open
key of each depth of brackets, and the tokens so far with the last one first. -/
structure TokenState where
  cursor : Cursor
  depth : Nat
  columns : List Nat
  keyAllowed : Bool
  openKeys : List (Nat × OpenKey)
  tokens : List Token

abbrev TokenReader := ExceptT YamlFault (StateM TokenState)

namespace TokenReader

def malformed : TokenReader α := throw .malformed

def emit (t : Token) : TokenReader Unit := modify fun s => { s with tokens := t :: s.tokens }

def moveTo (rest : List Char) : TokenReader Unit :=
  modify fun s => { s with cursor := s.cursor.moveTo rest }

def allowKey (allowed : Bool) : TokenReader Unit := modify fun s => { s with keyAllowed := allowed }

/-- Puts a token in front of the one with the given number. -/
def insertAt (number : Nat) (t : Token) : TokenReader Unit :=
  modify fun s => { s with tokens := s.tokens.insertIdx (s.tokens.length - number) t }

/-- Gives up open keys whose colon has to be on their line and near, and has not
come. -/
def dropStaleKeys : TokenReader Unit := do
  let s ← get
  if s.openKeys.any fun k => k.2.isStale s.cursor && k.2.required then malformed
  modify fun s => { s with openKeys := s.openKeys.filter fun k => !k.2.isStale s.cursor }

/-- Gives up the open key between the innermost brackets. -/
def dropKey : TokenReader Unit := do
  let s ← get
  if s.openKeys.any fun k => k.1 = s.depth && k.2.required then malformed
  modify fun s => { s with openKeys := s.openKeys.filter (·.1 ≠ s.depth) }

/-- Holds the next token for a key where one is allowed. -/
def openKey : TokenReader Unit := do
  let s ← get
  if s.keyAllowed then
    dropKey
    let c := s.cursor
    let required := s.depth = 0 ∧ s.columns.head? = some c.column
    let key : OpenKey := ⟨s.tokens.length, c.index, c.line, c.column, required⟩
    modify fun s => { s with openKeys := (s.depth, key) :: s.openKeys }

/-- Ends the block collections that stand right of a column, outside of brackets. -/
def closeBlocks (beyond : Nat → Bool) : TokenReader Unit := do
  let s ← get
  if s.depth = 0 then
    for _ in s.columns.takeWhile beyond do emit .blockEnd
    modify fun s => { s with columns := s.columns.dropWhile beyond }

/-- Starts a block collection, with its token as the one of a number, if there is none
yet that stands at the column or right of it. -/
def openBlock (column number : Nat) (start : Token) : TokenReader Unit := do
  let s ← get
  if s.columns.head?.all (· < column) then
    modify fun s => { s with columns := column :: s.columns }
    insertAt number start

/-- Starts a block collection at the next token, where a key may stand. -/
def openBlockHere (start : Token) : TokenReader Unit := do
  let s ← get
  if s.depth = 0 then
    if !s.keyAllowed then malformed
    openBlock s.cursor.column s.tokens.length start

/-- Reads a mark of some characters. -/
def mark (length : Nat) (t : Token) : TokenReader Unit := do
  moveTo ((← get).cursor.rest.drop length)
  emit t

/-- A mark of a document ends all block collections. -/
def documentMark (read : TokenReader Unit) : TokenReader Unit := do
  closeBlocks fun _ => true
  dropKey
  allowKey false
  read

def openBracket (t : Token) : TokenReader Unit := do
  openKey
  modify fun s => { s with depth := s.depth + 1, keyAllowed := true }
  mark 1 t

def closeBracket (t : Token) : TokenReader Unit := do
  dropKey
  if (← get).depth = 0 then malformed
  modify fun s => { s with depth := s.depth - 1, keyAllowed := false }
  mark 1 t

def commaMark : TokenReader Unit := do
  allowKey true
  dropKey
  mark 1 .comma

def itemMark : TokenReader Unit := do
  openBlockHere .blockList
  allowKey true
  dropKey
  mark 1 .item

def keyMark : TokenReader Unit := do
  openBlockHere .blockMap
  allowKey ((← get).depth = 0)
  dropKey
  mark 1 .key

/-- A colon makes the open key a key; without one it belongs to an empty key or to
one that was marked. -/
def valueMark : TokenReader Unit := do
  let s ← get
  match s.openKeys.lookup s.depth with
  | some key =>
    modify fun s => { s with openKeys := s.openKeys.filter (·.1 ≠ s.depth) }
    insertAt key.number .key
    if s.depth = 0 then openBlock key.column key.number .blockMap
    allowKey false
  | none =>
    openBlockHere .blockMap
    allowKey (s.depth = 0)
    dropKey
  mark 1 .value

/-- Reads a plain scalar with the gap after it, in which a line end makes room for a
key. -/
def plainText : TokenReader Unit := do
  openKey
  let s ← get
  let indent := (s.columns.head?.map (· + 1)).getD 0
  let (text, gap) := plainScalar (s.depth > 0) indent s.cursor.rest
  allowKey gap.endsLine
  moveTo gap.rest
  emit (.scalar true text)

/-- Reads a token that may be a key. -/
def keyLike (read : List Char → Except YamlFault (Token × List Char)) : TokenReader Unit := do
  openKey
  allowKey false
  let (t, rest) ← read (← get).cursor.rest
  moveTo rest
  emit t

def blockText (folded : Bool) : TokenReader Unit := do
  allowKey true
  dropKey
  let s ← get
  match blockScalar? folded s.columns.head? (s.cursor.rest.drop 1) with
  | none => malformed
  | some (text, rest) =>
    moveTo rest
    emit (.scalar false text)

def directiveLine : TokenReader Unit := do
  let (d, rest) ← directive ((← get).cursor.rest.drop 1)
  moveTo rest
  emit (.directive d)

def named (token : List Char → Token) (s : List Char) : Except YamlFault (Token × List Char) :=
  (ofOption (anchorName? (s.drop 1))).map fun r => (token r.1, r.2)

/-- Whether a plain scalar may start with a character: not with a mark, unless no
blank follows and the mark has no meaning in its place. -/
def startsPlain (inFlow : Bool) (s : List Char) : Bool :=
  match s with
  | [] => false
  | c :: rest =>
    !(atBlank s || "-?:,[]\x7b\x7d#&*!|>'\"%@`".toList.contains c) ||
      (!atBlank rest && (c == '-' || (!inFlow && (c == '?' || c == ':'))))

/-- Moves to the next token. A line end outside of brackets makes room for a key. -/
def skipToToken : TokenReader Unit := do
  let s ← get
  let start := if s.cursor.index = 0 && s.cursor.rest.head? = some '\uFEFF' then
      s.cursor.rest.drop 1 else s.cursor.rest
  let (crossed, rest) := skipGap false false start
  moveTo rest
  if crossed && s.depth = 0 then allowKey true

/-- Reads the token a character starts. -/
def token (c : Char) (tail : List Char) : TokenReader Unit := do
  let s ← get
  let inFlow : Bool := s.depth > 0
  let first : Bool := s.cursor.column = 0
  if c = '%' && first then documentMark directiveLine
  else if first && startsDocument (c :: tail) then documentMark (mark 3 .documentStart)
  else if first && endsDocument (c :: tail) then documentMark (mark 3 .documentEnd)
  else if c = '[' then openBracket .flowList
  else if c = '{' then openBracket .flowMap
  else if c = ']' then closeBracket .flowListEnd
  else if c = '}' then closeBracket .flowMapEnd
  else if c = ',' then commaMark
  else if c = '-' && atBlank tail then itemMark
  else if c = '?' && (inFlow || atBlank tail) then keyMark
  else if c = ':' && (inFlow || atBlank tail) then valueMark
  else if c = '*' then keyLike (named .alias)
  else if c = '&' then keyLike (named .anchor)
  else if c = '!' then keyLike fun s => (ofOption (tagName? s)).map fun r => (.tag r.1, r.2)
  else if c = '|' && !inFlow then blockText false
  else if c = '>' && !inFlow then blockText true
  else if c = '\'' || c = '"' then
    keyLike fun s => (quotedScalar c (s.drop 1)).map fun r => (.scalar false r.1, r.2)
  else if startsPlain inFlow (c :: tail) then plainText
  else malformed

/-- Reads the next token, and says whether there may be another one. -/
def step : TokenReader Bool := do
  skipToToken
  dropStaleKeys
  let s ← get
  closeBlocks fun column => s.cursor.column < column
  match s.cursor.rest with
  | [] =>
    closeBlocks fun _ => true
    dropKey
    return false
  | c :: tail =>
    token c tail
    return true

end TokenReader

namespace TokenState

/-- The tokens that can be told from one another before a fault. Whether a key starts at
an open key, and what stands there, is not known before its colon is found or given
up. -/
def upTo (s : TokenState) (f : YamlFault) : List Token :=
  let waiting := (s.openKeys.filter fun k => !k.2.isStale s.cursor).map fun k => k.2.number
  s.tokens.reverse.take (waiting.foldl min s.tokens.length) ++ [.fault f]

/-- The tokens from a state on, up to a number of them. -/
def read (s : TokenState) (count : Nat) : List Token :=
  match count with
  | 0 => s.upTo .malformed
  | count + 1 =>
    match TokenReader.step.run.run s with
    | (.ok true, next) => next.read count
    | (.ok false, last) => last.tokens.reverse
    | (.error f, _) => s.upTo f

end TokenState

/-- The characters a document may hold: the visible ones and the blanks in common
use. -/
def isDocumentChar (c : Char) : Bool :=
  let n := c.toNat
  n = 9 || n = 10 || n = 13 || (0x20 ≤ n && n ≤ 0x7E) || n = 0x85 || (0xA0 ≤ n && n ≤ 0xD7FF) ||
    (0xE000 ≤ n && n ≤ 0xFFFD) || 0x10000 ≤ n

/-- The tokens of a text. Every token takes a character at least, so that the length
of the text bounds their number. -/
def Token.ofText (s : List Char) : List Token :=
  if s.all isDocumentChar then
    let start : TokenState := ⟨⟨s, 0, 0, 0⟩, 0, [], true, [], []⟩
    start.read (s.length + 1)
  else [.fault .malformed]

end LayeredSettings.Yaml
