import LayeredSettings.Yaml.Fault
import LayeredSettings.Yaml.Line
import LayeredSettings.Text.Percent

namespace LayeredSettings.Yaml

/-- The tag of a node as it is written: a short name after a handle, or a whole name. -/
structure TagName where
  handle : Option (List Char)
  suffix : List Char
  deriving DecidableEq

/-- A line that says something about the document after it. Lines of other names say
nothing. -/
inductive Directive where
  | version (major : Int)
  | handle (name target : List Char)
  | other
  deriving DecidableEq

def isNameChar (c : Char) : Bool := c.isAlphanum || c == '-' || c == '_'

def isUriChar (c : Char) : Bool := c.isAlphanum || "-;/?:@&=+$,_.!~*'()[]".toList.contains c

/-- The name of an anchor or of an alias, which has to end at a blank or at a mark
that cannot be part of one. -/
def anchorName? (s : List Char) : Option (List Char × List Char) :=
  let name := s.takeWhile isNameChar
  let rest := s.dropWhile isNameChar
  if name.isEmpty then none
  else if atBlank rest || rest.head?.any fun c => "?:,]\x7d%@`".toList.contains c then
    some (name, rest)
  else none

/-- The characters of a name, after bytes that were escaped one after the other and
are characters only together. -/
def uriFrom (bytes : List UInt8) (s : List Char) : Option (List Char × List Char) :=
  match s with
  | '%' :: a :: b :: rest =>
    match hexByte? a b with
    | none => none
    | some byte => uriFrom (bytes ++ [byte]) rest
  | '%' :: _ => none
  | c :: rest =>
    match decodeUtf8 bytes with
    | .error _ => none
    | .ok chars =>
      if isUriChar c then (uriFrom [] rest).map fun r => (chars ++ c :: r.1, r.2)
      else some (chars, c :: rest)
  | [] =>
    match decodeUtf8 bytes with
    | .error _ => none
    | .ok chars => some (chars, [])

/-- A name that is a locator, with bytes written after percent signs. -/
def uri? (s : List Char) : Option (List Char × List Char) :=
  (uriFrom [] s).filter fun r => !r.1.isEmpty

/-- A handle: a mark alone, or a name between two marks. -/
def tagHandle? : List Char → Option (List Char × List Char)
  | '!' :: ' ' :: rest => some (['!'], ' ' :: rest)
  | '!' :: rest =>
    match rest.dropWhile isNameChar with
    | '!' :: beyond => some ('!' :: rest.takeWhile isNameChar ++ ['!'], beyond)
    | _ => none
  | _ => none

/-- A whole tag name up to its closing bracket. -/
def wholeTagName? (s : List Char) : Option (TagName × List Char) :=
  match uri? s with
  | some (suffix, '>' :: rest) => some (⟨none, suffix⟩, rest)
  | _ => none

/-- A short tag name. Its handle is a mark alone if no other mark is in its word. -/
def shortTagName? (s : List Char) : Option (TagName × List Char) := do
  let word := (s.drop 1).takeWhile fun c => !(c == ' ' || isBreak c)
  let (handle, rest) ← if word.contains '!' then tagHandle? s else some (['!'], s.drop 1)
  let (suffix, rest) ← uri? rest
  return (⟨some handle, suffix⟩, rest)

/-- A tag from its mark on, which has to end at a space. A mark alone is a tag of its
own. -/
def tagName? (s : List Char) : Option (TagName × List Char) :=
  let found := match s.drop 1 with
    | '<' :: rest => wholeTagName? rest
    | rest => if atBlank rest then some (⟨none, ['!']⟩, rest) else shortTagName? s
  found.filter fun r => atSpace r.2

def dropSpaces (s : List Char) : List Char := s.dropWhile (· == ' ')

def ofOption : Option α → Except YamlFault α
  | some a => .ok a
  | none => .error .malformed

/-- A number of a version. -/
def versionNumber (s : List Char) : Except YamlFault (Int × List Char) :=
  match readWhole 10 (s.takeWhile Char.isDigit) with
  | .ok n => .ok (n, s.dropWhile Char.isDigit)
  | .error .notANumber => .error .malformed
  | .error (.tooManyDigits count) => .error (.scalar (.tooManyDigits count))

def versionOf (s : List Char) : Except YamlFault (Directive × List Char) := do
  let (major, rest) ← versionNumber (dropSpaces s)
  let rest ← ofOption (if rest.head? = some '.' then some (rest.drop 1) else none)
  let (_, rest) ← versionNumber rest
  return (.version major, rest)

def handleOf (s : List Char) : Except YamlFault (Directive × List Char) := do
  let (name, rest) ← ofOption (tagHandle? (dropSpaces s))
  if rest.head? ≠ some ' ' then throw .malformed
  let (target, rest) ← ofOption (uri? (dropSpaces rest))
  return (.handle name target, rest)

/-- A directive after its mark, to the end of its line. -/
def directive (s : List Char) : Except YamlFault (Directive × List Char) := do
  let name := s.takeWhile isNameChar
  let rest := s.dropWhile isNameChar
  if name.isEmpty || !atSpace rest then throw .malformed
  let (found, rest) ←
    if name = "YAML".toList then versionOf rest
    else if name = "TAG".toList then handleOf rest
    else pure (.other, rest.dropWhile (!isBreak ·))
  if !atSpace rest then throw .malformed
  return (found, ← ofOption (afterLine? rest))

end LayeredSettings.Yaml
