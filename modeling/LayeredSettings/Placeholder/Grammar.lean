namespace LayeredSettings

/-- Where the value of a placeholder is drawn from. -/
inductive Source where
  | environment
  | setting
  | folder
  deriving DecidableEq, Repr

namespace Source

def all : List Source := [.environment, .setting, .folder]

def tag : Source → String
  | .environment => "env"
  | .setting => "config"
  | .folder => "workspaceFolder"

def ofTag? (tag : String) : Option Source := all.find? fun source => source.tag = tag

end Source

/-- A name in one of the sources. -/
structure Reference where
  source : Source
  name : String
  deriving DecidableEq, Repr

/-- The text without one leading point or colon. -/
def dropSeparator : List Char → List Char
  | '.' :: rest => rest
  | ':' :: rest => rest
  | rest => rest

/-- What follows a leading tag, with the source the tag names. -/
def leadingTag? (body : List Char) : Option (Source × List Char) :=
  Source.all.findSome? fun source =>
    let tag := source.tag.toList
    if tag.isPrefixOf body then some (source, body.drop tag.length) else none

/-- Reads the inside of a placeholder: an optional tag, an optional separator and
the name. Without a tag the name is one of the environment. -/
def Reference.ofBody (body : List Char) : Reference :=
  match leadingTag? body with
  | some (source, rest) => ⟨source, String.ofList (dropSeparator rest)⟩
  | none => ⟨.environment, String.ofList (dropSeparator body)⟩

/-- The text up to the first closing brace and what follows the brace, if there is
one before the line ends. -/
def closing? : List Char → Option (List Char × List Char)
  | [] => none
  | c :: rest =>
    if c = '}' then some ([], rest)
    else if c = '\n' then none
    else (closing? rest).map fun (body, after) => (c :: body, after)

theorem eq_append_of_closing? {s body after : List Char} (h : closing? s = some (body, after)) :
    s = body ++ '}' :: after := by
  induction s generalizing body with
  | nil => simp [closing?] at h
  | cons c rest ih =>
    rw [closing?] at h
    split at h
    · next brace => simp_all
    · split at h
      · simp at h
      · obtain ⟨⟨b, a⟩, found, pair⟩ := Option.map_eq_some_iff.mp h
        simp only [Prod.mk.injEq] at pair
        obtain ⟨rfl, rfl⟩ := pair
        simp [ih found]

theorem length_lt_of_closing? {s body after : List Char} (h : closing? s = some (body, after)) :
    after.length < s.length := by
  rw [eq_append_of_closing? h]
  simp only [List.length_append, List.length_cons]
  omega

/-- A piece of a template: a character that stands for itself, or a placeholder
with its inside. -/
inductive Piece where
  | char (c : Char)
  | hole (body : List Char)
  deriving DecidableEq, Repr

/-- The piece as it is written. -/
def Piece.text : Piece → List Char
  | .char c => [c]
  | .hole body => '$' :: '{' :: body ++ ['}']

/-- The pieces of a template from left to right. An opening that is not closed on
its line stands for itself. -/
def pieces (s : List Char) : List Piece :=
  match s with
  | [] => []
  | c :: rest =>
    match c, rest with
    | '$', '{' :: inside =>
      match h : closing? inside with
      | some (body, after) =>
        have : after.length < inside.length := length_lt_of_closing? h
        .hole body :: pieces after
      | none => .char '$' :: pieces ('{' :: inside)
    | c, rest => .char c :: pieces rest
termination_by s.length
decreasing_by all_goals simp_wf <;> omega

/-- A placeholder with the positions of its first character and of the one after
its last. -/
structure Placeholder where
  start : Nat
  stop : Nat
  reference : Reference
  deriving DecidableEq, Repr

/-- The placeholders among pieces that begin at a position. -/
def placeholdersFrom (start : Nat) : List Piece → List Placeholder
  | [] => []
  | .char _ :: rest => placeholdersFrom (start + 1) rest
  | .hole body :: rest =>
    let stop := start + body.length + 3
    ⟨start, stop, .ofBody body⟩ :: placeholdersFrom stop rest

/-- The placeholders of a text, left to right. -/
def findPlaceholders (text : String) : List Placeholder := placeholdersFrom 0 (pieces text.toList)

end LayeredSettings
