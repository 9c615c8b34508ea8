import LayeredSettings.Placeholder.Context

namespace LayeredSettings

namespace Context

/-- What replaces a piece: a placeholder without a value stays as it is written. A
list of texts is inserted only if the placeholder is all of `template`. -/
def fill (context : Context) (overrides : Entries String EnvOverride) (template : List Char)
    (piece : Piece) : List Char :=
  match piece with
  | .char c => [c]
  | .hole body =>
    match context.lookup? overrides (decide (piece.text = template)) (.ofBody body) with
    | some value => value.toList
    | none => piece.text

/-- One pass over a text. All its placeholders are replaced at once, and what is
inserted is not read again. -/
def pass (context : Context) (overrides : Entries String EnvOverride) (template text : List Char) :
    List Char :=
  (pieces text).flatMap (context.fill overrides template)

end Context

/-- The results of repeated steps from `current`, up to the first that is among
those seen before, and at most `limit` of them. -/
def orbit [DecidableEq α] (step : α → α) (limit : Nat) (seen : List α) (current : α) : List α :=
  match limit with
  | 0 => []
  | limit + 1 =>
    let next := step current
    if next ∈ seen then [next] else next :: orbit step limit (next :: seen) next

namespace Context

/-- The result of each pass over a template, at most `limit` of them. The last one
is a text seen before, unless the limit is reached. -/
def passes (context : Context) (overrides : Entries String EnvOverride) (limit : Nat)
    (template : String) : List String :=
  let chars := template.toList
  (orbit (context.pass overrides chars) limit [chars] chars).map String.ofList

/-- Puts the home directory in place of a leading tilde, if it is known. -/
def expandHome (context : Context) (text : String) : String :=
  match text.toList, context.home? with
  | '~' :: rest, some home => home ++ String.ofList rest
  | _, _ => text

/-- Expands every placeholder, and then a leading tilde. The empty template is
left alone. -/
def expand (context : Context) (overrides : Entries String EnvOverride) (limit : Nat)
    (template : String) : String :=
  if template = "" then template
  else context.expandHome ((context.passes overrides limit template).getLast?.getD template)

end Context

/-- The number of passes where no other is asked for. -/
def defaultPasses : Nat := 32

end LayeredSettings
