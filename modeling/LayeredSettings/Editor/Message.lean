import LayeredSettings.Editor.Hover
import LayeredSettings.Editor.Suggestion

namespace LayeredSettings

/-- What a client sends: the folders it works in, the whole text of a document that it opens
or each of its new texts after changes, a question about a place in a document, or that it
is done. -/
inductive Message where
  | greet (root : Option String) (folders : List ClientFolder)
  | opened (locator text : String)
  | changed (locator : String) (texts : List String)
  | suggest (locator : String) (place : Position)
  | hover (locator : String) (place : Position)
  | shutdown
  | exit
  deriving DecidableEq, Repr

/-- What a client is answered. -/
inductive Reply where
  | done
  | suggestions (list : List Suggestion)
  | shown (hover : Option Hover)
  deriving DecidableEq, Repr

namespace Editor

/-- Takes a message and answers it. A failure leaves what the message has done so far. -/
def receive (editor : Editor) : Message → Editor × Except Failure Reply
  | .greet root folders =>
    let (opened, result) := editor.open? root folders
    (opened, result.map fun _ => .done)
  | .opened locator text => (editor.openDocument locator text, .ok .done)
  | .changed locator texts => (editor.changeDocument locator texts, .ok .done)
  | .suggest locator place => (editor, (editor.suggest locator place).map .suggestions)
  | .hover locator place => (editor, (editor.hover locator place).map .shown)
  | .shutdown | .exit => (editor, .ok .done)

/-- The server after some messages, whether or not they could be answered. -/
def after (editor : Editor) (messages : List Message) : Editor :=
  messages.foldl (fun editor message => (editor.receive message).1) editor

end Editor

end LayeredSettings
