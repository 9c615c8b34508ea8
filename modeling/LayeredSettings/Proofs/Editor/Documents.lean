import LayeredSettings.Editor.Message
import Mathlib.Data.List.Induction

namespace LayeredSettings

/-- The texts that a message sends for a document, in order. -/
def Message.textsFor (locator : String) : Message → List String
  | .opened own text => if own = locator then [text] else []
  | .changed own texts => if own = locator then texts else []
  | .greet .. | .suggest .. | .hover .. | .shutdown | .exit => []

/-- All texts that have been sent for a document, in order. -/
def sentTexts (locator : String) (messages : List Message) : List String :=
  messages.flatMap (Message.textsFor locator)

/-- The texts of the last message that has sent any for a document. -/
def latestTexts (locator : String) (messages : List Message) : List String :=
  messages.foldl (fun texts message =>
    if message.textsFor locator = [] then texts else message.textsFor locator) []

namespace Editor

variable {locator : String}

theorem documents_open? (editor : Editor) (root : Option String) (folders : List ClientFolder) :
    (editor.open? root folders).1.documents = editor.documents := by
  unfold open?
  dsimp only
  split
  · rfl
  · split <;> rfl

theorem get?_openDocument (editor : Editor) (own text : String) :
    (editor.openDocument own text).documents.get? locator =
      if own = locator then some text else editor.documents.get? locator := by
  rw [openDocument, Entries.get?_put]
  simp only [eq_comm]

/-- A message that sends texts for a document puts the first of them in memory, and no other message changes what
is there. -/
theorem get?_receive (editor : Editor) (message : Message) :
    (editor.receive message).1.documents.get? locator =
      (message.textsFor locator).head?.or (editor.documents.get? locator) := by
  cases message with
  | greet root folders => exact congrArg (Entries.get? · locator) (editor.documents_open? root folders)
  | opened own text =>
    rw [receive, get?_openDocument, Message.textsFor]
    split <;> rfl
  | changed own texts =>
    cases texts with
    | nil => simp [receive, changeDocument, Message.textsFor]
    | cons text rest =>
      rw [receive, changeDocument, get?_openDocument, Message.textsFor]
      split <;> rfl
  | suggest | hover | shutdown | exit => rfl

theorem after_append (editor : Editor) (messages : List Message) (message : Message) :
    editor.after (messages ++ [message]) = ((editor.after messages).receive message).1 := by
  simp [after]

end Editor

theorem latestTexts_append (locator : String) (messages : List Message) (message : Message) :
    latestTexts locator (messages ++ [message]) =
      if message.textsFor locator = [] then latestTexts locator messages else message.textsFor locator := by
  simp [latestTexts]

theorem sentTexts_append (locator : String) (messages : List Message) (message : Message) :
    sentTexts locator (messages ++ [message]) = sentTexts locator messages ++ message.textsFor locator := by
  simp [sentTexts]

/-- The last text that has been sent is the last one of the last message that has sent any. -/
theorem getLast?_sentTexts (locator : String) (messages : List Message) :
    (sentTexts locator messages).getLast? = (latestTexts locator messages).getLast? := by
  induction messages using List.reverseRecOn with
  | nil => rfl
  | append_singleton messages message ih =>
    rw [sentTexts_append, latestTexts_append, List.getLast?_append]
    by_cases silent : message.textsFor locator = []
    · rw [if_pos silent, silent, ← ih]
      rfl
    · obtain ⟨front, last, whole⟩ := (message.textsFor locator).eq_nil_or_concat.resolve_left silent
      rw [if_neg silent, whole]
      simp

namespace Editor

/-- In memory is the first text of the last message that has sent any. -/
theorem get?_after (editor : Editor) (messages : List Message) (locator : String) :
    (editor.after messages).documents.get? locator =
      (latestTexts locator messages).head?.or (editor.documents.get? locator) := by
  induction messages using List.reverseRecOn with
  | nil => rfl
  | append_singleton messages message ih =>
    rw [after_append, get?_receive, ih, latestTexts_append]
    by_cases silent : message.textsFor locator = []
    · rw [if_pos silent, silent]
      rfl
    · obtain ⟨text, rest, whole⟩ := List.exists_cons_of_ne_nil silent
      rw [if_neg silent, whole]
      rfl

/-- What is in memory for a document is the last text that has been sent for it, and nothing if none has been sent,
whatever other messages came in between: exactly where the last message that has sent any begins and ends with
the same text. -/
theorem documents_follow (host : Host) (messages : List Message) (locator : String) :
    ((start host).after messages).documents.get? locator = (sentTexts locator messages).getLast? ↔
      (latestTexts locator messages).head? = (latestTexts locator messages).getLast? := by
  have fresh : (start host).documents.get? locator = none := rfl
  rw [get?_after, fresh, Option.or_none, getLast?_sentTexts]

end Editor

/-- A document that is opened and then changed twice by one message. -/
def changedTwice : List Message := [.opened "a" "x", .changed "a" ["y", "z"]]

/-- The first change is in memory, and not the second one. -/
theorem documents_behind : ((Editor.start {}).after changedTwice).documents.get? "a" = some "y" ∧
    (sentTexts "a" changedTwice).getLast? = some "z" := by
  decide

end LayeredSettings
