import LayeredSettings.Main
import LayeredSettings.Editor.Message
import LayeredSettings.Proofs.Command.Collecting
import LayeredSettings.Proofs.Command.Output
import LayeredSettings.Proofs.Editor.Completion
import LayeredSettings.Proofs.Editor.DocumentContext
import LayeredSettings.Proofs.Editor.Documents
import LayeredSettings.Proofs.Editor.Openings
import LayeredSettings.Proofs.Editor.Positions
import LayeredSettings.Proofs.Editor.SettingsDocument
import LayeredSettings.Proofs.Files.Loading
import LayeredSettings.Proofs.Override.Fields
import LayeredSettings.Proofs.Override.WritingBack
import LayeredSettings.Proofs.Placeholder.Grammar
import LayeredSettings.Proofs.Placeholder.Insertion
import LayeredSettings.Proofs.Placeholder.Orbit
import LayeredSettings.Proofs.Placeholder.Overrides
import LayeredSettings.Proofs.Placeholder.Spelling
import LayeredSettings.Proofs.Placeholder.Splicing
import LayeredSettings.Proofs.Placeholder.Stability
import LayeredSettings.Proofs.Session.Escape
import LayeredSettings.Proofs.Session.Firing
import LayeredSettings.Proofs.Session.Freshness
import LayeredSettings.Proofs.Session.Lifetime
import LayeredSettings.Proofs.Session.Notification
import LayeredSettings.Proofs.Session.Precedence
import LayeredSettings.Proofs.Session.QueuedUpdate
import LayeredSettings.Proofs.Session.Reentrancy
import LayeredSettings.Proofs.Session.Reload
import LayeredSettings.Proofs.Session.Repetition
import LayeredSettings.Proofs.Session.SectionChange
import LayeredSettings.Proofs.Session.Updating
import LayeredSettings.Proofs.Store.Navigation
import LayeredSettings.Proofs.Store.SectionReading
import LayeredSettings.Proofs.Store.Touching
