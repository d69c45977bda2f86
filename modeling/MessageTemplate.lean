import MessageTemplate.Command.Directory
import MessageTemplate.Command.Run
import MessageTemplate.Main
import MessageTemplate.Proofs.Render.Errors
import MessageTemplate.Proofs.Template.Concatenation
import MessageTemplate.Proofs.Diagnostic
import MessageTemplate.Proofs.Render.Agreement
import MessageTemplate.Proofs.Template.Stability
import MessageTemplate.Proofs.Template.Place
import MessageTemplate.Proofs.Render.Policy
import MessageTemplate.Proofs.Template.Truncation
import MessageTemplate.Proofs.Renderer.Sharing
import MessageTemplate.Proofs.Render.Concatenation
import MessageTemplate.Proofs.Render.Completion
import MessageTemplate.Proofs.Render.Selection
import MessageTemplate.Proofs.Command.Eval
import MessageTemplate.Proofs.Render.Branches
import MessageTemplate.Proofs.Binary.Rounding
import MessageTemplate.Proofs.Binary.Shortest
import MessageTemplate.Proofs.Plural.Resolver
import MessageTemplate.Proofs.Binary.Decimal
import MessageTemplate.Proofs.Render.Numerals
import MessageTemplate.Proofs.Binary.Integer
import MessageTemplate.Proofs.Render.Integers
import MessageTemplate.Proofs.Registry.FirstOccurrence
import MessageTemplate.Proofs.Template.Cause
import MessageTemplate.Proofs.Template.Descent
import MessageTemplate.Proofs.Template.Nesting
import MessageTemplate.Proofs.Template.Repair
import MessageTemplate.Proofs.Command.Check
import MessageTemplate.Proofs.Plural.Cache
import MessageTemplate.Proofs.Text.Suggestion
import MessageTemplate.Proofs.Registry.Vocabulary
import MessageTemplate.Proofs.Command.Arguments
import MessageTemplate.Proofs.Command.Pairs
import MessageTemplate.Proofs.Text.Slice
import MessageTemplate.Proofs.Diagnostic.Clamp
import MessageTemplate.Proofs.Template.Form
import MessageTemplate.Proofs.Template.Cursor
import MessageTemplate.Proofs.Template.Settles
import MessageTemplate.Proofs.Template.Progress
