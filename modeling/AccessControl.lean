import AccessControl.Enforcer.Mutation
import AccessControl.Enforcer.Operation
import AccessControl.Main
import AccessControl.Pattern.PatternCache
import AccessControl.Proofs.Decision.Scan
import AccessControl.Proofs.Decision.Stopping
import AccessControl.Proofs.Enforcer.Additions
import AccessControl.Proofs.Enforcer.Changes
import AccessControl.Proofs.Enforcer.Commands
import AccessControl.Proofs.Enforcer.Consistency
import AccessControl.Proofs.Enforcer.Decisions
import AccessControl.Proofs.Enforcer.Explanation
import AccessControl.Proofs.Enforcer.Filtering
import AccessControl.Proofs.Enforcer.History
import AccessControl.Proofs.Enforcer.Isolation
import AccessControl.Proofs.Enforcer.Links
import AccessControl.Proofs.Enforcer.Loading
import AccessControl.Proofs.Enforcer.Mutations
import AccessControl.Proofs.Enforcer.Order
import AccessControl.Proofs.Enforcer.Origin
import AccessControl.Proofs.Enforcer.Permissions
import AccessControl.Proofs.Enforcer.Persistence
import AccessControl.Proofs.Enforcer.Rebuilding
import AccessControl.Proofs.Enforcer.Reloading
import AccessControl.Proofs.Enforcer.Remodelling
import AccessControl.Proofs.Enforcer.Removals
import AccessControl.Proofs.Enforcer.Reordering
import AccessControl.Proofs.Enforcer.Revocation
import AccessControl.Proofs.Enforcer.Rows
import AccessControl.Proofs.Enforcer.Soundness
import AccessControl.Proofs.Enforcer.Storing
import AccessControl.Proofs.Enforcer.Undoing
import AccessControl.Proofs.Matcher.Binding
import AccessControl.Proofs.Matcher.Caching
import AccessControl.Proofs.Matcher.FieldNames
import AccessControl.Proofs.Matcher.Grammar
import AccessControl.Proofs.Matcher.Meaning
import AccessControl.Proofs.Matcher.Parsing
import AccessControl.Proofs.Matcher.Printing
import AccessControl.Proofs.Matcher.Reading
import AccessControl.Proofs.Matcher.Shapes
import AccessControl.Proofs.Matcher.Spelling
import AccessControl.Proofs.Matcher.Validity
import AccessControl.Proofs.Model.Comments
import AccessControl.Proofs.Model.Customary
import AccessControl.Proofs.Model.Keys
import AccessControl.Proofs.Model.Layout
import AccessControl.Proofs.Model.Requests
import AccessControl.Proofs.Model.WellFormed
import AccessControl.Proofs.Pattern.Glob
import AccessControl.Proofs.Pattern.PathPattern
import AccessControl.Proofs.Pattern.Testing
import AccessControl.Proofs.PolicyText.Linewise
import AccessControl.Proofs.PolicyText.RoundTrip
import AccessControl.Proofs.Program.Opening
import AccessControl.Proofs.Program.Refinement
import AccessControl.Proofs.Roles.Edits
import AccessControl.Proofs.Roles.Links
import AccessControl.Proofs.Roles.Members
import AccessControl.Proofs.Roles.Reachability
import AccessControl.Proofs.Roles.Search
import AccessControl.Proofs.Roles.Walk
import AccessControl.Proofs.Row.Cells
import AccessControl.Proofs.Row.Grammar
import AccessControl.Proofs.Row.Written
import AccessControl.Proofs.Storage.Files
import AccessControl.Proofs.Storage.Replacing
import AccessControl.Proofs.Storage.Rows
import AccessControl.Proofs.Storage.Saving
import AccessControl.Proofs.Storage.Tables
import AccessControl.Proofs.Storage.Transactions
import AccessControl.Proofs.Store.Tables
import AccessControl.Proofs.Text.LineEnds
import AccessControl.Proofs.Text.Lines
import AccessControl.Storage.Replacement
