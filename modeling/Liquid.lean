import Liquid.Data
import Liquid.Host.Filters
import Liquid.Host.Formats
import Liquid.Host.Objects
import Liquid.Host.Operators
import Liquid.Host.Sources
import Liquid.Host.Tags
import Liquid.Proofs.Context.Lookup
import Liquid.Proofs.Context.Members
import Liquid.Proofs.Data.Translation
import Liquid.Proofs.Evaluation.Agreement
import Liquid.Proofs.Evaluation.Conditions
import Liquid.Proofs.Filter.Addresses
import Liquid.Proofs.Filter.Arithmetic
import Liquid.Proofs.Filter.Escaping
import Liquid.Proofs.Filter.Joining
import Liquid.Proofs.Filter.Ranges
import Liquid.Proofs.Filter.Registration
import Liquid.Proofs.Filter.Repetitions
import Liquid.Proofs.Filter.Selection
import Liquid.Proofs.Filter.Slicing
import Liquid.Proofs.Filter.Sorting
import Liquid.Proofs.Filter.Tokens
import Liquid.Proofs.Filter.Words
import Liquid.Proofs.Markup.Acceptance
import Liquid.Proofs.Markup.Chains
import Liquid.Proofs.Markup.Depth
import Liquid.Proofs.Markup.Grammar
import Liquid.Proofs.Markup.Identifiers
import Liquid.Proofs.Markup.Leniency
import Liquid.Proofs.Markup.Parentheses
import Liquid.Proofs.Markup.Quotation
import Liquid.Proofs.Markup.Reading
import Liquid.Proofs.Markup.Refusal
import Liquid.Proofs.Markup.Relocation
import Liquid.Proofs.Markup.Resemblance
import Liquid.Proofs.Markup.Scanning
import Liquid.Proofs.Markup.Splitting
import Liquid.Proofs.Output.Captures
import Liquid.Proofs.Render.Abortion
import Liquid.Proofs.Render.Attributes
import Liquid.Proofs.Render.Caching
import Liquid.Proofs.Render.Closure
import Liquid.Proofs.Render.Coupling
import Liquid.Proofs.Render.Disabling
import Liquid.Proofs.Render.Iterating
import Liquid.Proofs.Render.Leaving
import Liquid.Proofs.Render.Lockstep
import Liquid.Proofs.Render.Mirror
import Liquid.Proofs.Render.Opening
import Liquid.Proofs.Render.Redirecting
import Liquid.Proofs.Render.Restoration
import Liquid.Proofs.Render.Resuming
import Liquid.Proofs.Render.Sharing
import Liquid.Proofs.Render.Tables
import Liquid.Proofs.Render.Unrolling
import Liquid.Proofs.Render.Waiting
import Liquid.Proofs.Session.Assigned
import Liquid.Proofs.Session.Caching
import Liquid.Proofs.Session.Cancellation
import Liquid.Proofs.Session.Capturing
import Liquid.Proofs.Session.Cycling
import Liquid.Proofs.Session.Disabling
import Liquid.Proofs.Session.ErrorModes
import Liquid.Proofs.Session.History
import Liquid.Proofs.Session.Locations
import Liquid.Proofs.Session.Overlapping
import Liquid.Proofs.Session.Provenance
import Liquid.Proofs.Session.Recursion
import Liquid.Proofs.Session.Strictness
import Liquid.Proofs.Session.Verbatim
import Liquid.Proofs.Session.Waiting
import Liquid.Proofs.Template.Bounds
import Liquid.Proofs.Template.Builtin
import Liquid.Proofs.Template.Depth
import Liquid.Proofs.Template.Nesting
import Liquid.Proofs.Template.Slices
import Liquid.Proofs.Token.Comments
import Liquid.Proofs.Token.Continuation
import Liquid.Proofs.Token.Lookahead
import Liquid.Proofs.Token.Tiling
import Liquid.Proofs.Value.Arguments
import Liquid.Proofs.Value.Conversion
import Liquid.Proofs.Value.Order
import Liquid.Proofs.Value.Sameness
import Liquid.Session
