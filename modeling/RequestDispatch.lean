import RequestDispatch.Application.Context
import RequestDispatch.Application.Start
import RequestDispatch.Binding.Fetcher
import RequestDispatch.Binding.Parameter
import RequestDispatch.Container.Basic
import RequestDispatch.Conversion.Converter
import RequestDispatch.Conversion.Service
import RequestDispatch.Dispatch.Dispatcher
import RequestDispatch.Dispatch.Handler
import RequestDispatch.Dispatch.Host
import RequestDispatch.Dispatch.Program
import RequestDispatch.Dispatch.Router
import RequestDispatch.Document.Declaration
import RequestDispatch.Document.Exchange
import RequestDispatch.Document.Failure
import RequestDispatch.Document.Script
import RequestDispatch.Document.Setting
import RequestDispatch.Document.Type
import RequestDispatch.Document.Value
import RequestDispatch.Entries
import RequestDispatch.Exchange.Basic
import RequestDispatch.Exchange.Bindings
import RequestDispatch.Exchange.Headers
import RequestDispatch.Exchange.Request
import RequestDispatch.Exchange.Sink
import RequestDispatch.Exchange.Stream
import RequestDispatch.Failure.Basic
import RequestDispatch.Failure.Causes
import RequestDispatch.Failure.Response
import RequestDispatch.FileTree
import RequestDispatch.FileTree.Pattern
import RequestDispatch.Interception.Advice
import RequestDispatch.Interception.BuiltIn
import RequestDispatch.Interception.Chain
import RequestDispatch.Interception.Declarations
import RequestDispatch.Json.Basic
import RequestDispatch.Json.Decode
import RequestDispatch.Json.Encode
import RequestDispatch.Json.Path
import RequestDispatch.Number.Binary
import RequestDispatch.Number.Decimal
import RequestDispatch.Number.Integer
import RequestDispatch.Process
import RequestDispatch.Result.Outcome
import RequestDispatch.Route.Mapping
import RequestDispatch.Route.Match
import RequestDispatch.Route.Pattern
import RequestDispatch.Script.Basic
import RequestDispatch.Script.Handler
import RequestDispatch.Script.Interceptor
import RequestDispatch.Server.Properties
import RequestDispatch.Server.Shell
import RequestDispatch.Settings.Environment
import RequestDispatch.Settings.Logging
import RequestDispatch.Settings.Toml.Document
import RequestDispatch.Settings.Toml.Scalar
import RequestDispatch.Settings.Value
import RequestDispatch.Sorting.Block
import RequestDispatch.Sorting.Insertion
import RequestDispatch.Sorting.Permutation
import RequestDispatch.Sorting.Runs
import RequestDispatch.Sorting.Sorted
import RequestDispatch.Sorting.Stable
import RequestDispatch.Text.Blank
import RequestDispatch.Text.CaseTable
import RequestDispatch.Text.Casing
import RequestDispatch.Text.Hex
import RequestDispatch.Text.Percent
import RequestDispatch.Text.Quoted
import RequestDispatch.Text.Split
import RequestDispatch.Text.UnprintableTable
import RequestDispatch.Text.Utf8
import RequestDispatch.Type.Descriptor
import RequestDispatch.Type.Hierarchy
import RequestDispatch.Type.Key
import RequestDispatch.Users.Application
import RequestDispatch.Users.Controller
import RequestDispatch.Users.Directory
import RequestDispatch.Value.Arguments
import RequestDispatch.Value.Basic
import RequestDispatch.Value.Collection
import RequestDispatch.Value.Native
import RequestDispatch.View.Echo
import RequestDispatch.View.Renderer
import RequestDispatch.View.Template
import RequestDispatch.Proofs.Except
import RequestDispatch.Proofs.Route.Reading
import RequestDispatch.Proofs.Route.Capture
import RequestDispatch.Proofs.Text.Percent
import RequestDispatch.Proofs.Route.Address
import RequestDispatch.Proofs.Route.Match
import RequestDispatch.Proofs.Dispatch.Compilation
import RequestDispatch.Proofs.Dispatch.Selection
import RequestDispatch.Proofs.Sorting.Renaming
import RequestDispatch.Proofs.Value.NaturalOrder
import RequestDispatch.Proofs.Value.Reading
import RequestDispatch.Proofs.Conversion.Kept
import RequestDispatch.Proofs.Conversion.BuiltIn
import RequestDispatch.Proofs.Binding.Typed
import RequestDispatch.Proofs.Route.Mapping
import RequestDispatch.Proofs.Conversion.Cache
import RequestDispatch.Proofs.Conversion.Convertible
import RequestDispatch.Proofs.Conversion.Separation
import RequestDispatch.Proofs.Binding.Validation
import RequestDispatch.Proofs.Process
import RequestDispatch.Proofs.Interception.Passing
import RequestDispatch.Proofs.Dispatch.Watched
import RequestDispatch.Proofs.Dispatch.Inclusion
import RequestDispatch.Proofs.Dispatch.Handled
import RequestDispatch.Proofs.Dispatch.Routing
import RequestDispatch.Proofs.Steps
import RequestDispatch.Proofs.Dispatch.Scope
import RequestDispatch.Proofs.Dispatch.Report
import RequestDispatch.Proofs.Route.Joined
import RequestDispatch.Proofs.Dispatch.PathPrefix
import RequestDispatch.Proofs.Dispatch.Mounting
import RequestDispatch.Proofs.Type.Walk
import RequestDispatch.Proofs.Type.Distance
import RequestDispatch.Proofs.Interception.Collected
import RequestDispatch.Proofs.Interception.Recording
import RequestDispatch.Proofs.Interception.Plans
import RequestDispatch.Proofs.Interception.Counting
import RequestDispatch.Proofs.Conversion.Transparency
import RequestDispatch.Proofs.Sorting.Ranked
import RequestDispatch.Proofs.Settings.Precedence
import RequestDispatch.Proofs.Binding.Fetching
import RequestDispatch.Proofs.Dispatch.Variables
import RequestDispatch.Proofs.Server.Shell
import RequestDispatch.Proofs.Dispatch.Arguments
import RequestDispatch.Proofs.Container.Calls
import RequestDispatch.Proofs.Container.History
import RequestDispatch.Proofs.Result.FirstApplicable
import RequestDispatch.Proofs.Dispatch.Registry
import RequestDispatch.Proofs.Text.Split
import RequestDispatch.Proofs.Text.Casing
import RequestDispatch.Proofs.Route.Acceptance
import RequestDispatch.Proofs.Route.Media
import RequestDispatch.Proofs.Route.Grammar
import RequestDispatch.Proofs.Value.Equality
import RequestDispatch.Proofs.Value.Insertion
import RequestDispatch.Proofs.Conversion.InTurn
import RequestDispatch.Proofs.Binding.Listed
import RequestDispatch.Proofs.Binding.Maps
import RequestDispatch.Proofs.Binding.Collections
import RequestDispatch.Proofs.Binding.Defaults
import RequestDispatch.Proofs.Conversion.Captured
import RequestDispatch.Proofs.Conversion.Scalars
import RequestDispatch.Proofs.Number.Integer
import RequestDispatch.Proofs.Conversion.Nested
import RequestDispatch.Proofs.Conversion.Settled
import RequestDispatch.Proofs.Binding.Fallbacks
import RequestDispatch.Proofs.Conversion.Nearest
import RequestDispatch.Proofs.Conversion.Registration
import RequestDispatch.Proofs.Conversion.Assignability
import RequestDispatch.Proofs.Conversion.Integers
import RequestDispatch.Proofs.Text.Blank
import RequestDispatch.Proofs.Type.Implied
import RequestDispatch.Proofs.Number.Rounding
import RequestDispatch.Proofs.Value.Disorder
import RequestDispatch.Proofs.Value.SortedSet
import RequestDispatch.Proofs.Value.MapReaders
import RequestDispatch.Proofs.Dispatch.Attached
import RequestDispatch.Proofs.Route.Negotiation
import RequestDispatch.Proofs.Interception.Transparent
import RequestDispatch.Proofs.Interception.Cached
import RequestDispatch.Proofs.Settings.Order
import RequestDispatch.Proofs.Entries
import RequestDispatch.Proofs.Settings.Toml.DistinctKeys
import RequestDispatch.Proofs.Settings.Toml.Flattening
import RequestDispatch.Proofs.Exchange.Sink
import RequestDispatch.Proofs.Users.Directory
import RequestDispatch.Proofs.Dispatch.Remembered
import RequestDispatch.Proofs.Users.Application
import RequestDispatch.Proofs.Users.Greeting
import RequestDispatch.Proofs.Settings.ProfileFile
import RequestDispatch.Proofs.Settings.ListedKeys
