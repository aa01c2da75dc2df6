import RecordBinding.Text.Blank
import RecordBinding.Text.Digit
import RecordBinding.Text.LetterCase
import RecordBinding.Text.Quoted
import RecordBinding.Decimal.Text
import RecordBinding.Decimal.Reading
import RecordBinding.TypeExpr.Text
import RecordBinding.TypeExpr.Substitution
import RecordBinding.TypeExpr.Erasure
import RecordBinding.Declaration.Function
import RecordBinding.Declaration.Module
import RecordBinding.Universe.BuiltinMembers
import RecordBinding.Universe.Surroundings
import RecordBinding.Universe.Basic
import RecordBinding.Universe.Hierarchy
import RecordBinding.Error
import RecordBinding.Log
import RecordBinding.Object.World
import RecordBinding.Object.Call
import RecordBinding.Binding.Accessor
import RecordBinding.Binding.Basic
import RecordBinding.Binding.Immutable
import RecordBinding.Binding.Modifiable
import RecordBinding.Binding.Session
import RecordBinding.Cache.Basic
import RecordBinding.Cache.Schedule
import RecordBinding.Registry.Basic
import RecordBinding.Registry.Resolution
import RecordBinding.Row.ColumnName
import RecordBinding.Row.Mapper
import RecordBinding.Log.Level
import RecordBinding.Log.Root
import RecordBinding.Settings.Environment
import RecordBinding.Settings.IdleTime
import RecordBinding.Toml.Document
import RecordBinding.Toml.Reader
import RecordBinding.Application
import RecordBinding.CommandLine.Arguments
import RecordBinding.CommandLine.Inspector
import RecordBinding.Main
import RecordBinding.Proofs.TypeExpr.Equality
import RecordBinding.Proofs.TypeExpr.Congruence
import RecordBinding.Proofs.Universe.Instantiation
import RecordBinding.Proofs.Binding.Congruence
import RecordBinding.Proofs.Cache.Operations
import RecordBinding.Proofs.Registry.Refinement
import RecordBinding.Proofs.Cache.Interleaving
import RecordBinding.Proofs.Cache.Coordination
import RecordBinding.Proofs.Cache.SingleFlight
import RecordBinding.Proofs.Cache.Freshness
import RecordBinding.Proofs.Binding.Building
import RecordBinding.Proofs.Object.Bodies
import RecordBinding.Proofs.Binding.Generated
import RecordBinding.Proofs.Binding.RoundTrip
import RecordBinding.Proofs.Binding.LifeCycle
import RecordBinding.Proofs.TypeExpr.Formed
import RecordBinding.Proofs.TypeExpr.Composition
import RecordBinding.Proofs.Declaration.Evaluation
import RecordBinding.Proofs.Universe.Declaration
import RecordBinding.Proofs.Universe.Commutation
import RecordBinding.Proofs.Universe.Completeness
import RecordBinding.Proofs.Registry.Wrapping
import RecordBinding.Proofs.Row.RoundTrip
import RecordBinding.Proofs.TypeExpr.Narrowing
import RecordBinding.Proofs.Universe.Order
import RecordBinding.Proofs.Universe.Narrowing
import RecordBinding.Proofs.Binding.Narrowing
import RecordBinding.Proofs.CommandLine.Check
import RecordBinding.Proofs.Binding.Containment
import RecordBinding.Proofs.Declaration.Renaming
import RecordBinding.Proofs.Universe.MemberChange
import RecordBinding.Proofs.Universe.Renaming
import RecordBinding.Proofs.Property.Renaming
import RecordBinding.Proofs.Binding.Renaming
import RecordBinding.Proofs.Binding.Capture
import RecordBinding.Proofs.Binding.Isolation
import RecordBinding.Proofs.Object.Log
import RecordBinding.Proofs.Registry.Retention
import RecordBinding.Proofs.Row.Batch
import RecordBinding.Proofs.Object.Simulation
import RecordBinding.Proofs.Object.Receiver
import RecordBinding.Proofs.Object.Loop
import RecordBinding.Proofs.Registrations.Reference
import RecordBinding.Proofs.Registrations.Loading
import RecordBinding.Proofs.Registrations.Refusal
import RecordBinding.Proofs.Cache.Origin
import RecordBinding.Proofs.Registry.Concurrency
import RecordBinding.Proofs.Registry.Supersession
import RecordBinding.Proofs.Cache.Entries
import RecordBinding.Proofs.Cache.Residence
import RecordBinding.Proofs.Cache.Expiry
import RecordBinding.Proofs.Declaration.Signature
import RecordBinding.Proofs.Property.Members
import RecordBinding.Proofs.Binding.Overloading
import RecordBinding.Proofs.Registry.Atomicity
import RecordBinding.Proofs.Row.Matching
import RecordBinding.Proofs.Binding.Arity
import RecordBinding.Proofs.Universe.Replacement
import RecordBinding.Proofs.Property.Unannotated
import RecordBinding.Proofs.Binding.Unannotated
import RecordBinding.Proofs.Registrations.Entry
import RecordBinding.Proofs.Registrations.Validation
import RecordBinding.Proofs.Cache.Access
import RecordBinding.Proofs.Cache.IdleTimer
import RecordBinding.Proofs.Decimal.NotANumber
import RecordBinding.Proofs.Settings.IdleTime
import RecordBinding.Proofs.TypeExpr.Rebuilding
import RecordBinding.Proofs.TypeExpr.Simultaneous
