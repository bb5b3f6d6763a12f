import RuleEngine.Config.Load
import RuleEngine.Describe
import RuleEngine.Engine
import RuleEngine.Proofs.Double
import RuleEngine.Proofs.Truth
import RuleEngine.Proofs.Run.Course
import RuleEngine.Proofs.Run.Meaning
import RuleEngine.Proofs.Distinct
import RuleEngine.Proofs.Rule.Grammar
import RuleEngine.Proofs.Rule.WriteBack
import RuleEngine.Proofs.Run.Gate
import RuleEngine.Proofs.Json.Numbers
import RuleEngine.Proofs.Json.RoundTrip
import RuleEngine.Proofs.Run.Ledger
import RuleEngine.Proofs.Run.Lifecycle
import RuleEngine.Proofs.Run.Dependence
import RuleEngine.Proofs.Rule.Decoding
import RuleEngine.Proofs.Signals.Delivery
import RuleEngine.Proofs.Engine.History
import RuleEngine.Proofs.Engine.Insertions
import RuleEngine.Proofs.Export.RoundTrip
import RuleEngine.Proofs.Callable.Binding
import RuleEngine.Proofs.Export.Defaults
import RuleEngine.Proofs.Engine.Context
import RuleEngine.Proofs.RunLog.Lines
import RuleEngine.Proofs.Engine.Reactions
import RuleEngine.Proofs.Engine.Logging
import RuleEngine.Proofs.Callable.Outcome
import RuleEngine.Proofs.Encoding
import RuleEngine.Proofs.Engine.LoggedResults
import RuleEngine.Proofs.Engine.Accounting
import RuleEngine.Proofs.Run.Composition
import RuleEngine.Proofs.Run.Shapes
import RuleEngine.Proofs.Engine.Timing
import RuleEngine.Proofs.Rule.KeyOrder
import RuleEngine.Proofs.Rule.NullFields
import RuleEngine.Proofs.Rule.FirstFault
import RuleEngine.Proofs.Export.Groups
import RuleEngine.Proofs.RunLog.Results
import RuleEngine.Proofs.Session.FiniteMap
import RuleEngine.Proofs.RunLog.Jobs
