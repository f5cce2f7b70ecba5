import PageMetadata.Text.Rounding
import PageMetadata.PageGeometry
import PageMetadata.Classifier
import PageMetadata.Codec.Inline
import PageMetadata.Codec.Structured
import PageMetadata.Json.Parser
import PageMetadata.Json.Reader
import PageMetadata.Stats
import PageMetadata.Error
import PageMetadata.Pattern
import PageMetadata.Region
import PageMetadata.Model
import PageMetadata.Client
import PageMetadata.Simulator.Basic
import PageMetadata.Collaborator.KeyedStore
import PageMetadata.Collaborator.Interference
import PageMetadata.Scenario.Position
import PageMetadata.Scenario.Catalog
import PageMetadata.Runner.Basic
import PageMetadata.Report
import PageMetadata.Serial.Scenario
import PageMetadata.Serial.Config
import PageMetadata.Serial.Error
import PageMetadata.Serial.Exchange
import PageMetadata.Proofs.Codec.Inline
import PageMetadata.Proofs.Codec.Header
import PageMetadata.Proofs.Codec.Value
import PageMetadata.Proofs.Codec.Bijection
import PageMetadata.Proofs.Codec.HeaderSequence
import PageMetadata.Proofs.Codec.CrossLayout
import PageMetadata.Proofs.Pattern
import PageMetadata.Proofs.PageGeometry
import PageMetadata.Proofs.Classifier
import PageMetadata.Proofs.Duration
import PageMetadata.Proofs.Model
import PageMetadata.Proofs.Client
import PageMetadata.Proofs.RequestTrail
import PageMetadata.Proofs.History
import PageMetadata.Proofs.Region
import PageMetadata.Proofs.Runner.Call
import PageMetadata.Proofs.Runner.Action
import PageMetadata.Proofs.Runner.Run
import PageMetadata.Proofs.Runner.Occurrence
import PageMetadata.Proofs.Runner.Blame
import PageMetadata.Proofs.Runner.Assertion
import PageMetadata.Proofs.Runner.History
import PageMetadata.Proofs.Simulator.Transition
import PageMetadata.Proofs.Simulator.Agreement
import PageMetadata.Proofs.Simulator.Lockstep
import PageMetadata.Proofs.Runner.Rehearsal
import PageMetadata.Proofs.Collaborator.Projection
import PageMetadata.Proofs.Simulator.Alike
import PageMetadata.Proofs.Observation
import PageMetadata.Proofs.Registry
import PageMetadata.Proofs.Representation
import PageMetadata.Proofs.Runner.Teardown
import PageMetadata.Proofs.Runner.Isolation
import PageMetadata.Proofs.Runner.Corruption
import PageMetadata.Proofs.Stats
import PageMetadata.Proofs.Summary
import PageMetadata.Proofs.Merging
import PageMetadata.Proofs.MergeOrder
import PageMetadata.Proofs.Runner.Accounting
import PageMetadata.Proofs.Runner.Sweep
import PageMetadata.Proofs.Runner.TableView
import PageMetadata.Proofs.Runner.Sequence
import PageMetadata.Proofs.Runner.Timing
import PageMetadata.Proofs.Runner.ExpansionCost
import PageMetadata.Proofs.Runner.Likeness
import PageMetadata.Proofs.Runner.Unrolling
import PageMetadata.Proofs.Runner.Relaxation
import PageMetadata.Proofs.Simulator.Conformance
import PageMetadata.Proofs.Simulator.Trials
import PageMetadata.Proofs.Simulator.Detection
import PageMetadata.Proofs.Catalog.Rehearsal
import PageMetadata.Proofs.Catalog.Acceptance
import PageMetadata.Proofs.Catalog.Rejection
import PageMetadata.Proofs.Separation
import PageMetadata.Proofs.TableIndependence
import PageMetadata.Proofs.Verdict
import PageMetadata.Proofs.Simulator.Refusal
import PageMetadata.Proofs.Simulator.Storage
import PageMetadata.Proofs.Simulator.SizedRead
import PageMetadata.Proofs.Simulator.CorruptedRead
import PageMetadata.Proofs.Placement
import PageMetadata.Proofs.Runner.Progression
import PageMetadata.Proofs.Runner.StepText
import PageMetadata.Proofs.Runner.Staging
