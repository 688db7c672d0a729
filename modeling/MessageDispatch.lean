import MessageDispatch.Arguments
import MessageDispatch.Arguments.Named
import MessageDispatch.Arguments.Positional
import MessageDispatch.Audit
import MessageDispatch.Audit.Line
import MessageDispatch.Call
import MessageDispatch.Configuration
import MessageDispatch.Contract
import MessageDispatch.Contract.Body
import MessageDispatch.Contract.Parameter
import MessageDispatch.Contract.Signature
import MessageDispatch.Dispatcher
import MessageDispatch.Error
import MessageDispatch.Keys
import MessageDispatch.Naming
import MessageDispatch.Number
import MessageDispatch.Number.Binary
import MessageDispatch.Number.Integer
import MessageDispatch.Number.Shortest
import MessageDispatch.Placeholder.Scope
import MessageDispatch.Placeholder.Source
import MessageDispatch.Probe
import MessageDispatch.Proofs.Addressing
import MessageDispatch.Proofs.AnswerType
import MessageDispatch.Proofs.ArgumentTypes
import MessageDispatch.Proofs.Binding
import MessageDispatch.Proofs.BuiltIn
import MessageDispatch.Proofs.ContractBuilding
import MessageDispatch.Proofs.Decorator
import MessageDispatch.Proofs.Delegation
import MessageDispatch.Proofs.DistinctNames
import MessageDispatch.Proofs.Extension
import MessageDispatch.Proofs.Fault
import MessageDispatch.Proofs.KeysAndResults
import MessageDispatch.Proofs.LaterPolicies
import MessageDispatch.Proofs.LatestEntry
import MessageDispatch.Proofs.Loading
import MessageDispatch.Proofs.MessageCall
import MessageDispatch.Proofs.MethodIds
import MessageDispatch.Proofs.Named
import MessageDispatch.Proofs.NamedPlaces
import MessageDispatch.Proofs.NamedRun
import MessageDispatch.Proofs.Neighbours
import MessageDispatch.Proofs.NullArguments
import MessageDispatch.Proofs.ParameterLists
import MessageDispatch.Proofs.PartialEquality
import MessageDispatch.Proofs.PathLimits
import MessageDispatch.Proofs.Positional
import MessageDispatch.Proofs.ProbeHistory
import MessageDispatch.Proofs.ProbeSession
import MessageDispatch.Proofs.ProcessSource
import MessageDispatch.Proofs.Registrations
import MessageDispatch.Proofs.SettingDecoders
import MessageDispatch.Proofs.SnakeCase
import MessageDispatch.Proofs.Stages
import MessageDispatch.Proofs.Styles
import MessageDispatch.Proofs.Table
import MessageDispatch.Proofs.TagBundles
import MessageDispatch.Proofs.TextLeaves
import MessageDispatch.Proofs.WrittenSettings
import MessageDispatch.Registry
import MessageDispatch.Registry.Adapter
import MessageDispatch.Registry.Transformer
import MessageDispatch.Results
import MessageDispatch.Settings
import MessageDispatch.Settings.Decode
import MessageDispatch.Settings.Load
import MessageDispatch.Settings.Path
import MessageDispatch.TagBundle
import MessageDispatch.Text
import MessageDispatch.Text.Blank
import MessageDispatch.Text.LowerCase
import MessageDispatch.Text.Quoted
import MessageDispatch.Text.SnakeCase
import MessageDispatch.Text.Unseen
import MessageDispatch.Toml.Document
import MessageDispatch.Toml.Item
import MessageDispatch.Toml.Node
import MessageDispatch.Toml.Scalar
import MessageDispatch.Toml.Statement
import MessageDispatch.Toml.Token
import MessageDispatch.Toml.Tree
import MessageDispatch.Ty
import MessageDispatch.Value
import MessageDispatch.Value.Describe
import MessageDispatch.Value.Equality
