import ServiceContract.Text.Lines
import ServiceContract.DataType.Order
import ServiceContract.Shape
import ServiceContract.Compiled
import ServiceContract.Code.Steps
import ServiceContract.Code.Layout
import ServiceContract.Source.Module
import ServiceContract.Proofs.Compilation
import ServiceContract.Proofs.Routing
import ServiceContract.Proofs.Composition
import ServiceContract.Proofs.WellFormed
import ServiceContract.Proofs.Sorting
import ServiceContract.Proofs.FaultChains
import ServiceContract.Proofs.Ancestry
import ServiceContract.Proofs.Words
import ServiceContract.Proofs.CaseImages
import ServiceContract.Proofs.KeyConstants
import ServiceContract.Proofs.Brackets
import ServiceContract.Proofs.CleanNames
import ServiceContract.Proofs.TidySource
import ServiceContract.Proofs.BalancedCode
import ServiceContract.Proofs.MessageBrackets
import ServiceContract.Proofs.CallerBrackets
import ServiceContract.Proofs.HandlerBrackets
import ServiceContract.Proofs.ModuleBrackets
import ServiceContract.Proofs.Unions
import ServiceContract.Proofs.Rejection
import ServiceContract.Proofs.Renumbering
import ServiceContract.Proofs.Evolution
import ServiceContract.Proofs.Omission
import ServiceContract.Proofs.FreshNames
import ServiceContract.Proofs.MethodNames
import ServiceContract.Proofs.Declarations
import ServiceContract.Proofs.Skips
import ServiceContract.Proofs.TypeNames
import ServiceContract.Proofs.RegistrationOrder
import ServiceContract.Proofs.References
import ServiceContract.Proofs.CatchChains
import ServiceContract.Proofs.CarriedTypes
import ServiceContract.Proofs.KeyAllocation
import ServiceContract.Proofs.Forests
import ServiceContract.Proofs.Walks
import ServiceContract.Proofs.Literals
import ServiceContract.Proofs.Forwarding
import ServiceContract.Proofs.InboundVariants
import ServiceContract.Proofs.LegalIdentifiers
import ServiceContract.Proofs.WrittenLines
import ServiceContract.Proofs.OneLineNames
import ServiceContract.Proofs.Replies
import ServiceContract.Proofs.Specificity
import ServiceContract.Proofs.Cycles
import ServiceContract.Proofs.TransparentShapes
import ServiceContract.Proofs.ArgumentScopes
import ServiceContract.Proofs.FaithfulSpellings
import ServiceContract.Proofs.FileLines
import ServiceContract.Proofs.SerializerChoice
import ServiceContract.Proofs.KeyTableText
import ServiceContract.Proofs.TraceLines
import ServiceContract.Proofs.FaultVariants
import ServiceContract.Proofs.OneLineSource
import ServiceContract.Proofs.SilentTypes
import ServiceContract.Proofs.SilentCallers
import ServiceContract.Proofs.SilentHandlers
import ServiceContract.Proofs.RecordedCalls
import ServiceContract.Proofs.PlainPrinting
import ServiceContract.Proofs.PayloadVariants
