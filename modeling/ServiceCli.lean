import ServiceCli.Main
import ServiceCli.Proofs.Flag.Coverage
import ServiceCli.Sample
import ServiceCli.Proofs.Command.Regrouping
import ServiceCli.Proofs.Command.Uniqueness
import ServiceCli.Proofs.Command.Filling
import ServiceCli.Proofs.Command.Order
import ServiceCli.Proofs.Generation.Outcome
import ServiceCli.Proofs.Source.Functions
import ServiceCli.Proofs.Generation.Functions
import ServiceCli.Proofs.Flag.Origin
import ServiceCli.Flag.Expansion
import ServiceCli.Proofs.Flag.Agreement
import ServiceCli.Proofs.Flag.History
import ServiceCli.Proofs.Generation.Leaves
import ServiceCli.Proofs.Flag.Interruption
import ServiceCli.Proofs.Flag.Completeness
import ServiceCli.Proofs.Generation.Legal
import ServiceCli.Proofs.Flag.Soundness
import ServiceCli.Proofs.Flag.Walks
import ServiceCli.Proofs.Generation.Reserved
import ServiceCli.Proofs.Generation.Equipped
import ServiceCli.Proofs.Generation.Relevance
import ServiceCli.Proofs.Generation.Filewise
import ServiceCli.Proofs.Catalog.Closure
import ServiceCli.Proofs.Sample.Annotations
import ServiceCli.Proofs.Catalog.Targets
import ServiceCli.Proofs.Command.Duplicates
import ServiceCli.Proofs.Source.Contents
import ServiceCli.Proofs.Command.Registration
import ServiceCli.Proofs.Text.Casing
import ServiceCli.Proofs.Sample.Parameter
import ServiceCli.Proofs.Plugin
import ServiceCli.Proofs.Settings.Precedence
import ServiceCli.Proofs.Flag.Nesting
