import SchemaTables.Json.Parser
import SchemaTables.Main
import SchemaTables.Proofs.Steps
import SchemaTables.Proofs.FirstFault
import SchemaTables.Proofs.Storage.Growth
import SchemaTables.Proofs.Storage.Soundness
import SchemaTables.Proofs.Storage.Layout
import SchemaTables.Proofs.Storage.Linking
import SchemaTables.Proofs.Storage.Build
import SchemaTables.Proofs.Storage.Relations
import SchemaTables.Proofs.Storage.ForeignKeys
import SchemaTables.Proofs.Elaboration.Keyed
import SchemaTables.Proofs.Elaboration.Renumbering
import SchemaTables.Proofs.Elaboration.NormalForm
import SchemaTables.Proofs.Elaboration.Fallback
import SchemaTables.Proofs.Elaboration.Faults
import SchemaTables.Proofs.Storage.JoinTables
import SchemaTables.Proofs.Storage.SharedColumns
import SchemaTables.Proofs.Elaboration.Gathering
import SchemaTables.Proofs.Elaboration.Fields
import SchemaTables.Proofs.Elaboration.Refusal
import SchemaTables.Proofs.Elaboration.Typing
import SchemaTables.Proofs.Storage.Failures
import SchemaTables.Proofs.Storage.JoinColumns
import SchemaTables.Proofs.Storage.Sides
import SchemaTables.Proofs.Storage.Additions
import SchemaTables.Proofs.Storage.Requests
import SchemaTables.Proofs.Rearrangement
import SchemaTables.Proofs.Storage.Rearrangement
import SchemaTables.Proofs.Storage.OtherSides
import SchemaTables.Proofs.Diagnostic
import SchemaTables.Proofs.Files.Tree
import SchemaTables.Proofs.Files.Discovery
import SchemaTables.Proofs.Loading
import SchemaTables.Proofs.CommandLine.Arguments
import SchemaTables.Proofs.CommandLine.Run
import SchemaTables.Proofs.Storage.TableOrder
import SchemaTables.Proofs.Storage.EntityTables
import SchemaTables.Proofs.Storage.Nullability
import SchemaTables.Proofs.Storage.Appending
import SchemaTables.Proofs.Operations
import SchemaTables.Proofs.Elaboration.TypeLayers
import SchemaTables.Proofs.Elaboration.Warnings
import SchemaTables.Proofs.CodeMap.Spans
import SchemaTables.Proofs.Storage.Names
import SchemaTables.Proofs.Elaboration.Marks
import SchemaTables.Proofs.Codec
import SchemaTables.Proofs.Storage.AnyOrder
