import GraphQLProjections.Main
import GraphQLProjections.Proofs.Generation.Collisions
import GraphQLProjections.Proofs.Generation.Completeness
import GraphQLProjections.Proofs.Generation.Depth
import GraphQLProjections.Proofs.Generation.EntityKeys
import GraphQLProjections.Proofs.Generation.Integrity
import GraphQLProjections.Proofs.Generation.Mapped
import GraphQLProjections.Proofs.Generation.Mirroring
import GraphQLProjections.Proofs.Generation.Operations
import GraphQLProjections.Proofs.Generation.Phases
import GraphQLProjections.Proofs.Generation.Reordering
import GraphQLProjections.Proofs.Generation.RepresentationGraph
import GraphQLProjections.Proofs.Generation.Skipping
import GraphQLProjections.Proofs.Generation.Soundness
import GraphQLProjections.Proofs.Generation.UnknownRoots
import GraphQLProjections.Proofs.KeyTree.Joining
import GraphQLProjections.Proofs.Literal.Text
import GraphQLProjections.Proofs.NameSupply.Calls
import GraphQLProjections.Proofs.NameSupply.Search
import GraphQLProjections.Proofs.Operation.Expansion
import GraphQLProjections.Proofs.Operation.RootFields
import GraphQLProjections.Proofs.Projection.Cutting
import GraphQLProjections.Proofs.Projection.Handles
import GraphQLProjections.Proofs.Projection.Neighbours
import GraphQLProjections.Proofs.Projection.Saturation
import GraphQLProjections.Proofs.Projection.Termination
import GraphQLProjections.Proofs.Reading
import GraphQLProjections.Proofs.Renaming.Generation
import GraphQLProjections.Proofs.Schema.Rearranging
