import TextureGraph.Image
import TextureGraph.Operation.Catalogue
import TextureGraph.Storage
import TextureGraph.Proofs.DependencyOrder
import TextureGraph.Proofs.Counter
import TextureGraph.Proofs.Rebuild
import TextureGraph.Proofs.Reachable
import TextureGraph.Proofs.LinkAdmission
import TextureGraph.Proofs.Dataflow
import TextureGraph.Proofs.Failure
import TextureGraph.Proofs.DepthLimit
import TextureGraph.Proofs.Numbering
import TextureGraph.Proofs.Violation
import TextureGraph.Proofs.Snapshot
import TextureGraph.Proofs.KnownType
import TextureGraph.Proofs.FloatOutput
import TextureGraph.Proofs.Upstream
import TextureGraph.Proofs.Effect
import TextureGraph.Proofs.DeclaredInput
import TextureGraph.Proofs.Session
import TextureGraph.Proofs.Wiring
import TextureGraph.Proofs.Seniority
import TextureGraph.Proofs.Removal
import TextureGraph.Proofs.Batch
import TextureGraph.Proofs.Rendering
import TextureGraph.Proofs.Accounting
import TextureGraph.Proofs.Registration
import TextureGraph.Proofs.Exact
import TextureGraph.Proofs.HueCircle
import TextureGraph.Proofs.NearestPoint
import TextureGraph.Proofs.Rank
import TextureGraph.Proofs.SingleRank
import TextureGraph.Proofs.Shortest
import TextureGraph.Proofs.Halfway
import TextureGraph.Proofs.Scaling
import TextureGraph.Proofs.Tiling
import TextureGraph.Proofs.NoiseRange
import TextureGraph.Proofs.Single.Order
import TextureGraph.Proofs.Single.Rounding
import TextureGraph.Proofs.Single.Value
import TextureGraph.Proofs.Single.Arithmetic
import TextureGraph.Proofs.CellularRange
import TextureGraph.Proofs.RoundedNoise
import TextureGraph.Proofs.ScaleLimit
import TextureGraph.Proofs.Single.WholePart
import TextureGraph.Proofs.SquareParity
import TextureGraph.Proofs.RangeGuard
import TextureGraph.Proofs.HueTurn
import TextureGraph.Proofs.Json.Document
import TextureGraph.Proofs.Ron.Document
