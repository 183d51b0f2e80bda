import RouteSchema.Cli.Commands
import RouteSchema.Expression
import RouteSchema.Main
import RouteSchema.Proofs.Building
import RouteSchema.Proofs.Calling
import RouteSchema.Proofs.Exiting
import RouteSchema.Proofs.Failing
import RouteSchema.Proofs.Flattening
import RouteSchema.Proofs.Generating
import RouteSchema.Proofs.Halting
import RouteSchema.Proofs.Performing
import RouteSchema.Proofs.Reading
import RouteSchema.Proofs.Rereading
import RouteSchema.Proofs.Resolving
import RouteSchema.Proofs.Retrying
import RouteSchema.Proofs.Showing
import RouteSchema.Proofs.Tracing
import RouteSchema.Proofs.Making
import RouteSchema.Proofs.Accepting
import RouteSchema.Proofs.Mirroring
import RouteSchema.Proofs.Authoring
import RouteSchema.Proofs.Refusing
import RouteSchema.Proofs.Consulting
import RouteSchema.Proofs.Loading
import RouteSchema.Proofs.Hiding
import RouteSchema.Proofs.Thinning
import RouteSchema.Proofs.Muting
import RouteSchema.Proofs.Flagging
import RouteSchema.Proofs.Placing
import RouteSchema.Proofs.Searching
import RouteSchema.Proofs.Bracing
import RouteSchema.Proofs.Configuring
import RouteSchema.Proofs.Rounding
import RouteSchema.Proofs.Shortening
import RouteSchema.Proofs.Spelling
import RouteSchema.Proofs.Recovering
import RouteSchema.Proofs.Echoing
import RouteSchema.Proofs.Settling
import RouteSchema.Proofs.Rehearsing
import RouteSchema.Proofs.Heading
import RouteSchema.Proofs.Overriding
import RouteSchema.Proofs.Segmenting
import RouteSchema.Proofs.Naming
import RouteSchema.Proofs.Carrying
import RouteSchema.Proofs.Rendering
import RouteSchema.Proofs.Inspecting
import RouteSchema.Proofs.Pairing
