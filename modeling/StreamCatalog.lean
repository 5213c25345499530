import StreamCatalog.Main
import StreamCatalog.Session
import StreamCatalog.Proofs.Refinement
import StreamCatalog.Proofs.StreamHistory
import StreamCatalog.Proofs.Retry
import StreamCatalog.Proofs.Course
import StreamCatalog.Proofs.Routing
import StreamCatalog.Proofs.Deliveries
import StreamCatalog.Proofs.Incarnations
import StreamCatalog.Proofs.Contention
import StreamCatalog.Proofs.Independence
import StreamCatalog.Proofs.Rivalry
import StreamCatalog.Proofs.Isolation
import StreamCatalog.Proofs.WellFormed
import StreamCatalog.Proofs.Failures
import StreamCatalog.Proofs.Teardown
import StreamCatalog.Proofs.Versions
import StreamCatalog.Proofs.Staleness
import StreamCatalog.Proofs.Names
import StreamCatalog.Proofs.KeyText
import StreamCatalog.Proofs.Blame
import StreamCatalog.Proofs.Listing
import StreamCatalog.Proofs.Walked
