import AccessSync.Main
import AccessSync.Proofs.Api.Addressing
import AccessSync.Proofs.Api.Bases
import AccessSync.Proofs.Api.Query
import AccessSync.Proofs.Catalog.Chain
import AccessSync.Proofs.Catalog.Records
import AccessSync.Proofs.Catalog.Vocabulary
import AccessSync.Proofs.Cli.HandedBack
import AccessSync.Proofs.Cli.OutputModes
import AccessSync.Proofs.Cli.SyncOutput
import AccessSync.Proofs.Config.Environment
import AccessSync.Proofs.Config.Retry
import AccessSync.Proofs.Confinement
import AccessSync.Proofs.Discovery.Agreement
import AccessSync.Proofs.Discovery.Denial
import AccessSync.Proofs.Grants.AnyToken
import AccessSync.Proofs.Grants.Independence
import AccessSync.Proofs.Grants.Overlap
import AccessSync.Proofs.Grants.Replay
import AccessSync.Proofs.Http.Retry
import AccessSync.Proofs.Http.TokenHistory
import AccessSync.Proofs.PageStack.Phases
import AccessSync.Proofs.Paging
import AccessSync.Proofs.Provision.Interruptions
import AccessSync.Proofs.Provision.Revocation
import AccessSync.Proofs.Sync.Tree
