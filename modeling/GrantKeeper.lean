import GrantKeeper.Authenticator
import GrantKeeper.Challenge
import GrantKeeper.Command.Run
import GrantKeeper.Digest.Sha1
import GrantKeeper.Files.Tree
import GrantKeeper.Keyring.File
import GrantKeeper.Keyring.Secrets
import GrantKeeper.Main
import GrantKeeper.Proofs.Authenticator.Anonymous
import GrantKeeper.Proofs.Authenticator.Faults
import GrantKeeper.Proofs.Authenticator.Lifecycle
import GrantKeeper.Proofs.Authenticator.Restart
import GrantKeeper.Proofs.Authenticator.Served
import GrantKeeper.Proofs.Command.Address
import GrantKeeper.Proofs.Command.Handout
import GrantKeeper.Proofs.Command.History
import GrantKeeper.Proofs.Command.Intact
import GrantKeeper.Proofs.Command.Pretty
import GrantKeeper.Proofs.Command.Scopes
import GrantKeeper.Proofs.Config.Precedence
import GrantKeeper.Proofs.Credential.Directory
import GrantKeeper.Proofs.Credential.Frame
import GrantKeeper.Proofs.Credential.Logout
import GrantKeeper.Proofs.Credential.Refusal
import GrantKeeper.Proofs.Credential.Reloading
import GrantKeeper.Proofs.Credential.SingleFlight
import GrantKeeper.Proofs.Exchange.Expiry
import GrantKeeper.Proofs.Exchange.Forms
import GrantKeeper.Proofs.Faults
import GrantKeeper.Proofs.Grant.Shown
import GrantKeeper.Proofs.Http.Trace
import GrantKeeper.Proofs.KeyFile.Location
import GrantKeeper.Proofs.Keyring.Astray
import GrantKeeper.Proofs.Keyring.Crash
import GrantKeeper.Proofs.Keyring.Interleaving
import GrantKeeper.Proofs.Login
import GrantKeeper.Proofs.Token.Times
import GrantKeeper.Proofs.Token.UserName
import GrantKeeper.Rehearsal.Stage
