import Sunbolt.Control.Ownership
import Sunbolt.Control.LocalSurvival
import Sunbolt.Control.ConnectionLedger
import Sunbolt.Control.SessionLimits
import Sunbolt.Control.ReconnectTokens
import Sunbolt.Control.StateChanges
import Sunbolt.Control.DetachOwnership
import Sunbolt.Audit.Integrity
import Sunbolt.Audit.KeyRedaction
import Sunbolt.Audit.HeaderRedaction
import Sunbolt.Audit.SecretRedaction
import Sunbolt.Control.OutputText
import Sunbolt.Control.NodeIsolation
import Sunbolt.Control.EventStreams
import Sunbolt.Control.ExitDelivery
import Sunbolt.Control.FrameSequence
import Sunbolt.Control.StaleCleanup
import Sunbolt.Control.NodeRevocation
import Sunbolt.Control.ReattachDelivery
import Sunbolt.Control.RevokedNodes
import Sunbolt.Control.NodeCredentials
import Sunbolt.Control.RecentMfa
import Sunbolt.Control.CloseDeadlock
import Sunbolt.Control.ExplicitTerminate
import Sunbolt.Control.IdleExpiry
import Sunbolt.Control.RemoteDelivery
import Sunbolt.Control.RateLimits
import Sunbolt.Control.LoginAttempts
import Sunbolt.Control.SessionValidity
import Sunbolt.Control.NodePresence
import Sunbolt.Audit.Timestamps
import Sunbolt.Control.RouteRecovery
import Sunbolt.Control.LongPollDelivery
import Sunbolt.Control.TokenDelivery
import Sunbolt.Auth.Rbac
import Sunbolt.Control.BulkRemoval
import Sunbolt.Control.PasswordChange
import Sunbolt.Control.RecoveryUses
import Sunbolt.Control.RecoveryBatches
import Sunbolt.Control.ReplayNumbering
import Sunbolt.Control.DetachAudit
import Sunbolt.Control.ReattachSize
import Sunbolt.Control.FailedOpens
import Sunbolt.Auth.TotpCodes
import Sunbolt.Auth.Passkeys
import Sunbolt.Control.TotpEnrollments
import Sunbolt.Control.SessionCookie
import Sunbolt.Control.BrowserOrigin
import Sunbolt.Control.ContentSecurityPolicy
import Sunbolt.Control.RouteHealth
import Sunbolt.Control.ExpiryInstants
import Sunbolt.Terminal.CloseRuns
import Sunbolt.Agent.RuntimeTracking
import Sunbolt.Protocol.ReconnectBackoff
import Sunbolt.Protocol.OutputSequences
import Sunbolt.Auth.Base64url
import Sunbolt.Auth.TotpWindow
import Sunbolt.Auth.ProvisioningUri
import Sunbolt.Control.CredentialChain
import Sunbolt.Audit.WordPass
import Sunbolt.Audit.RedactorSafety
import Sunbolt.Ui.ReattachFrames
import Sunbolt.Ui.StoredSessions
import Sunbolt.Ui.PageRequests
import Sunbolt.Agent.HostIdentity
import Sunbolt.Control.NodeAccess
import Sunbolt.Control.NodeTrail
import Sunbolt.Control.AgentFailures
import Sunbolt.Control.StartedAccounts
