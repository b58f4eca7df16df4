import Testkit.LabelledRuns
import Testkit.ReadThrough
import Testkit.RequestContext
import Testkit.Resolver
import Testkit.Gate
import Testkit.ResolverMachine
import Testkit.ResolverRuns
import Testkit.Revocation
import Testkit.BackendCalls
import Testkit.TenantClamp
import Testkit.Phone
import Testkit.Telemetry
import Testkit.TenantWrites
import Testkit.CursorPager
import Testkit.OffsetPages
import Testkit.PagerOffset
import Testkit.PagerOverlap
import Testkit.Dashboard
import Testkit.TrustedTenant
import Testkit.MirroredMessages
import Testkit.TelemetryMirror
import Testkit.License
import Testkit.ConsoleDoor
import Testkit.ConsoleGuards
import Testkit.ConsoleTabs
import Testkit.SendEmail
import Testkit.PagerFailures
import Testkit.InsertionOrder
import Testkit.LateAnswers
import Testkit.TenantRows
import Testkit.DashboardRuns
import Testkit.CountryJoin
import Testkit.RegionCascade
import Testkit.MailText
import Testkit.MailAddresses
import Testkit.SmsSegments
import Testkit.Lifecycle
import Testkit.Wiring
import Testkit.ModuleSlot
import Testkit.FileMd5
import Testkit.CustomVerbs
import Testkit.JsonTree
import Testkit.OpenApiFix
import Testkit.LargeAttachments
import Testkit.Sending
import Testkit.LatestEffect
import Testkit.ReferencePages
import Testkit.TenantListPage
import Testkit.ChunkReload
import Testkit.RegisterPage
import Testkit.DoorWrites
import Testkit.Landing
import Testkit.CredentialsPage
import Testkit.MessagePages
import Testkit.DialCodes
import Testkit.SessionEnd
import Testkit.OptionalBodies
import Testkit.MessageForms
import Testkit.IdentityPage
import Testkit.ListPages
