import AuthFoundation.Lib.Lua
import AuthFoundation.Lib.Pool
import AuthFoundation.Lib.Text
import AuthFoundation.Lib.Regex
import AuthFoundation.Record
import AuthFoundation.Handoff
import AuthFoundation.Identity
import AuthFoundation.Journal
import AuthFoundation.Ledger
import AuthFoundation.Postgres
import AuthFoundation.Stored
import AuthFoundation.Handlers
import AuthFoundation.Lawful
import AuthFoundation.LoginRun
import AuthFoundation.Content
import AuthFoundation.Exchange
import AuthFoundation.Expiry
import AuthFoundation.Logout
import AuthFoundation.PortalLogout
import AuthFoundation.Redirect
import AuthFoundation.Requests
import AuthFoundation.Decoding
import AuthFoundation.Agreement
import AuthFoundation.Reporting
import AuthFoundation.LocalInvariant
import AuthFoundation.Portal
import AuthFoundation.OneShot
import AuthFoundation.Cleanup
import AuthFoundation.Codec
import AuthFoundation.Messages
import AuthFoundation.Validators
import AuthFoundation.Return
import AuthFoundation.AtomicExchange
import AuthFoundation.Disabled
import AuthFoundation.Callback
import AuthFoundation.Joint
import AuthFoundation.Lib.Guard
import AuthFoundation.Lifetime
import AuthFoundation.Origin
import AuthFoundation.WhoAmI
