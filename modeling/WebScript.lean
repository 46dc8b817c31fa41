import WebScript.Script
import WebScript.Proofs.Isolation
import WebScript.Proofs.Atomicity
import WebScript.Proofs.ErrorPage
import WebScript.Proofs.Multipart.RoundTrip
import WebScript.Proofs.Multipart.Truncation
import WebScript.Proofs.Multipart.Memory
import WebScript.Proofs.Fields
import WebScript.Proofs.Tables
import WebScript.Proofs.Urlencoded
import WebScript.Proofs.Cookies
import WebScript.Proofs.Monotonicity
import WebScript.Proofs.RequestView
import WebScript.Proofs.Refinement
import WebScript.Proofs.Forms
import WebScript.Proofs.RelativeUrl
import WebScript.Proofs.Outbound
import WebScript.Proofs.Observation
import WebScript.Proofs.Credentials
import WebScript.Proofs.Url.Percent
import WebScript.Proofs.Url.Path
import WebScript.Proofs.Url.Written
import WebScript.Proofs.Url.Rejoined
import WebScript.Proofs.Redirect
import WebScript.Proofs.Escaped
import WebScript.Proofs.Cookies.Attributes
import WebScript.Proofs.Cookies.RequestPair
import WebScript.Proofs.Address
import WebScript.Proofs.Duration.Exact
import WebScript.Proofs.FormBodies
import WebScript.Proofs.Tables.Exact
import WebScript.Proofs.Tables.History
import WebScript.Proofs.Headers.History
import WebScript.Proofs.Tables.Json
import WebScript.Proofs.Case.Forms
import WebScript.Proofs.Headers.Canonical
import WebScript.Proofs.Headers.Outbound
import WebScript.Proofs.Rendering
import WebScript.Proofs.Reference
import WebScript.Proofs.MailAddress
import WebScript.Proofs.Reference.Numbers
import WebScript.Proofs.Loop
import WebScript.Proofs.Parameters.Scan
import WebScript.Proofs.Multipart.Positions
