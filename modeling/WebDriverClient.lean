import WebDriverClient.Browsing.Client
import WebDriverClient.Browsing.Condition
import WebDriverClient.Browsing.Conversation
import WebDriverClient.Browsing.Element
import WebDriverClient.Browsing.Key
import WebDriverClient.Browsing.Rehearsal
import WebDriverClient.Browsing.Script
import WebDriverClient.Browsing.Session
import WebDriverClient.Browsing.Wait
import WebDriverClient.Browsing.Window
import WebDriverClient.Endpoint.Announcement
import WebDriverClient.Endpoint.Capabilities
import WebDriverClient.Endpoint.Driver
import WebDriverClient.Endpoint.FirefoxOptions
import WebDriverClient.Endpoint.Http
import WebDriverClient.Endpoint.Launcher
import WebDriverClient.Endpoint.Process
import WebDriverClient.Failure
import WebDriverClient.Json.Decoder
import WebDriverClient.Json.Printer
import WebDriverClient.Json.Value
import WebDriverClient.Json.Written
import WebDriverClient.Locator.Basic
import WebDriverClient.Locator.Compile
import WebDriverClient.Locator.Css
import WebDriverClient.Locator.Distribution
import WebDriverClient.Locator.Expression
import WebDriverClient.Locator.Failure
import WebDriverClient.Locator.Formula
import WebDriverClient.Locator.Name
import WebDriverClient.Locator.Query
import WebDriverClient.Locator.XPath
import WebDriverClient.Number.Decimal
import WebDriverClient.Number.Double
import WebDriverClient.Number.Scaling
import WebDriverClient.Proofs.Browsing.Answered
import WebDriverClient.Proofs.Browsing.Attribution
import WebDriverClient.Proofs.Browsing.Deadline
import WebDriverClient.Proofs.Browsing.Discovery
import WebDriverClient.Proofs.Browsing.ElementWait
import WebDriverClient.Proofs.Browsing.Ensures
import WebDriverClient.Proofs.Browsing.FirstResponder
import WebDriverClient.Proofs.Browsing.Led
import WebDriverClient.Proofs.Browsing.Polling
import WebDriverClient.Proofs.Browsing.Replies
import WebDriverClient.Proofs.Browsing.SavedTimeouts
import WebDriverClient.Proofs.Browsing.Schedule
import WebDriverClient.Proofs.Browsing.Teardown
import WebDriverClient.Proofs.Endpoint.Address
import WebDriverClient.Proofs.Endpoint.Announced
import WebDriverClient.Proofs.Endpoint.Launching
import WebDriverClient.Proofs.Endpoint.Listening
import WebDriverClient.Proofs.Endpoint.Prefix
import WebDriverClient.Proofs.Endpoint.Processes
import WebDriverClient.Proofs.Locator.Acceptance
import WebDriverClient.Proofs.Locator.Agreement
import WebDriverClient.Proofs.Locator.Assembly
import WebDriverClient.Proofs.Locator.Clauses
import WebDriverClient.Proofs.Locator.Css.Preprocessing
import WebDriverClient.Proofs.Locator.Css.Reading
import WebDriverClient.Proofs.Locator.Descendants
import WebDriverClient.Proofs.Locator.Diagnosis
import WebDriverClient.Proofs.Locator.Distributing
import WebDriverClient.Proofs.Locator.Grouping
import WebDriverClient.Proofs.Locator.Meaning
import WebDriverClient.Proofs.Locator.Mentions
import WebDriverClient.Proofs.Locator.NormalForm
import WebDriverClient.Proofs.Locator.Selection
import WebDriverClient.Proofs.Locator.Tests
import WebDriverClient.Proofs.Locator.Truth
import WebDriverClient.Proofs.Locator.XPath.Anchoring
import WebDriverClient.Proofs.Locator.XPath.Branches
import WebDriverClient.Proofs.Locator.XPath.Functions
import WebDriverClient.Proofs.Locator.XPath.Grammar
import WebDriverClient.Proofs.Locator.XPath.Lexical
import WebDriverClient.Proofs.Locator.XPath.Operand
import WebDriverClient.Proofs.Locator.XPath.ReadBack
import WebDriverClient.Proofs.Locator.XPath.Spelling
import WebDriverClient.Proofs.Locator.XPath.Unambiguous
import WebDriverClient.Proofs.Outcome
import WebDriverClient.Proofs.Text.Composition
import WebDriverClient.Proofs.Text.Normal
import WebDriverClient.Proofs.Text.Percent
import WebDriverClient.Proofs.Text.Tables
import WebDriverClient.Proofs.Text.Utf8
import WebDriverClient.Proofs.Url.Characters
import WebDriverClient.Proofs.Url.Domain
import WebDriverClient.Proofs.Url.Mapping
import WebDriverClient.Proofs.Url.Names
import WebDriverClient.Proofs.Url.Numerals
import WebDriverClient.Proofs.Url.Path
import WebDriverClient.Proofs.Url.Punycode
import WebDriverClient.Proofs.Url.Reading
import WebDriverClient.Proofs.Url.Shown
import WebDriverClient.Proofs.Url.Written
import WebDriverClient.Proofs.Wire.Canonical
import WebDriverClient.Proofs.Wire.Classification
import WebDriverClient.Proofs.Wire.CommandTable
import WebDriverClient.Proofs.Wire.Members
import WebDriverClient.Proofs.Wire.Records
import WebDriverClient.Proofs.Wire.RoundTrip
import WebDriverClient.Proofs.Wire.Segments
import WebDriverClient.Text.Base64
import WebDriverClient.Text.Blank
import WebDriverClient.Text.Composition
import WebDriverClient.Text.Duration
import WebDriverClient.Text.Lines
import WebDriverClient.Text.Normal
import WebDriverClient.Text.Percent
import WebDriverClient.Text.Quoted
import WebDriverClient.Text.Ranges
import WebDriverClient.Text.Table
import WebDriverClient.Text.Utf8
import WebDriverClient.Url.Basic
import WebDriverClient.Url.Domain
import WebDriverClient.Url.Domain.Direction
import WebDriverClient.Url.Domain.Joining
import WebDriverClient.Url.Domain.Mapping
import WebDriverClient.Url.Failure
import WebDriverClient.Url.Host
import WebDriverClient.Url.Ipv4
import WebDriverClient.Url.Ipv6
import WebDriverClient.Url.Parse
import WebDriverClient.Url.Path
import WebDriverClient.Url.Punycode
import WebDriverClient.Wire.Command
import WebDriverClient.Wire.ErrorCode
import WebDriverClient.Wire.Identifier
import WebDriverClient.Wire.Response
import WebDriverClient.Wire.Values
