import PageRouter.Config.Encoding
import PageRouter.Config.Faults
import PageRouter.Route.Compile
import PageRouter.Data.Json
import PageRouter.Url.Basic
import PageRouter.Url.Domain
import PageRouter.Url.Host
import PageRouter.Url.Authority
import PageRouter.Url.Reference
import PageRouter.Location
import PageRouter.Metrics
import PageRouter.Screen
import PageRouter.Site.Basic
import PageRouter.Site.Start
import PageRouter.Navigation.Channel
import PageRouter.Navigation.Navigator
import PageRouter.Navigation.Session
import PageRouter.Page
import PageRouter.Lifecycle.Launch
import PageRouter.Http.Request
import PageRouter.Http.Response
import PageRouter.Http.Status
import PageRouter.Http.Router
import PageRouter.Toml.Document
import PageRouter.Config.Load
import PageRouter.Log.Directive
import PageRouter.Log.Filter
import PageRouter.CommandLine.Arguments
import PageRouter.CommandLine.Inspect
import PageRouter.CommandLine.Serve
import PageRouter.Main
import PageRouter.Proofs.Path
import PageRouter.Proofs.Pattern.Reading
import PageRouter.Proofs.Config.Faults
import PageRouter.Proofs.Pattern.Covering
import PageRouter.Proofs.Route.Compile
import PageRouter.Proofs.Site.Start
import PageRouter.Proofs.Route.Shadowing
import PageRouter.Proofs.Text.Split
import PageRouter.Proofs.Url.Dots
import PageRouter.Proofs.Url.Segments
import PageRouter.Proofs.Url.Reference
import PageRouter.Proofs.Location
import PageRouter.Proofs.Config.Load
import PageRouter.Proofs.Http.Uri
import PageRouter.Proofs.Data.Json
import PageRouter.Proofs.Site.EntryPoints
import PageRouter.Proofs.Config.Blocks
import PageRouter.Proofs.Site.Agreement
import PageRouter.Proofs.Navigation.Calls
import PageRouter.Proofs.Lifecycle.Shutdown
import PageRouter.Proofs.Navigation.Deeds
import PageRouter.Proofs.Navigation.Observers
import PageRouter.Proofs.Lifecycle.Launch
import PageRouter.Proofs.Site.Serving
import PageRouter.Proofs.Markup
import PageRouter.Proofs.Page
import PageRouter.Proofs.View.Shape
import PageRouter.Proofs.Site.Pages
import PageRouter.Proofs.Pattern.Extension
import PageRouter.Proofs.Route.Crowding
import PageRouter.Proofs.Pattern.Inclusion
import PageRouter.Proofs.Pattern.Substitution
import PageRouter.Proofs.Route.Disjoint
import PageRouter.Proofs.Site.Standard
import PageRouter.Proofs.Config.Report
import PageRouter.Proofs.Route.Order
import PageRouter.Proofs.Site.Failing
import PageRouter.Proofs.Site.Accounts
import PageRouter.Proofs.Url.Schemes
import PageRouter.Proofs.Site.Addresses
import PageRouter.Proofs.Pattern.Grammar
import PageRouter.Proofs.Pattern.Writing
import PageRouter.Proofs.Pattern.Reachable
import PageRouter.Http.Layers
import PageRouter.Proofs.Http.Layers
import PageRouter.Proofs.Site.Slashes
import PageRouter.Proofs.Route.LetterCase
import PageRouter.Proofs.View.Registering
import PageRouter.Proofs.Data.Record
import PageRouter.Proofs.Config.Elision
