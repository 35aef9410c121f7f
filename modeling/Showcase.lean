import Showcase.Browser.Open
import Showcase.Browser.Step
import Showcase.Editor.ScrollOffset
import Showcase.Options.Write
import Showcase.Proofs.Outline.Prefixes
import Showcase.Proofs.Session.Activation
import Showcase.Proofs.Session.Frame
import Showcase.Proofs.Source.Written
import Showcase.Warning
import Showcase.Proofs.Outline.Paths
import Showcase.Proofs.Outline.Plain
import Showcase.Proofs.Json.Written
import Showcase.Proofs.Options.RoundTrip
import Showcase.Proofs.Session.Influence
import Showcase.Proofs.Session.History
import Showcase.Proofs.Outline.WellFormed
import Showcase.Proofs.Json.Skipping
import Showcase.Proofs.Options.Override
import Showcase.Proofs.Options.Agreement
import Showcase.Proofs.Outline.Innermost
import Showcase.Proofs.Editor.Cursor
import Showcase.Proofs.Source.LineByLine
import Showcase.Proofs.Bridge.Delivery
import Showcase.Proofs.Outline.Extension
import Showcase.Proofs.Outline.LineOrder
import Showcase.Proofs.Source.OwnCall
import Showcase.Proofs.Outline.Filter
import Showcase.Proofs.Outline.Rebuild
import Showcase.Proofs.Outline.Warnings
import Showcase.Proofs.Source.WellFormed
import Showcase.Proofs.Outline.Expansion
import Showcase.Proofs.Session.CursorMoves
import Showcase.Proofs.Session.Clamping
import Showcase.Proofs.Options.Overlay
import Showcase.Proofs.Session.Redelivery
import Showcase.Proofs.Demo.Hover
import Showcase.Proofs.Session.Scrolling
import Showcase.Proofs.Browser.Unsaved
import Showcase.Proofs.Outline.Ancestors
import Showcase.Proofs.Outline.Heading
import Showcase.Proofs.Session.Warnings
import Showcase.Proofs.Source.Advance
import Showcase.Proofs.Browser.Highlighted
