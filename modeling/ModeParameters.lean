import ModeParameters.BitSpan
import ModeParameters.Bytes
import ModeParameters.Descriptor.Block
import ModeParameters.Descriptor.Chain
import ModeParameters.Descriptor.Layout
import ModeParameters.Device.Command
import ModeParameters.Device.Identity
import ModeParameters.Device.Memory
import ModeParameters.DeviceType
import ModeParameters.Editor.Change
import ModeParameters.Editor.Fetch
import ModeParameters.Editor.Placement
import ModeParameters.Editor.Report
import ModeParameters.Editor.Session
import ModeParameters.Error
import ModeParameters.Field
import ModeParameters.FieldValue
import ModeParameters.Item.Basic
import ModeParameters.Item.Parser
import ModeParameters.Item.Resolution
import ModeParameters.Log
import ModeParameters.ModeHeader
import ModeParameters.Namespace
import ModeParameters.Page.Header
import ModeParameters.Page.Image
import ModeParameters.Page.Key
import ModeParameters.Proofs.Attempt
import ModeParameters.Proofs.BitSpan.Codec
import ModeParameters.Proofs.BitSpan.Exact
import ModeParameters.Proofs.Bytes.Bits
import ModeParameters.Proofs.Descriptor.Addresses
import ModeParameters.Proofs.Descriptor.Chain
import ModeParameters.Proofs.Descriptor.Counting
import ModeParameters.Proofs.Descriptor.FixedLength
import ModeParameters.Proofs.Descriptor.Layout
import ModeParameters.Proofs.Descriptor.LongestChain
import ModeParameters.Proofs.Device.Conforming
import ModeParameters.Proofs.Editor.Acceptance
import ModeParameters.Proofs.Editor.AddressOverflow
import ModeParameters.Proofs.Editor.Commands
import ModeParameters.Proofs.Editor.Configuration
import ModeParameters.Proofs.Editor.Defaults
import ModeParameters.Proofs.Editor.DescriptorFields
import ModeParameters.Proofs.Editor.DescriptorFrame
import ModeParameters.Proofs.Editor.DescriptorTies
import ModeParameters.Proofs.Editor.DryRun
import ModeParameters.Proofs.Editor.Edits
import ModeParameters.Proofs.Editor.Flexible
import ModeParameters.Proofs.Editor.HeldPages
import ModeParameters.Proofs.Editor.Interchange
import ModeParameters.Proofs.Editor.Isolation
import ModeParameters.Proofs.Editor.Judgement
import ModeParameters.Proofs.Editor.PageReports
import ModeParameters.Proofs.Editor.Placement
import ModeParameters.Proofs.Editor.Reading
import ModeParameters.Proofs.Editor.RepeatedReset
import ModeParameters.Proofs.Editor.Reports
import ModeParameters.Proofs.Editor.RoundTrip
import ModeParameters.Proofs.Editor.Tables
import ModeParameters.Proofs.Editor.Transactions
import ModeParameters.Proofs.Editor.UndescribedPages
import ModeParameters.Proofs.Editor.Variants
import ModeParameters.Proofs.Item.Acronyms
import ModeParameters.Proofs.Item.Coordinates
import ModeParameters.Proofs.Item.Grammar
import ModeParameters.Proofs.Item.Labels
import ModeParameters.Proofs.Item.Lists
import ModeParameters.Proofs.Item.Names
import ModeParameters.Proofs.Item.RenderedValues
import ModeParameters.Proofs.Item.Resolution
import ModeParameters.Proofs.Item.Values
import ModeParameters.Proofs.Page.Header
import ModeParameters.Proofs.Page.Image
import ModeParameters.Proofs.Registry.Acronym
import ModeParameters.Proofs.Registry.Enumeration
import ModeParameters.Proofs.Registry.Isolation
import ModeParameters.Proofs.Registry.Pages
import ModeParameters.Proofs.Run.Outcome
import ModeParameters.Proofs.Session.Agreement
import ModeParameters.Proofs.Session.Effects
import ModeParameters.Proofs.Text.Numeral
import ModeParameters.Proofs.Text.Padding
import ModeParameters.Registry.Acronym
import ModeParameters.Registry.Basic
import ModeParameters.Registry.Sample
import ModeParameters.Run
import ModeParameters.Text.Blank
import ModeParameters.Text.GraphemeExtend
import ModeParameters.Text.Numeral
import ModeParameters.Text.Quoted
import ModeParameters.Text.Split
import ModeParameters.Text.Unprintable
import ModeParameters.Text.Utf8
