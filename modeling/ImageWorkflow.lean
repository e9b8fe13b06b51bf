import ImageWorkflow.Configuration.Basic
import ImageWorkflow.Configuration.Conversion
import ImageWorkflow.Configuration.EnvFile
import ImageWorkflow.Configuration.Sources
import ImageWorkflow.Engine.Basic
import ImageWorkflow.Engine.Failure
import ImageWorkflow.Engine.Local
import ImageWorkflow.Engine.Log
import ImageWorkflow.Engine.Report
import ImageWorkflow.Engine.Run
import ImageWorkflow.Engine.State
import ImageWorkflow.Engine.Visit
import ImageWorkflow.Engine.Workbench
import ImageWorkflow.Files.Path
import ImageWorkflow.Files.Tree
import ImageWorkflow.Image.Basic
import ImageWorkflow.Image.Deflate
import ImageWorkflow.Image.Fit
import ImageWorkflow.Image.Png
import ImageWorkflow.Image.PngReader
import ImageWorkflow.Image.Scanline
import ImageWorkflow.Image.Text
import ImageWorkflow.Instruction.Basic
import ImageWorkflow.Instruction.Catalogue
import ImageWorkflow.Instruction.Summary
import ImageWorkflow.Instruction.Wire
import ImageWorkflow.Json.Basic
import ImageWorkflow.Json.Display
import ImageWorkflow.Json.Encoded
import ImageWorkflow.Json.Parser
import ImageWorkflow.Json.Printer
import ImageWorkflow.Number.Binary64
import ImageWorkflow.Number.Decimal
import ImageWorkflow.Number.Numeral
import ImageWorkflow.Number.Quantity
import ImageWorkflow.Number.Shortest
import ImageWorkflow.Proofs.Brackets
import ImageWorkflow.Proofs.Completeness
import ImageWorkflow.Proofs.Course
import ImageWorkflow.Proofs.FiniteRange
import ImageWorkflow.Proofs.LoopTrace
import ImageWorkflow.Proofs.Nesting
import ImageWorkflow.Proofs.Results
import ImageWorkflow.Proofs.Rounding
import ImageWorkflow.Proofs.Sameness
import ImageWorkflow.Proofs.SettingsWire
import ImageWorkflow.Proofs.ShortestDecimal
import ImageWorkflow.Proofs.Steering
import ImageWorkflow.Proofs.Termination
import ImageWorkflow.Proofs.Walk
import ImageWorkflow.Proofs.Weights
import ImageWorkflow.Proofs.WireRoundTrip
import ImageWorkflow.Provider.Basic
import ImageWorkflow.Provider.Catalogue
import ImageWorkflow.Provider.Error
import ImageWorkflow.Provider.Exchange
import ImageWorkflow.Provider.Http
import ImageWorkflow.Provider.Progress
import ImageWorkflow.Provider.RequestLog
import ImageWorkflow.Provider.Scripted
import ImageWorkflow.Registry
import ImageWorkflow.Saving.Image
import ImageWorkflow.Saving.Plugin
import ImageWorkflow.Service.Basic
import ImageWorkflow.Service.Body
import ImageWorkflow.Service.Report
import ImageWorkflow.Service.Turn
import ImageWorkflow.Settings.Basic
import ImageWorkflow.Settings.Display
import ImageWorkflow.Settings.Request
import ImageWorkflow.Settings.Wire
import ImageWorkflow.Text.Base64
import ImageWorkflow.Text.Blank
import ImageWorkflow.Text.Cased
import ImageWorkflow.Text.Digits
import ImageWorkflow.Text.Extension
import ImageWorkflow.Text.Lines
import ImageWorkflow.Text.LowerCase
import ImageWorkflow.Text.Printable
import ImageWorkflow.Text.Quoted
import ImageWorkflow.Text.Utf8
import ImageWorkflow.Web.HostCharacter
import ImageWorkflow.Web.HostName
import ImageWorkflow.Web.IpAddress
import ImageWorkflow.Web.Percent
import ImageWorkflow.Web.Punycode
import ImageWorkflow.Web.Url
import ImageWorkflow.Workflow.Basic
import ImageWorkflow.Workflow.File
import ImageWorkflow.Workflow.Loops
import ImageWorkflow.Workflow.Support
import ImageWorkflow.Workflow.Validation
import ImageWorkflow.Proofs.Decoding
import ImageWorkflow.Proofs.Effects
import ImageWorkflow.Proofs.Requests
import ImageWorkflow.Proofs.Accumulation
import ImageWorkflow.Proofs.Freshness
import ImageWorkflow.Proofs.Foresight
import ImageWorkflow.Proofs.Records
import ImageWorkflow.Proofs.Interruption
import ImageWorkflow.Proofs.Undone
import ImageWorkflow.Proofs.CallShape
import ImageWorkflow.Proofs.FailedSaves
import ImageWorkflow.Proofs.VisitCounts
import ImageWorkflow.Proofs.Footprint
import ImageWorkflow.Proofs.Containment
import ImageWorkflow.Proofs.Reading
import ImageWorkflow.Proofs.EventStream
import ImageWorkflow.Proofs.ProviderMemory
import ImageWorkflow.Proofs.Contacts
import ImageWorkflow.Proofs.CallRecords
import ImageWorkflow.Proofs.SavedFiles
import ImageWorkflow.Proofs.ConnectionCheck
import ImageWorkflow.Proofs.Isolation
import ImageWorkflow.Proofs.WebAnswers
import ImageWorkflow.Proofs.TextsApart
import ImageWorkflow.Proofs.Renumbering
import ImageWorkflow.Proofs.Erasure
import ImageWorkflow.Proofs.ErasedRuns
import ImageWorkflow.Proofs.NumberedFiles
import ImageWorkflow.Proofs.ImageSeries
import ImageWorkflow.Proofs.NumberText
import ImageWorkflow.Proofs.JsonLayout
import ImageWorkflow.Proofs.JsonText
import ImageWorkflow.Proofs.JsonReading
import ImageWorkflow.Proofs.SortedKeys
import ImageWorkflow.Proofs.SettingsKeys
import ImageWorkflow.Proofs.SortedWire
import ImageWorkflow.Proofs.WorkflowText
import ImageWorkflow.Proofs.LoopPartners
import ImageWorkflow.Proofs.VisitFootprint
import ImageWorkflow.Proofs.LoopPasses
import ImageWorkflow.Proofs.FolderImages
import ImageWorkflow.Proofs.Suspension
import ImageWorkflow.Proofs.OneRun
import ImageWorkflow.Proofs.FirstRefusal
import ImageWorkflow.Proofs.ConfigTiming
import ImageWorkflow.Proofs.Cropping
import ImageWorkflow.Proofs.WholeNumbers
import ImageWorkflow.Proofs.Moving
import ImageWorkflow.Proofs.CatalogueEntries
import ImageWorkflow.Proofs.MemberOrder
