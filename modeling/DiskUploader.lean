import DiskUploader.Fault.Code
import DiskUploader.Fault.Cause
import DiskUploader.Fault.Classify
import DiskUploader.Fault.Basic
import DiskUploader.Text.Basic
import DiskUploader.Number.Shortest
import DiskUploader.Json.Basic
import DiskUploader.Json.Print
import DiskUploader.Json.Read
import DiskUploader.Timeline.Basic
import DiskUploader.Retry.Strategy
import DiskUploader.Retry.Engine
import DiskUploader.Retry.Script
import DiskUploader.Engine.Model
import DiskUploader.Config.Settings
import DiskUploader.Engine.Api
import DiskUploader.Engine.Mock
import DiskUploader.Engine.Waits
import DiskUploader.Image.Qcow
import DiskUploader.Image.Stream
import DiskUploader.Upload.Session
import DiskUploader.Upload.Transport
import DiskUploader.Upload.Pipeline
import DiskUploader.Engine.Rest
import DiskUploader.Upload.HttpTransport
import DiskUploader.Net.Url
import DiskUploader.Files.Basic
import DiskUploader.Net.Http
import DiskUploader.Yaml.Token
import DiskUploader.Yaml.Scanner
import DiskUploader.Yaml.Parser
import DiskUploader.Number.Decimal
import DiskUploader.Yaml.Resolve
import DiskUploader.Yaml.Document
import DiskUploader.Yaml.Decode
import DiskUploader.Yaml.Emit
import DiskUploader.Config.Read
import DiskUploader.Config.Write
import DiskUploader.Number.ByteSize
import DiskUploader.Text.Similarity
import DiskUploader.Text.Layout
import DiskUploader.CommandLine.Grammar
import DiskUploader.CommandLine.Help
import DiskUploader.CommandLine.Error
import DiskUploader.CommandLine.Read
import DiskUploader.Console.Grammar
import DiskUploader.Console.Log
import DiskUploader.Console.Run
import DiskUploader.Main
import DiskUploader.Proofs.RetryPlan
import DiskUploader.Proofs.Timeline
import DiskUploader.Proofs.RetryContract
import DiskUploader.Proofs.Keeps
import DiskUploader.Proofs.StageSpec
import DiskUploader.Proofs.SessionSteps
import DiskUploader.Proofs.UploadFrame
import DiskUploader.Proofs.UploadWalk
import DiskUploader.Proofs.RehearsalFrame
import DiskUploader.Proofs.UploadOutcome
import DiskUploader.Proofs.FaultChains
import DiskUploader.Proofs.TokenBlind
import DiskUploader.Proofs.LateCancel
import DiskUploader.Proofs.PollCountdown
import DiskUploader.Proofs.MockCalls
import DiskUploader.Proofs.MockWaits
import DiskUploader.Proofs.RehearsalSteps
import DiskUploader.Proofs.FreshUpload
import DiskUploader.Proofs.EndpointSearch
import DiskUploader.Proofs.ImageBody
import DiskUploader.Proofs.BodyStream
import DiskUploader.Proofs.RetrySchedule
import DiskUploader.Proofs.MockIsolation
import DiskUploader.Proofs.LayerRules
import DiskUploader.Proofs.ImageHeader
import DiskUploader.Proofs.NestedWaits
import DiskUploader.Proofs.MockScript
import DiskUploader.Proofs.MockFaults
import DiskUploader.Proofs.RestAnswers
import DiskUploader.Proofs.RestTokens
import DiskUploader.Proofs.MockEntries
import DiskUploader.Proofs.MockCountdowns
import DiskUploader.Proofs.Backoff
import DiskUploader.Proofs.StrategySet
import DiskUploader.Proofs.PolicyDeadline
import DiskUploader.Proofs.UploadTraffic
