import DeviceMatrix.Main
import DeviceMatrix.Source.Scripted
import DeviceMatrix.Proofs.Summary.Complete
import DeviceMatrix.Proofs.Source.Agreement
import DeviceMatrix.Proofs.Source.Offsets
import DeviceMatrix.Proofs.Report.ReadBack
import DeviceMatrix.Proofs.Report.Totals
import DeviceMatrix.Proofs.Report.Characters
import DeviceMatrix.Proofs.Source.Independence
import DeviceMatrix.Proofs.Host.Disk
import DeviceMatrix.Proofs.Host.Machine
import DeviceMatrix.Proofs.Config.Load
import DeviceMatrix.Proofs.Source.Calm
import DeviceMatrix.Proofs.Cli.Init
import DeviceMatrix.Proofs.Cli.Summary
import DeviceMatrix.Proofs.Cli.Footprint
import DeviceMatrix.Proofs.Cli.Rollup
import DeviceMatrix.Proofs.Report.Reload
import DeviceMatrix.Proofs.Report.Alignment
import DeviceMatrix.Proofs.Summary.Counting
import DeviceMatrix.Proofs.Json.Acceptance
import DeviceMatrix.Proofs.Results.Acceptance
import DeviceMatrix.Proofs.Report.Lines
import DeviceMatrix.Proofs.Source.Arguments
import DeviceMatrix.Proofs.Source.Judgement
import DeviceMatrix.Proofs.Cli.Requests
import DeviceMatrix.Proofs.Summary.Axis
import DeviceMatrix.Proofs.Config.Defaults
