import HomeAlert.Base.Preemption
import HomeAlert.Library.Fixed
import HomeAlert.Library.Registers
import HomeAlert.Library.Resync
import HomeAlert.Link.Alignment
import HomeAlert.Link.CommandLink
import HomeAlert.Link.CommandLoss
import HomeAlert.Link.DataLink
import HomeAlert.Link.Grammar
import HomeAlert.Link.Notification
import HomeAlert.Link.Thresholds
import HomeAlert.Library.Bounds
import HomeAlert.Node.Compensation
import HomeAlert.Node.Accuracy
import HomeAlert.Node.Turns
import HomeAlert.Node.BusFailure
import HomeAlert.Node.Distance
import HomeAlert.Base.Instance
import HomeAlert.Library.Printf
import HomeAlert.Base.Report
import HomeAlert.Link.AlarmLine
import HomeAlert.Link.Supervision
import HomeAlert.Link.System
import HomeAlert.Link.Panel
import HomeAlert.Node.Readings
import HomeAlert.Node.Schedule
import HomeAlert.Library.Timer
import HomeAlert.Base.Tearing
import HomeAlert.Base.Format
import HomeAlert.Library.Urgent
import HomeAlert.Link.Shipped
import HomeAlert.Link.Warnings
import HomeAlert.Link.Cadence
import HomeAlert.Link.Restart
import HomeAlert.Base.Arming
import HomeAlert.Library.Binary
import HomeAlert.Node.Rounding
import HomeAlert.Link.Reported
import HomeAlert.Link.Progress
import HomeAlert.Link.Heartbeat
import HomeAlert.Link.NodeRestart
