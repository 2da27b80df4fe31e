import DsiPanel.Catalog
import DsiPanel.Host.Board
import DsiPanel.Panel.Session
import DsiPanel.Table.Vendor
import DsiPanel.Host.Bench
import DsiPanel.Proofs.Plan
import DsiPanel.Proofs.Ending
import DsiPanel.Proofs.Account
import DsiPanel.Proofs.Verdict
import DsiPanel.Proofs.Blocks
import DsiPanel.Proofs.History
import DsiPanel.Proofs.Levels
import DsiPanel.Proofs.Registers
import DsiPanel.Proofs.Limits
import DsiPanel.Proofs.VendorMeaning
import DsiPanel.Proofs.Recovery
import DsiPanel.Proofs.FaultOrigin
import DsiPanel.Proofs.PartFaults
import DsiPanel.Proofs.Custody
import DsiPanel.Proofs.Walk
import DsiPanel.Proofs.Interchange
import DsiPanel.Proofs.WaitTime
import DsiPanel.Proofs.Leftovers
import DsiPanel.Proofs.VendorFormat
import DsiPanel.Proofs.Parts
import DsiPanel.Proofs.Overrun
import DsiPanel.Proofs.PinnedRail
import DsiPanel.Proofs.ScriptWalk
import DsiPanel.Proofs.Trace
import DsiPanel.Proofs.Bracket
import DsiPanel.Proofs.Uniform
import DsiPanel.Proofs.Probing
import DsiPanel.Proofs.Carry
import DsiPanel.Proofs.Loan
