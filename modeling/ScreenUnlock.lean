import ScreenUnlock.Auth.Dialogue
import ScreenUnlock.Dispatch.Rehearsal
import ScreenUnlock.Input.Rehearsal
import ScreenUnlock.Main
import ScreenUnlock.Proofs.Config.Limits
import ScreenUnlock.Proofs.Config.Overlay
import ScreenUnlock.Proofs.Dispatch.Abandonment
import ScreenUnlock.Proofs.Dispatch.Company
import ScreenUnlock.Proofs.Dispatch.ExitReason
import ScreenUnlock.Proofs.Dispatch.ExitRequest
import ScreenUnlock.Proofs.Dispatch.Secrecy
import ScreenUnlock.Proofs.Dispatch.Signalling
import ScreenUnlock.Proofs.Dispatch.Unlock
import ScreenUnlock.Proofs.Input.Splitting
import ScreenUnlock.Proofs.Privilege.Calls
import ScreenUnlock.Proofs.Privilege.Service
import ScreenUnlock.Proofs.Session.History
import ScreenUnlock.Proofs.Slot.Handover
import ScreenUnlock.Proofs.Startup.FailOpen
import ScreenUnlock.Proofs.Wire.Framing
import ScreenUnlock.Proofs.Wire.Offers
import ScreenUnlock.Slot.Rehearsal
import ScreenUnlock.Proofs.Wire.Marker
import ScreenUnlock.Proofs.Input.Shape
import ScreenUnlock.Proofs.Input.Checked
import ScreenUnlock.Proofs.Input.Residue
