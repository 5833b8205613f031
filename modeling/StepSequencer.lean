import StepSequencer.Main
import StepSequencer.Playback.Clock
import StepSequencer.Proofs.Invocations
import StepSequencer.Proofs.PlayLength
import StepSequencer.Proofs.Timetable
import StepSequencer.Proofs.NoteLengths
import StepSequencer.Proofs.NestedPlays
import StepSequencer.Proofs.SilentCopies
import StepSequencer.Proofs.Sending
import StepSequencer.Proofs.Moves
import StepSequencer.Proofs.Chronicles
import StepSequencer.Proofs.Framing
import StepSequencer.Proofs.Endings
import StepSequencer.Proofs.Meanings
import StepSequencer.Proofs.BlockOrder
import StepSequencer.Proofs.Cycles
import StepSequencer.Proofs.CanonicalLines
import StepSequencer.Proofs.Effects
import StepSequencer.Proofs.Switchboard
import StepSequencer.Proofs.Histories
import StepSequencer.Proofs.PulseSources
import StepSequencer.Proofs.Continuing
import StepSequencer.Proofs.Showings
import StepSequencer.Proofs.CapturedPlays
import StepSequencer.Proofs.ClockMessages
import StepSequencer.Proofs.Unblocked
import StepSequencer.Proofs.Sounding
import StepSequencer.Proofs.Cuts
import StepSequencer.Proofs.NamedWords
import StepSequencer.Proofs.Accounts
import StepSequencer.Proofs.Manuscripts
import StepSequencer.Proofs.WrittenHeaders
import StepSequencer.Proofs.WireForm
import StepSequencer.Proofs.RepeatSuffixes
import StepSequencer.Proofs.FaultyBlocks
import StepSequencer.Proofs.GeneratedParts
import StepSequencer.Proofs.Releases
import StepSequencer.Proofs.Pacers
import StepSequencer.Proofs.SharedNames
import StepSequencer.Proofs.Rereading
import StepSequencer.Proofs.DrawnNotes
import StepSequencer.Proofs.Expansion
import StepSequencer.Proofs.KeptFaults
import StepSequencer.Proofs.Subscribers
import StepSequencer.Proofs.MistypedNumbers
import StepSequencer.Proofs.Reloads
import StepSequencer.Proofs.WrittenRepeats
import StepSequencer.Proofs.TempoLimits
