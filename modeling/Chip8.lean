import Chip8.Fault.Notice
import Chip8.Files.Tree
import Chip8.Main
import Chip8.Program
import Chip8.Ticker
import Chip8.Proofs.Execution
import Chip8.Proofs.History
import Chip8.Proofs.Invariant
import Chip8.Proofs.Faults
import Chip8.Proofs.KeyWait
import Chip8.Proofs.Drawing
import Chip8.Proofs.HexText
import Chip8.Proofs.Mnemonics
import Chip8.Proofs.Dialects
import Chip8.Proofs.Timers
import Chip8.Proofs.Reload
import Chip8.Proofs.Calls
import Chip8.Proofs.Picture
import Chip8.Proofs.Documents
import Chip8.Proofs.Surroundings
import Chip8.Proofs.Playing
import Chip8.Proofs.Effects
import Chip8.Proofs.Operations
import Chip8.Proofs.NamedRegisters
import Chip8.Proofs.Masks
import Chip8.Proofs.Collisions
import Chip8.Proofs.Trimming
import Chip8.Proofs.ByteMap
import Chip8.Proofs.Streams
import Chip8.Proofs.Schedule
import Chip8.Proofs.Members
import Chip8.Proofs.Choices
import Chip8.Proofs.Acceptance
import Chip8.Proofs.Precedence
import Chip8.Proofs.Dump
import Chip8.Proofs.Listings
import Chip8.Proofs.Recovery
import Chip8.Proofs.Indicator
