import Scaffold.Main
import Scaffold.Proofs.Run.Agree
import Scaffold.Proofs.Run.Apply
import Scaffold.Proofs.Walk.Flat
import Scaffold.Proofs.Walk.Moment
import Scaffold.Proofs.Run.Changes
import Scaffold.Proofs.Run.Footprint
import Scaffold.Proofs.Run.Refusal
import Scaffold.Proofs.Walk.Binding
import Scaffold.Proofs.Walk.Footprint
import Scaffold.Proofs.Walk.Stop
import Scaffold.Proofs.Path.Words
import Scaffold.Proofs.Disk.Sound
import Scaffold.Proofs.Path.Canonical
import Scaffold.Proofs.Path.Prefix
import Scaffold.Proofs.Session.Loading
import Scaffold.Proofs.Session.Validation
import Scaffold.Proofs.Disk.Follow
import Scaffold.Proofs.Walk.Reach
import Scaffold.Proofs.Disk.Growth
import Scaffold.Proofs.Run.Making
import Scaffold.Proofs.Run.Growth
import Scaffold.Proofs.Run.Done
import Scaffold.Proofs.Walk.Conditional
import Scaffold.Proofs.Disk.Outline
import Scaffold.Proofs.Run.Outline
import Scaffold.Proofs.Walk.Outline
import Scaffold.Proofs.Disk.Enters
import Scaffold.Proofs.Walk.Trace
import Scaffold.Proofs.Path.Folding
import Scaffold.Proofs.Path.Length
import Scaffold.Proofs.Path.Normal
import Scaffold.Proofs.Disk.Normalize
import Scaffold.Proofs.Decode.Keys
import Scaffold.Proofs.Decode.Manifest
import Scaffold.Proofs.Session.Root
import Scaffold.Proofs.Session.Spelling
import Scaffold.Proofs.NameOrder
import Scaffold.Proofs.Session.Registry
import Scaffold.Proofs.Session.Imports
import Scaffold.Proofs.Disk.Descend
import Scaffold.Proofs.Run.Copies
import Scaffold.Proofs.Run.ReadBack
import Scaffold.Proofs.Run.Overlay
import Scaffold.Proofs.Disk.Reveal
import Scaffold.Proofs.Walk.Missing
import Scaffold.Proofs.Decode.Step
import Scaffold.Proofs.Decode.Quoting
import Scaffold.Proofs.Decode.Members
import Scaffold.Proofs.Decode.Encoding
import Scaffold.Proofs.Decode.Conversion
import Scaffold.Proofs.Path.Below
import Scaffold.Proofs.Results
import Scaffold.Proofs.Template.Segment
import Scaffold.Proofs.Template.Scanning
import Scaffold.Proofs.Template.Reading
import Scaffold.Proofs.Template.Running
import Scaffold.Proofs.Template.Substitution
import Scaffold.Proofs.Run.Passage
import Scaffold.Proofs.Run.Sight
import Scaffold.Proofs.Run.Repeat
import Scaffold.Proofs.Run.Commute
