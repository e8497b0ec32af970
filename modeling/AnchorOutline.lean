import AnchorOutline.Active.Run
import AnchorOutline.Cli.Run
import AnchorOutline.Main
import AnchorOutline.Proofs.Active.Operation
import AnchorOutline.Proofs.Outline.Sections
import AnchorOutline.Proofs.Active.Registration
import AnchorOutline.Proofs.Active.Run
import AnchorOutline.Proofs.Active.Sharing
import AnchorOutline.Proofs.Active.Atomicity
import AnchorOutline.Proofs.Session.Run
import AnchorOutline.Proofs.Session.Show
import AnchorOutline.Proofs.Sets.RoundTrip
import AnchorOutline.Proofs.Active.Keeping
import AnchorOutline.Proofs.Session.Stores
import AnchorOutline.Proofs.Active.Calls
import AnchorOutline.Proofs.Outline.Handles
import AnchorOutline.Proofs.Active.Saving
import AnchorOutline.Proofs.Session.Edits
import AnchorOutline.Proofs.Outline.Joining
import AnchorOutline.Proofs.Outline.Providing
import AnchorOutline.Proofs.Active.Nonblank
import AnchorOutline.Proofs.Cli.Unseen
import AnchorOutline.Proofs.Cli.Frame
import AnchorOutline.Proofs.Outline.MorePatterns
import AnchorOutline.Proofs.Sets.Recall
import AnchorOutline.Proofs.Terminal.Choosing
import AnchorOutline.Proofs.Session.Fixing
import AnchorOutline.Proofs.Sets.Reading
import AnchorOutline.Proofs.Outline.LineBreaks
import AnchorOutline.Proofs.Session.Reading
import AnchorOutline.Proofs.Sets.Spelling
import AnchorOutline.Proofs.Terminal.Typing
import AnchorOutline.Proofs.Terminal.Numbers
