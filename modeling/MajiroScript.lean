import MajiroScript.Main
import MajiroScript.Text.Pattern
import MajiroScript.Text.Pattern.Parser
import MajiroScript.Proofs.Container
import MajiroScript.Proofs.Inverse
import MajiroScript.Proofs.Text.ReadBack
import MajiroScript.Proofs.TextOperands
import MajiroScript.Proofs.Calls
import MajiroScript.Proofs.Acceptance
import MajiroScript.Proofs.Opening
import MajiroScript.Proofs.Export
import MajiroScript.Proofs.Lockstep
import MajiroScript.Proofs.Extension
import MajiroScript.Proofs.Command.Effect
import MajiroScript.Proofs.Text.Correspondence
import MajiroScript.Proofs.Layout
import MajiroScript.Proofs.Command.Sizes
import MajiroScript.Proofs.Keystream.Tokens
import MajiroScript.Proofs.Keystream.Files
import MajiroScript.Proofs.Keystream.Period
import MajiroScript.Proofs.Listing.Recovery
import MajiroScript.Proofs.Patching
import MajiroScript.Proofs.Cursor
import MajiroScript.Proofs.Text.Concatenation
import MajiroScript.Proofs.Numbers
