import WindowsListing.CommandLine.Canonical
import WindowsListing.Main
import WindowsListing.Proofs.CommandLine.Reading
import WindowsListing.Proofs.ExitContract
import WindowsListing.Proofs.Commands.DirLine
import WindowsListing.Proofs.Commands.PowerShellLine
import WindowsListing.Shell.Words
import WindowsListing.Proofs.CommandLine.Aliases
import WindowsListing.Proofs.CommandLine.Asking
import WindowsListing.Proofs.Session
import WindowsListing.Proofs.Commands.LineEnds
import WindowsListing.Proofs.Console
import WindowsListing.Proofs.Showing
import WindowsListing.Proofs.CommandLine.Refusals
import WindowsListing.Proofs.Precedence
import WindowsListing.Proofs.Styling
import WindowsListing.Proofs.Commands.Demands
import WindowsListing.Proofs.CommandLine.ProgramNames
import WindowsListing.Proofs.Commands.Slashes
import WindowsListing.Proofs.Commands.Dashes
import WindowsListing.Proofs.Shell.Marks
import WindowsListing.Proofs.Commands.Operators
import WindowsListing.Proofs.Commands.PathWords
import WindowsListing.Proofs.Commands.GivenBack
import WindowsListing.Proofs.LaunchFailures
