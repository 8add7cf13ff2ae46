import AboutPages.Main
import AboutPages.Proofs.Address.Offsets
import AboutPages.Proofs.Page.Table
import AboutPages.Proofs.Page.History
import AboutPages.Proofs.Page.Enumeration
import AboutPages.Proofs.Page.Resolution
import AboutPages.Proofs.Capability.Naming
import AboutPages.Proofs.Settings.Table
import AboutPages.Proofs.Settings.Comparison
import AboutPages.Proofs.Page.Manifest
import AboutPages.Proofs.Page.Name
import AboutPages.Proofs.Capability.Encoding
import AboutPages.Proofs.Command.Report
import AboutPages.Proofs.Command.Lookup
import AboutPages.Proofs.FileTree.Walk
import AboutPages.Proofs.FileTree.Changes
import AboutPages.Proofs.Settings.File
import AboutPages.Proofs.Command.Footprint
import AboutPages.Proofs.Command.Locations
import AboutPages.Proofs.Page.Admission
import AboutPages.Proofs.Command.Listing
import AboutPages.Proofs.Command.Verdict
import AboutPages.Proofs.Page.Catalogue
import AboutPages.Proofs.Capability.Spelling
import AboutPages.Proofs.Settings.Flags
import AboutPages.Proofs.FileTree.Grounded
import AboutPages.Proofs.Settings.Overwriting
import AboutPages.Proofs.Json.Grammar
import AboutPages.Proofs.Json.Recognition
import AboutPages.Proofs.Command.Document
import AboutPages.Proofs.Text.Quoted
import AboutPages.Proofs.Page.Message
import AboutPages.Proofs.Capability.Legacy
import AboutPages.Proofs.Command.LogLines
import AboutPages.Proofs.Command.Options
